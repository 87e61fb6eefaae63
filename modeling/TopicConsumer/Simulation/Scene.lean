import TopicConsumer.Simulation.Command
import TopicConsumer.Simulation.Moves

/-!
# Scenes

A scene is a world with something in it to begin with: a batch to be handled, the worker of a
partition, or a consumer.
-/

namespace TopicConsumer.Simulation

/-! ## A batch -/

/-- How the handling of a batch went. -/
structure BatchRun where
  /-- How it ended, if it did. -/
  ending : Option Batcher.Ending
  ms : Nat
  notes : List Note
  /-- The greatest number of sleepers. -/
  peak : Nat
  cancelled : Bool
  /-- What the batch became. -/
  batch : BatchContext

/-- Runs a pipeline and keeps what the batch becomes. -/
def executeBatch (steps : List BatchProbe) (c : BatchContext) : BatchRoutine staging Outcome := do
  let (outcome, c) ← (batchPipeline steps).execute c
  (ask (.keep c)).inBatch
  pure outcome

/-- Handles a batch, under a cancellation that is raised after some milliseconds, if it is. -/
def runBatch (clock : Clock) (cancelAt : Option Nat) (batch : BatchContext)
    (routine : BatchRoutine staging Outcome) : BatchRun :=
  let setup := Setup.bare clock
  let h := { Handling.ofRoutine routine with cancelled := cancelAt = some 0 }
  let w := { World.fresh clock with handlings := [(none, h)] }
  let w := match cancelAt with
    | none => w
    | some time => (w.addErrand (.cancelAt time (time = 0))).1
  let (w, n) := w.runErrand setup patientLimit (.handle none)
  { ending := match w.errands[n]? with
      | some (.handle ending) => ending
      | _ => none
    ms := w.now
    notes := w.stage.notes
    peak := w.stage.mostAsleep
    cancelled := (w.handlings.lookup none).any Handling.cancelled
    batch := w.stage.kept.getD batch }
where
  /-- Longer than any delay of a message. -/
  patientLimit : Nat := Nat.pow 10 18

/-! ## Workers -/

/-- Converts as usual, and marks key and headers with a text. -/
def markingConverter (text : String) : Converter := fun r =>
  let m := r.toMessage
  { m with key := some (m.key.getD "" ++ text), headers := m.headers.insert "X-Converted" text }

/-- The day and hour at which the states of partitions begin. -/
def Clock.morning : Timestamp := ⟨1714557600 * nanosPerSecond, 0, by decide⟩

/-- The setup of workers that are watched. -/
def Setup.watched (s : Subscription staging) : Setup :=
  { Setup.bare (.ticking Clock.morning) with
    subscriptionFor? := fun _ => some s, watchesStates := true }

/-- Carries out commands without telling of each of them. -/
def World.prepare (setup : Setup) : List Command → World → World × Option String
  | [], w => (w, none)
  | command :: rest, w =>
    match w.perform setup command with
    | (w, .crashed text) => (w, some text)
    | (w, _) => prepare setup rest w

/-- Starts the worker of a partition. -/
def World.spawn (setup : Setup) (p : TopicPartition) (settings : BatchSettings) (w : World) :
    World × Option String :=
  let (c, events, crash) := w.consumer.spawn (w.surroundings setup) p settings
  (events.foldl (World.reportConsumer setup) { w with consumer := c }, crash)

/-- The worker of a partition and what commands lead to, after some that come before the worker. A
crash ends them all. -/
def playWorker (clock : Clock) (s : Subscription staging) (p : TopicPartition)
    (before : List Command) (commands : List Command) : Except String (List Episode) :=
  let setup := Setup.watched s
  match (World.fresh clock).prepare setup before with
  | (_, some text) => .error text
  | (w, none) =>
    match w.spawn setup p s.batching with
    | (_, some text) => .error text
    | (w, none) => do
      let w := w.settle setup
      .ok (w.episode .done 0 :: (← w.playOn setup (commands.map (·, true))))

/-! ## A pause that comes late -/

/-- What calls that enqueue records one after the other led to: how each of them ended, with the
offset queued last and the offset of the pause afterwards. -/
structure LatePause where
  results : List (Except WorkerError Unit × Option Offset × Option Offset)
  committed : Option Offset
  calls : List (TopicPartition × String)

namespace LatePause

/-- Moves a call that enqueues a record. Before it pauses the partition, the gate lets one batch
through, and everything that follows from that is done. -/
def enqueue (setup : Setup) (r : Record) : Nat → World → Intake → World × Intake
  | 0, w, call => (w, call)
  | fuel + 1, w, call =>
    let w := match call with
      | .pausing => (w.perform setup (.openGate 1)).1.settle setup
      | _ => w
    match (w.consumer.station? 0).bind (call.step (w.surroundings setup) r) with
    | some (s, call, events) =>
      enqueue setup r fuel (events.foldl (World.report setup) (w.withStation 0 s)) call
    | none =>
      match call.wakeAt with
      | some time => enqueue setup r fuel (w.pass setup (time - w.now)) call
      | none => (w, call)

/-- Records are enqueued one after the other, up to the first crash. -/
def enqueueAll (setup : Setup) : List Record → World → Except String LatePause
  | [], w => .ok ⟨[], (w.consumer.manager.state partition).committed, w.journal.calls⟩
  | r :: rest, w => do
    let (w, call) := enqueue setup r 64 w .checkingStatus
    let w := w.settle setup
    let state := w.consumer.manager.state partition
    let queued := (w.consumer.workers[0]?).bind Worker.latestQueued
    match call with
    | .returned result =>
      let later ← enqueueAll setup rest w
      pure { later with results := (result, queued, state.pausedAt) :: later.results }
    | .crashed text => .error text
    | _ => enqueueAll setup rest w
where
  /-- The partition of the records. -/
  partition : TopicPartition := ⟨"orders", 0⟩

/-- A worker whose handler waits at the gate gets one record more than its capacity, and then the
last one again. -/
def play (capacity : Nat) (first : Offset) (fault : Option (Duty × BrokerError)) :
    Except String LatePause :=
  let settings : BatchSettings := { batchSize := capacity, queueCapacity := capacity }
  let handler := Script.toHandler ⟨[(0, .gate)], [], false⟩
  let subscription : Subscription staging := { topics := ["orders"], handler, batching := settings }
  let setup := Setup.watched subscription
  let w := { World.fresh .independent with faults := fault.toList }
  match w.spawn setup enqueueAll.partition settings.clamped with
  | (_, some text) => .error text
  | (w, none) =>
    let offsets := (List.range (capacity + 1)).map fun (i : Nat) => first + i
    let records := (offsets ++ [first + capacity]).map fun (offset : Offset) =>
      (⟨enqueueAll.partition, offset, none, none, [], none⟩ : Record)
    enqueueAll setup records (w.settle setup)

end LatePause

/-! ## Consumers -/

/-- The setup of a consumer of these settings. -/
def Setup.ofSettings (s : ConsumerSettings staging) (judge : Judge)
    (hook : Option (Except String Unit)) (client : Option OfflineClient) : Setup where
  profile := s.profile hook.isSome
  subscriptionFor? := s.subscriptionFor?
  pollTimeout := s.pollTimeout
  judge := judge
  hookAnswer := hook.getD (.ok ())
  watchesStates := false
  clock := .ticking Clock.morning
  client := client

/-- What commands to a consumer of accepted settings lead to. A command that crashes ends them all.
-/
def playConsumer (clock : Clock) (s : ConsumerSettings staging) (judge : Judge)
    (hook : Option (Except String Unit)) (commands : List (Command × Bool)) :
    Except ConsumerError (Except String (List Episode)) := do
  s.validate
  .ok ((World.fresh clock).playOn (.ofSettings s judge hook none) commands)

/-- What commands to a consumer lead to whose client knows of no broker. A command that crashes ends
them all. -/
def playClient (s : ConsumerSettings staging) (commands : List Command) :
    Except ConsumerError (Except String (List Episode)) := do
  s.validate
  let settings := setEntry "bootstrap.servers" "" s.clientConfig
  let client ← (OfflineClient.create settings).mapError .create
  let setup := Setup.ofSettings s (.fixed .usual) none (some client)
  .ok ((World.fresh .independent).playOn setup (commands.map (·, true)))

end TopicConsumer.Simulation
