import TopicConsumer.Batch.Dispatch
import TopicConsumer.Entries
import TopicConsumer.Simulation.Cue
import TopicConsumer.Time.Sleep

/-!
# The stage of staged handlers

The stage is what the handlers of a simulation share: its time in whole milliseconds, the clock they
read, the gate, what they have counted and what they have left behind. A routine is run on the stage
up to the first question that cannot be answered at once; the routine then pauses, and the pause
says what it waits for.
-/

namespace TopicConsumer.Simulation

/-- The clock that handlers read. -/
inductive Clock where
  /-- It always shows the same instant. -/
  | fixed (instant : Timestamp)
  /-- It goes with the time of the simulation. -/
  | ticking (start : Timestamp)
  /-- It has nothing to do with the simulation. -/
  | independent

/-- An instant shown by a clock that has nothing to do with the simulation. -/
def Clock.anyInstant : Timestamp := ⟨1750000000 * nanosPerSecond, 0, by decide⟩

/-- What a clock says when its date cannot be written any more: the days alone lead too far, or the
rest of the time does. -/
def Clock.crashText (start : Timestamp) (elapsed : Nat) : String :=
  match start.addSeconds? (elapsed / 86400000 * 86400) with
  | none => "overflow adding duration to date"
  | some _ => "resulting value is out of range"

/-- A look at the clock after so many milliseconds. -/
def Clock.reading (elapsed : Nat) : Clock → ClockReading
  | .fixed instant => .shown instant
  | .ticking start =>
    match Timestamp.at? (start.nanos + elapsed * nanosPerMilli) start.offset with
    | some instant => .shown instant
    | none => .crashed (crashText start elapsed)
  | .independent => .shown anyInstant

/-- A gate lets those through who hold a permit, in the order in which they came. -/
structure Gate where
  permits : Nat
  /-- The tickets of those who wait. -/
  waiting : List Nat
  /-- The tickets that were given out. -/
  tickets : Nat

namespace Gate

/-- A gate without permits. -/
def closed : Gate := ⟨0, [], 0⟩

/-- More permits. -/
def admitMore (n : Nat) (g : Gate) : Gate := { g with permits := g.permits + n }

/-- Somebody new goes through, unless all permits are meant for others. -/
def enter? (g : Gate) : Option Gate :=
  if g.waiting.length < g.permits then some { g with permits := g.permits - 1 } else none

/-- Somebody new waits. -/
def queue (g : Gate) : Gate × Nat :=
  ({ g with waiting := g.waiting ++ [g.tickets], tickets := g.tickets + 1 }, g.tickets)

/-- Whoever holds the ticket goes through, if it is their turn. -/
def grant? (ticket : Nat) (g : Gate) : Option Gate :=
  if g.waiting.idxOf ticket < min g.permits g.waiting.length then
    some { g with permits := g.permits - 1, waiting := g.waiting.erase ticket }
  else none

/-- Whoever holds the ticket gives up. -/
def leave (ticket : Nat) (g : Gate) : Gate := { g with waiting := g.waiting.erase ticket }

end Gate

/-- A note: when it was left, the offset of its message, if it is about one, and its text. -/
structure Note where
  time : Nat
  offset : Option Offset
  text : String

namespace Note

/-- The offset of the message, and -1 for a note about a whole batch. -/
def place (n : Note) : Offset := n.offset.getD (-1)

/-- The notes by time and place, equal ones in the order in which they were left. -/
def sorted (ns : List Note) : List Note :=
  ns.mergeSort fun a b => a.time < b.time || (a.time == b.time && a.place ≤ b.place)

end Note

/-- The batches of a partition so far. -/
structure History where
  batches : Nat
  /-- The offsets of the batch before, and the time of its failure, if it failed. -/
  failure : Option (List Offset × Nat)

/-- What staged handlers share. -/
structure Stage where
  now : Nat
  clock : Clock
  gate : Gate
  tallies : List (String × Nat)
  histories : List (TopicPartition × History)
  asleep : Nat
  /-- The greatest number of sleepers so far. -/
  mostAsleep : Nat
  notes : List Note
  /-- The reports about batches. -/
  lines : List (TopicPartition × String)
  /-- What a batch has become. -/
  kept : Option BatchContext

namespace Stage

/-- A stage at its beginning. -/
def fresh (clock : Clock) : Stage := ⟨0, clock, .closed, [], [], 0, 0, [], [], none⟩

/-- Leaves a note. -/
def note (offset : Option Offset) (text : String) (s : Stage) : Stage :=
  { s with notes := s.notes ++ [⟨s.now, offset, text⟩] }

/-- Reports about a batch. -/
def line (p : TopicPartition) (text : String) (s : Stage) : Stage :=
  { s with lines := s.lines ++ [(p, text)] }

/-- Somebody falls asleep. -/
def fallAsleep (s : Stage) : Stage :=
  { s with asleep := s.asleep + 1, mostAsleep := max s.mostAsleep (s.asleep + 1) }

/-- Somebody wakes up. -/
def wakeUp (s : Stage) : Stage := { s with asleep := s.asleep - 1 }

/-- The batches of a partition so far. -/
def history (p : TopicPartition) (s : Stage) : History := (s.histories.lookup p).getD ⟨0, none⟩

/-- A batch begins: the number of those before it, and how long ago the same offsets failed. -/
def opening (p : TopicPartition) (offsets : List Offset) (s : Stage) : Stage × Nat × Option Nat :=
  let h := s.history p
  let gap := h.failure.bind fun (failed, time) =>
    if failed = offsets then some (s.now - time) else none
  ({ s with histories := setEntry p ⟨h.batches + 1, none⟩ s.histories }, h.batches, gap)

/-- The batch fails. -/
def failure (p : TopicPartition) (offsets : List Offset) (s : Stage) : Stage :=
  { s with histories :=
      setEntry p { s.history p with failure := some (offsets, s.now) } s.histories }

end Stage

/-! ## Pauses -/

/-- What a routine waits for. It goes on with an `R`. -/
inductive Pause (R : Type) where
  /-- It never goes on, since it has crashed. -/
  | crashed (text : String)
  /-- It sleeps, if `cancellable` only as long as nothing is cancelled, which it is told then. Some
  sleepers are counted. -/
  | sleeping (wake : Nat) (cancellable counted : Bool) (resume : Bool → R)
  | atGate (ticket : Nat) (resume : R)
  | forever
  | untilCancelled (resume : R)
  /-- It waits for tasks. -/
  | dispatching (tasks : Dispatch (MessageRoutine staging Outcome)) (resume : Outcome → R)

namespace Pause

variable {R S : Type}

/-- Goes on with something else. -/
def map (f : R → S) : Pause R → Pause S
  | .crashed text => .crashed text
  | .sleeping wake cancellable counted resume =>
    .sleeping wake cancellable counted fun b => f (resume b)
  | .atGate ticket resume => .atGate ticket (f resume)
  | .forever => .forever
  | .untilCancelled resume => .untilCancelled (f resume)
  | .dispatching tasks resume => .dispatching tasks fun o => f (resume o)

/-- The end of the pause, if it has come. -/
def end? (stage : Stage) (cancelled : Bool) : Pause R → Option (Stage × R)
  | .sleeping wake cancellable counted resume =>
    if cancellable && cancelled then some (stage, resume false)
    else if wake ≤ stage.now then some (if counted then stage.wakeUp else stage, resume true)
    else none
  | .atGate ticket resume =>
    (stage.gate.grant? ticket).map fun gate => ({ stage with gate := gate }, resume)
  | .untilCancelled resume => if cancelled then some (stage, resume) else none
  | .crashed _ | .forever | .dispatching _ _ => none

/-- When the pause ends by itself. -/
def wakeAt : Pause R → Option Nat
  | .sleeping wake _ _ _ => some wake
  | _ => none

/-- Nobody waits any more. -/
def leave (stage : Stage) : Pause R → Stage
  | .atGate ticket _ => { stage with gate := stage.gate.leave ticket }
  | .sleeping _ _ true _ => stage.wakeUp
  | _ => stage

end Pause

/-! ## Running -/

/-- What a routine finds: the stage, whether its handling is cancelled from outside or by itself,
and the batch that was reported to begin. -/
structure Scope where
  stage : Stage
  outside : Bool
  inside : Bool
  begun : Option (TopicPartition × List Offset)

/-- The cancellation has been raised. -/
def Scope.isCancelled (s : Scope) : Bool := s.outside || s.inside

/-- An answer, or the pause until there is one. -/
abbrev Verdict (R : Type) := Except (Pause R) R

/-- Sleeps for some milliseconds, if there are any. -/
def sleepFor (ms : Nat) (counted : Bool) : StateM Scope (Verdict Unit) := do
  let s ← get
  if ms = 0 then pure (.ok ())
  else pure (.error (.sleeping (sleepEnd s.stage.now ms) false counted fun _ => ()))

/-- Answers a question of a staged handler. -/
def answerCue : (q : Cue) → StateM Scope (Verdict q.Reply)
  | .note offset text => do
    modify fun s => { s with stage := s.stage.note offset text }
    pure (.ok ())
  | .keep context => do
    modify fun s => { s with stage := { s.stage with kept := some context } }
    pure (.ok ())
  | .tally key => do
    let s ← get
    let runs := (s.stage.tallies.lookup key).getD 0 + 1
    set { s with stage := { s.stage with tallies := setEntry key runs s.stage.tallies } }
    pure (.ok runs)
  | .sleep ms => do
    modify fun s => { s with stage := s.stage.fallAsleep }
    if ms = 0 then modify fun s => { s with stage := s.stage.wakeUp }
    sleepFor ms true
  | .rest ms => sleepFor ms false
  | .gate => do
    let s ← get
    match s.stage.gate.enter? with
    | some gate =>
      set { s with stage := { s.stage with gate := gate } }
      pure (.ok ())
    | none =>
      let (gate, ticket) := s.stage.gate.queue
      set { s with stage := { s.stage with gate := gate } }
      pure (.error (.atGate ticket ()))
  | .never => pure (.error .forever)
  | .cancellation => do
    if (← get).isCancelled then pure (.ok ()) else pure (.error (.untilCancelled ()))
  | .opening p offsets => do
    let s ← get
    let (stage, reply) := s.stage.opening p offsets
    set { s with stage := stage, begun := some (p, offsets) }
    pure (.ok reply)
  | .line p text => do
    modify fun s => { s with stage := s.stage.line p text }
    pure (.ok ())
  | .failure p offsets => do
    modify fun s => { s with stage := s.stage.failure p offsets }
    pure (.ok ())

/-- The whole milliseconds that cover so many nanoseconds. -/
def coveringMillis (nanos : Nat) : Nat := (nanos + 999999) / 1000000

/-- Answers a question of message handling. -/
def answerMessage : (q : MessageQuery staging) → StateM Scope (Verdict q.Reply)
  | .now => do
    let s ← get
    pure (match s.stage.clock.reading s.stage.now with
      | .shown instant => .ok instant
      | .crashed text => .error (.crashed text))
  | .wait nanos => do
    let s ← get
    if s.isCancelled then pure (.ok false)
    else pure (.error (.sleeping (sleepEnd s.stage.now (coveringMillis nanos)) true false id))
  | .isCancelled => do pure (.ok (← get).isCancelled)
  | .cancel => do
    modify fun s => { s with inside := true }
    pure (.ok ())
  | .crash text => pure (.error (.crashed text))
  | .app q => answerCue q

/-- Answers a question of batch handling. -/
def answerBatch : (q : BatchQuery staging) → StateM Scope (Verdict q.Reply)
  | .message q => answerMessage q
  | .dispatch limit jobs => pure (.error (.dispatching (.ofJobs limit jobs) id))

/-- Runs a routine up to its end or its next pause. -/
def run {D : Dialogue} (answer : (q : D.Query) → StateM Scope (Verdict (D.Reply q))) :
    Routine D Outcome → StateM Scope (Except (Pause (Routine D Outcome)) Outcome)
  | .done outcome => pure (.ok outcome)
  | .ask q k => do
    match ← answer q with
    | .ok reply => run answer (k reply)
    | .error pause => pure (.error (pause.map k))

end TopicConsumer.Simulation
