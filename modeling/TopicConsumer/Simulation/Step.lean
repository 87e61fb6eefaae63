import TopicConsumer.Simulation.World

/-!
# Steps of a world

Each task of a world moves in single steps, as its machine says. A task that cannot move has no
step.
-/

namespace TopicConsumer.Simulation.World

/-! ## Steps of workers -/

/-- The world after a step of a worker. -/
def withStation (w : World) (worker : Nat) (s : Station) : World :=
  { w with consumer := w.consumer.setStation worker s }

/-- A batch is handed to the handler of its topic. -/
def hand (setup : Setup) (worker : Nat) (p : TopicPartition) (batch : List Record) (w : World) :
    World :=
  match setup.subscriptionFor? p.topic with
  | none => w
  | some s =>
    { w with handlings :=
        setEntry (some worker) (.ofRoutine (s.handler (batch.map s.convert))) w.handlings }

/-- The handler of a worker is done with. -/
def removeHandling (worker : Nat) (w : World) : World :=
  { w with handlings := w.handlings.filter (·.1 ≠ some worker) }

/-- The handler of a worker is given up. -/
def dropHandling (worker : Nat) (w : World) : World :=
  match w.handlings.lookup (some worker) with
  | none => w
  | some h => { w with stage := h.leave w.stage }.removeHandling worker

/-- Writes down what a step of a batcher did, and begins or gives up handling. -/
def batcherEvent (setup : Setup) (worker : Nat) (p : TopicPartition) (w : World) (e : Event) :
    World :=
  match e with
  | .handed batch => w.hand setup worker p batch
  | .abandoned _ => w.dropHandling worker
  | e => w.report setup e

/-- The next step of a batcher: one of its own, or one of the handler of its batch. -/
def stepBatcher (setup : Setup) (worker : Nat) (w : World) : Option World := do
  let s ← w.consumer.station? worker
  let record (w : World) (events : List Event) :=
    events.foldl (batcherEvent setup worker s.worker.partition) w
  match Batcher.step (w.surroundings setup) s with
  | some (s, events) => some (record (w.withStation worker s) events)
  | none => do
    let h ← w.handlings.lookup (some worker)
    let (stage, h, ending) ← h.step w.stage s.worker.cancelled
    let w := { w with stage := stage }
    match ending with
    | none => some { w with handlings := setEntry (some worker) h w.handlings }
    | some ending =>
      let (s, events) ← Batcher.handlerEnds (w.surroundings setup) ending s
      some (record ((w.removeHandling worker).withStation worker s) events)

/-- The handler is cancelled from outside: its worker is. -/
def isCancelledOutside (w : World) (owner : Option Nat) : Bool :=
  (owner.bind fun worker => w.consumer.workers[worker]?).any Worker.cancelled

/-- The next step of a task of a handler. -/
def stepMessage (owner : Option Nat) (task : Nat) (w : World) : Option World := do
  let h ← w.handlings.lookup owner
  let (stage, h) ← h.taskStep w.stage (w.isCancelledOutside owner) task
  some { w with stage := stage, handlings := setEntry owner h w.handlings }

/-- The next step of a task that closes a removed worker. -/
def stepRemoval (setup : Setup) (n : Nat) (w : World) : Option World := do
  let (worker, call) ← w.consumer.removals[n]?
  let s ← w.consumer.station? worker
  let (s, call, events) ← call.step (w.surroundings setup) s
  let w := w.withStation worker s
  let w := { w with consumer := { w.consumer with
    removals := w.consumer.removals.set n (worker, call) } }
  some (events.foldl (report setup) w)

/-! ## Steps of the consumer -/

/-- The poll loop goes on. -/
def withLoop (setup : Setup) (w : World) (c : Consumer) (loop : PollLoop)
    (events : List ConsumerEvent) : World :=
  events.foldl (reportConsumer setup)
    { w with consumer := { c with loop := some loop }, poll := .notBegun, pending := none }

/-- The consumer is told all partitions that it is to have. -/
def assign (setup : Setup) (inRuntime : Bool) (ps : List TopicPartition) (w : World) :
    World × Option String :=
  let (c, events, crash) := w.consumer.assign (w.surroundings setup) setup.profile inRuntime ps
  (events.foldl (reportConsumer setup) { w with consumer := c }, crash)

/-- The consumer is told partitions that it is about to lose. -/
def revoke (setup : Setup) (ps : List TopicPartition) (w : World) : World × Option String :=
  let (c, events, crash) := Consumer.revoke (w.surroundings setup) ps w.consumer
  (events.foldl (reportConsumer setup) { w with consumer := c }, crash)

/-- A poll comes upon what is next. -/
def comeUpon (setup : Setup) : List Occurrence → World → World
  | [], w => { w with occurrences := [], poll := .exhausted (sleepEnd w.now setup.pollTimeout) }
  | .found result :: rest, w =>
    let (loop, events) := PollLoop.polled w.consumer result
    { w with occurrences := rest }.withLoop setup w.consumer loop events
  | .assign ps :: rest, w => goOn rest (w.assign setup true ps)
  | .revoke ps :: rest, w => goOn rest (w.revoke setup ps)
  | .pass ms :: rest, w =>
    if ms = 0 then comeUpon setup rest w
    else { w with occurrences := rest, poll := .passing (sleepEnd w.now ms) }
where
  /-- Goes on, unless the consumer has crashed. -/
  goOn (rest : List Occurrence) : World × Option String → World
    | (w, none) => comeUpon setup rest w
    | (w, some text) =>
      { w with occurrences := rest }.withLoop setup w.consumer (.crashed text) []

/-- The next step of a poll, apart from the one that lets everything else move first. -/
def stepPoll (setup : Setup) (w : World) : Option World :=
  match w.poll with
  | .notBegun => some { w with poll := .yielding }
  | .yielding => none
  | .passing wake => if wake ≤ w.now then some (comeUpon setup w.occurrences w) else none
  | .exhausted wake =>
    if wake ≤ w.now then
      let (loop, events) := PollLoop.polled w.consumer (.ok none)
      some (w.withLoop setup w.consumer loop events)
    else none

/-- The decision about an error is begun, or taken. -/
def stepDecision (setup : Setup) (error : BrokerError) (w : World) : Option World :=
  let take (w : World) (d : Decision) :=
    let (loop, events) := PollLoop.decided d
    w.withLoop setup w.consumer loop events
  match w.pending, setup.judge with
  | some (wake, decision), _ =>
    if wake ≤ w.now then some (take (w.note ("decided view " ++ w.view setup)) decision) else none
  | none, .fixed recovery => some (take w (.taken recovery))
  | none, .playing parts =>
    match Judge.part? parts w.decisions with
    | none => some (take w (.crashed Judge.partlessText))
    | some (ms?, decision) =>
      let w := w.note ("dropped " ++ error.kind ++ " " ++ error.message ++ " view " ++ w.view setup)
      let w := { w with decisions := w.decisions + 1 }
      match ms? with
      | none => some (take w decision)
      | some ms => some { w with pending := some (sleepEnd w.now ms, decision) }

/-- Those who want to know that the consumer is closed are told. -/
def notify (setup : Setup) (s : Shutdown) (w : World) : Option (World × Shutdown) := do
  let (s, events) ← s.notified setup.hookAnswer
  let info := setup.profile.info
  let w := w.note ("disposed " ++ info.name ++ "/" ++ info.group)
  some (events.foldl (reportConsumer setup) w, s)

/-- The next step of the poll loop. -/
def stepLoop (setup : Setup) (w : World) : Option World := do
  let loop ← w.consumer.loop
  match loop.step (w.surroundings setup) setup.profile w.consumer with
  | some (c, loop, events) => some (w.withLoop setup c loop events)
  | none =>
    match loop with
    | .polling => w.stepPoll setup
    | .deciding error => w.stepDecision setup error
    | .shuttingDown s => do
      let (w, s) ← w.notify setup s
      some (w.withLoop setup w.consumer (.ofShutdown s) [])
    | _ => none

/-! ## Steps of errands -/

/-- The next step of a call that closes the consumer. -/
def stepClosing (setup : Setup) (call : Closing) (w : World) : Option (World × Closing) :=
  match call.step (w.surroundings setup) setup.profile w.consumer with
  | some (c, call, events) =>
    some (events.foldl (reportConsumer setup) { w with consumer := c }, call)
  | none =>
    match call with
    | .shuttingDown s => (w.notify setup s).map fun (w, s) => (w, .ofShutdown s)
    | _ => none

/-- The handler that works for nobody is cancelled. -/
def cancelHandler (w : World) : World :=
  { w with handlings := w.handlings.map fun (owner, h) =>
      (owner, if owner.isNone then { h with cancelled := true } else h) }

/-- The next step of an errand. -/
def advanceErrand (setup : Setup) (w : World) : Errand → Option (World × Errand)
  | .enqueue worker _ (.returned result) (record :: rest) results =>
    some (w, .enqueue worker record .checkingStatus rest (results ++ [result]))
  | .enqueue worker record call rest results => do
    let s ← w.consumer.station? worker
    let (s, call, events) ← call.step (w.surroundings setup) record s
    some (events.foldl (report setup) (w.withStation worker s),
      .enqueue worker record call rest results)
  | .dispose worker call => do
    let s ← w.consumer.station? worker
    let (s, call, events) ← call.step (w.surroundings setup) s
    some (events.foldl (report setup) (w.withStation worker s), .dispose worker call)
  | .close call => (w.stepClosing setup call).map fun (w, call) => (w, .close call)
  | .handle none => do
    let h ← w.handlings.lookup none
    let (stage, h, ending) ← h.step w.stage false
    some ({ w with stage := stage, handlings := setEntry none h w.handlings }, .handle ending)
  | .cancelAt time false =>
    if time ≤ w.now then some (w.cancelHandler, .cancelAt time true) else none
  | .handle (some _) | .cancelAt _ true | .dropped => none

/-- The next step of an errand. -/
def stepErrand (setup : Setup) (n : Nat) (w : World) : Option World := do
  let errand ← w.errands[n]?
  let (w, errand) ← w.advanceErrand setup errand
  some { w with errands := w.errands.set n errand }

/-- The next step of a task. -/
def step (setup : Setup) (w : World) : TaskId → Option World
  | .batcher worker => w.stepBatcher setup worker
  | .message owner task => w.stepMessage owner task
  | .removal n => w.stepRemoval setup n
  | .loop => w.stepLoop setup
  | .errand n => w.stepErrand setup n

end TopicConsumer.Simulation.World
