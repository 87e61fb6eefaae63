import TopicConsumer.Simulation.Step

/-!
# The schedule of a world

Tasks that can move do so one after the other, in the order in which they came to be able to. A task
moves for as long as it can, and whoever can move because of one of its steps stands behind those
who could before. In one turn, however, no more than a certain number of records are taken from a
queue and of jobs started; a task that could go on then stands behind all others. Time passes only
when nobody can move: it goes on to the next instant at which somebody can.
-/

namespace TopicConsumer.Simulation

/-- The task handles a single message. -/
def TaskId.isMessage : TaskId → Bool
  | .message _ _ => true
  | _ => false

namespace World

/-! ## Tasks -/

/-- The numbers of the elements that satisfy a condition. -/
def positions {α : Type} (p : α → Bool) (xs : List α) : List Nat :=
  xs.zipIdx.filterMap fun (x, i) => if p x then some i else none

/-- All tasks that have not ended. -/
def tasks (w : World) : List TaskId :=
  let c := w.consumer
  (positions (fun worker => !worker.batcher.hasEnded) c.workers).map .batcher ++
    (w.handlings.flatMap fun (owner, h) => h.tasks.map fun (task, _) => .message owner task) ++
    (positions (fun (_, call) => !call.isOver) c.removals).map .removal ++
    (if c.loop.any (!·.isOver) then [.loop] else []) ++
    (positions (!·.isOver) w.errands).filterMap fun n =>
      if w.foreground = some n then none else some (.errand n)

/-- When the poll loop moves on by itself. -/
def loopWakeAt (w : World) : Option Nat := do
  let loop ← w.consumer.loop
  match loop, w.poll, w.pending with
  | .polling, .passing wake, _ | .polling, .exhausted wake, _ => some wake
  | .deciding _, _, some (wake, _) => some wake
  | loop, _, _ => loop.wakeAt

/-- When an errand moves on by itself. -/
def errandWakeAt (w : World) : Errand → Option Nat
  | .enqueue _ _ call _ _ => call.wakeAt
  | .dispose _ call => call.wakeAt
  | .close call => call.wakeAt
  | .handle none => (w.handlings.lookup none).bind (·.main.wakeAt)
  | .cancelAt time false => some time
  | .handle (some _) | .cancelAt _ true | .dropped => none

/-- When a task moves on by itself. -/
def wakeAt (w : World) : TaskId → Option Nat
  | .batcher worker =>
    ((w.consumer.workers[worker]?).bind fun worker => Batcher.wakeAt worker.batcher).or
      ((w.handlings.lookup (some worker)).bind (·.main.wakeAt))
  | .message owner task =>
    ((w.handlings.lookup owner).bind (·.tasks.lookup task)).bind Strand.wakeAt
  | .removal n => (w.consumer.removals[n]?).bind (·.2.wakeAt)
  | .loop => w.loopWakeAt
  | .errand n => (w.errands[n]?).bind w.errandWakeAt

/-- The next instant at which somebody moves on by themselves. -/
def nextWake (w : World) : Option Nat :=
  ((w.foreground.toList.map TaskId.errand ++ w.tasks).filterMap w.wakeAt).min?

/-! ## Letting go of the consumer -/

/-- Somebody holds the consumer: the script, its loop, or a call that closes it. -/
def isHeld (w : World) : Bool :=
  !w.abandoned || w.consumer.loop.any (!·.isOver) ||
    w.errands.any fun
      | .close call => !call.isOver
      | _ => false

/-- When nobody holds the consumer any more, no record can reach its workers. -/
def release (w : World) : World :=
  if w.released || w.isHeld then w
  else { w with
    consumer := w.consumer.forgetWorkers (w.consumer.registry.map Prod.snd), released := true }

/-! ## Scheduling -/

/-- The number of moves after which a simulation is given up. -/
def patience : Nat := 100000000

/-- Whoever can move now stands behind those who could before, while `current` moves: the tasks of
handlers first, and then by the time since which they have waited. -/
def wake (setup : Setup) (current : Option TaskId) (w : World) : World :=
  let w := w.release
  let tasks := w.tasks
  let known := w.ready ++ w.parked ++ current.toList
  let parked := w.parked.filter tasks.contains ++ tasks.filter (!known.contains ·)
  let (woken, parked) := parked.partition fun t => (w.step setup t).isSome
  let (messages, others) := woken.partition TaskId.isMessage
  { w with ready := w.ready ++ messages ++ others, parked := parked }

/-- How many records are taken from a queue and jobs are started in one turn at most. -/
def turnLimit : Nat := 128

/-- After how many turns of tasks the errand of the script goes on that was tired. -/
def turnsBetween : Nat := 61

/-- The records that have been taken from the queue of a worker between two worlds. -/
def recordsTaken (w next : World) (worker : Nat) : Nat :=
  let waiting (w : World) := (w.consumer.workers[worker]?).elim 0 fun worker => worker.queue.length
  waiting w - waiting next

/-- The jobs that a handler has started between two worlds. -/
def jobsStarted (w next : World) (owner : Option Nat) : Nat :=
  let started (w : World) := (w.handlings.lookup owner).elim 0 Handling.started
  started next - started w

/-- What a step of a task takes of its turn. -/
def toll (w next : World) : TaskId → Nat
  | .batcher worker => recordsTaken w next worker + jobsStarted w next (some worker)
  | .errand _ => jobsStarted w next none
  | _ => 0

/-- A task moves for as long as it can and its turn lasts, but not more often than `fuel` says. -/
def move (setup : Setup) (t : TaskId) : Nat → World → World
  | 0, w => w
  | fuel + 1, w =>
    match w.step setup t with
    | none => w
    | some next =>
      let spent := w.spent + w.toll next t
      if turnLimit < spent then { w with tired := true }
      else ({ next with spent := spent }.wake setup (some t)).move setup t fuel

/-- A task has its turn. -/
def turn (setup : Setup) (t : TaskId) (w : World) : World :=
  { w with spent := 0, tired := false }.move setup t patience

/-- A poll that lets everything else move first goes on. -/
def pollOn? (setup : Setup) (w : World) : Option World :=
  match w.consumer.loop, w.poll with
  | some .polling, .yielding => some (comeUpon setup w.occurrences w)
  | _, _ => none

/-- The errand of the script has its turn, if it can move. -/
def turnOfScript? (setup : Setup) (w : World) : Option World := do
  let t := TaskId.errand (← w.foreground)
  let _ ← w.step setup t
  let w := w.turn setup t
  some { w with turnsLeft := if w.tired then some turnsBetween else none }

/-- Lets tasks move until nobody can, and time pass until `enough` or the deadline. The errand of
the script moves when nobody else can, and when it has been tired for long enough. -/
def run (setup : Setup) (enough : World → Bool) (deadline : Nat) : Nat → World → World
  | 0, w => w
  | fuel + 1, w =>
    match w.ready, w.turnsLeft with
    | _ :: _, some 0 =>
      run setup enough deadline fuel ((w.turnOfScript? setup).getD { w with turnsLeft := none })
    | t :: rest, turns =>
      let w := { w with ready := rest, turnsLeft := turns.map (· - 1) }.turn setup t
      run setup enough deadline fuel
        (if w.tired then { w with ready := w.ready ++ [t] }
        else { w with parked := w.parked ++ [t] })
    | [], _ =>
      match w.pollOn? setup with
      | some w => run setup enough deadline fuel (w.wake setup none)
      | none =>
        match w.turnOfScript? setup with
        | some w => run setup enough deadline fuel w
        | none =>
          if enough w then w
          else
            match w.nextWake.filter (· ≤ deadline) with
            | some time =>
              run setup enough deadline fuel
                ({ w with stage := { w.stage with now := time } }.wake setup none)
            | none => { w with stage := { w.stage with now := max w.now deadline } }

/-- Lets everything move that can move now. -/
def settle (setup : Setup) (w : World) : World :=
  run setup (fun _ => true) w.now patience (w.wake setup none)

/-- Lets so many milliseconds pass. -/
def pass (setup : Setup) (ms : Nat) (w : World) : World :=
  run setup (fun _ => false) (sleepEnd w.now ms) patience (w.wake setup none)

/-- The time that a script gives an errand. -/
def longest : Nat := 600000

/-- Waits until an errand is over, for no longer than `limit`. -/
def await (setup : Setup) (limit n : Nat) (w : World) : World :=
  run setup (fun w => w.errands[n]?.any Errand.isOver) (w.now + limit) patience (w.wake setup none)

/-- Adds an errand, which is known by its number. -/
def addErrand (e : Errand) (w : World) : World × Nat :=
  ({ w with errands := w.errands ++ [e] }, w.errands.length)

/-- Runs an errand in place of the script. -/
def runErrand (setup : Setup) (limit : Nat) (e : Errand) (w : World) : World × Nat :=
  let (w, n) := w.addErrand e
  ({ ({ w with foreground := some n }.await setup limit n) with foreground := none }, n)

end World

end TopicConsumer.Simulation
