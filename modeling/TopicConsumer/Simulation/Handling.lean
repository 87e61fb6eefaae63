import TopicConsumer.Simulation.Script
import TopicConsumer.Simulation.Stage
import TopicConsumer.Worker.Batcher

/-!
# Handlers at work

A handler at work is the routine that handles its batch, with the tasks that this routine has
started for single messages. All of them run on the stage and under one cancellation, and each moves
when what it waits for has come.
-/

namespace TopicConsumer.Simulation

/-- A routine that is to run, or that waits. -/
inductive Strand (D : Dialogue) where
  | ready (routine : Routine D Outcome)
  | paused (pause : Pause (Routine D Outcome))

namespace Strand

variable {D : Dialogue}

/-- The routine goes on, if it can. -/
def next? (stage : Stage) (cancelled : Bool) : Strand D → Option (Stage × Routine D Outcome)
  | .ready routine => some (stage, routine)
  | .paused pause => pause.end? stage cancelled

/-- When the routine goes on by itself. -/
def wakeAt : Strand D → Option Nat
  | .ready _ => none
  | .paused pause => pause.wakeAt

/-- The routine is given up. -/
def leave (stage : Stage) : Strand D → Stage
  | .ready _ => stage
  | .paused pause => pause.leave stage

end Strand

/-- A handler at work. -/
structure Handling where
  /-- The cancellation has been raised from within. -/
  cancelled : Bool
  /-- The batch that was reported to begin. -/
  begun : Option (TopicPartition × List Offset)
  main : Strand (batchDialogue staging)
  /-- The tasks that have not ended, by their numbers. -/
  tasks : List (Nat × Strand (messageDialogue staging))
  /-- The number of tasks that were started. -/
  started : Nat

namespace Handling

/-- A handler that has not begun. -/
def ofRoutine (routine : BatchRoutine staging Outcome) : Handling :=
  ⟨false, none, .ready routine, [], 0⟩

/-- The scope of a routine of this handler. -/
def scope (h : Handling) (stage : Stage) (outside : Bool) : Scope :=
  ⟨stage, outside, h.cancelled, h.begun⟩

/-- The handler after one of its routines has run in its scope. -/
def after (h : Handling) (s : Scope) : Handling :=
  { h with cancelled := s.inside, begun := s.begun }

/-- The handler goes on for as long as it can, or takes its next step with its tasks; it may end
thereby. -/
def step (stage : Stage) (outside : Bool) (h : Handling) :
    Option (Stage × Handling × Option Batcher.Ending) :=
  let cancelled := outside || h.cancelled
  match h.main with
  | .paused (.dispatching tasks resume) =>
    match tasks.step cancelled with
    | none => none
    | some (.start job tasks) =>
      some (stage, { h with
        main := .paused (.dispatching tasks resume)
        tasks := h.tasks ++ [(h.started, .ready job)]
        started := h.started + 1 }, none)
    | some (.refuse tasks) =>
      some (stage, { h with main := .paused (.dispatching tasks resume) }, none)
    | some (.reply outcome) => some (stage, { h with main := .ready (resume outcome) }, none)
  | main => do
    let (stage, routine) ← main.next? stage cancelled
    let (result, s) := (run answerBatch routine).run
      (h.scope stage outside)
    let h := h.after s
    match result with
    | .ok outcome => some (s.stage, h, some (.ofOutcome outcome))
    | .error (.crashed text) => some (s.stage, h, some (.crashed text))
    | .error pause => some (s.stage, { h with main := .paused pause }, none)

/-- A task ends. -/
def endTask (task : Nat) (outcome : Outcome) (h : Handling) : Handling :=
  { h with
    tasks := h.tasks.filter (·.1 ≠ task)
    main := match h.main with
      | .paused (.dispatching tasks resume) => .paused (.dispatching (tasks.finish outcome) resume)
      | main => main }

/-- A task goes on for as long as it can. -/
def taskStep (stage : Stage) (outside : Bool) (task : Nat) (h : Handling) :
    Option (Stage × Handling) := do
  let strand ← h.tasks.lookup task
  let (stage, routine) ← strand.next? stage (outside || h.cancelled)
  let (result, s) := (run answerMessage routine).run
    (h.scope stage outside)
  let h := h.after s
  match result with
  | .ok outcome => some (s.stage, h.endTask task outcome)
  | .error (.crashed text) => some (s.stage, h.endTask task (.error (.taskCrashed text)))
  | .error pause => some (s.stage, { h with tasks := setEntry task (.paused pause) h.tasks })

/-- The handler is given up. A batch that has begun is reported. -/
def leave (stage : Stage) (h : Handling) : Stage :=
  let stage := h.tasks.foldl (fun stage (_, strand) => strand.leave stage) (h.main.leave stage)
  match h.begun with
  | none => stage
  | some (p, offsets) => stage.line p ("drop " ++ Script.offsetsText offsets)

end Handling

end TopicConsumer.Simulation
