import TopicConsumer.Pipeline.Basic

/-!
# Probing steps

Steps that show what a pipeline does: they leave notes, count their runs, fail, and run the rest of
the chain never, once or several times. They are given as data, with conditions `P` and further
steps `S` that depend on what the pipeline works on.
-/

namespace TopicConsumer.Simulation

/-- A probing step. -/
inductive Probe (P S : Type) where
  /-- Ends the chain with success. -/
  | stop
  /-- Fails with a text. -/
  | fail (text : String)
  /-- Notes that the rest of the chain begins, and that it has succeeded. -/
  | record (name : String)
  /-- Notes how the rest of the chain ended. -/
  | afterwards (name : String)
  /-- Turns a failure of the rest of the chain into success. -/
  | rescue
  /-- Runs the rest of the chain again after a failure, so many times at most. -/
  | retry (times : Nat)
  /-- Runs the rest of the chain so many times, up to the first failure. -/
  | repeated (times : Nat)
  /-- Notes how many steps are left. -/
  | remaining
  /-- Notes how often this very step, known by its key, has run. -/
  | count (key name : String)
  /-- A step under a condition. -/
  | guarded (condition : P) (inner : Probe P S)
  /-- A branch under a condition. -/
  | branch (condition : P) (steps : List (Probe P S))
  | special (step : S)
  /-- A step that crashes when it runs, since nobody knows it. -/
  | unknown (name : String)

/-- What probing steps need where they run. -/
structure Backdrop (M : Type → Type) (C P S : Type) where
  /-- Leaves a note. -/
  note : String → StateT C M Unit
  /-- Counts one more run of a step and tells how many there have been. -/
  tally : String → StateT C M Nat
  /-- Crashes with a text. -/
  crash : String → StateT C M Outcome
  /-- Whether a condition holds. -/
  holds : P → StateT C M Bool
  /-- The further steps. -/
  special : S → Step M C
  /-- The wording of a fault. -/
  wording : Fault → String

namespace Probe

variable {M : Type → Type} {C P S : Type} [Monad M]

/-- Runs again after a failure, so many times at most. -/
def retrying (run : StateT C M Outcome) : Nat → StateT C M Outcome
  | 0 => run
  | n + 1 => do
    match ← run with
    | .ok () => pure (.ok ())
    | .error _ => retrying run n

/-- Runs so many times, up to the first failure. -/
def repeating (run : StateT C M Outcome) : Nat → StateT C M Outcome
  | 0 => pure (.ok ())
  | n + 1 => do
    match ← run with
    | .ok () => repeating run n
    | .error e => pure (.error e)

mutual

/-- The step that a probe stands for. -/
def toStep (b : Backdrop M C P S) : Probe P S → Step M C
  | .stop => fun _ => do
    b.note "stop"
    pure (.ok ())
  | .fail text => fun _ => do
    b.note "fail"
    pure (.error (.failed text))
  | .record name => fun next => do
    b.note (name ++ ":before")
    let outcome ← next.run
    if outcome = .ok () then b.note (name ++ ":after")
    pure outcome
  | .afterwards name => fun next => do
    let outcome ← next.run
    b.note (name ++ (if outcome = .ok () then ":ok" else ":err"))
    pure outcome
  | .rescue => fun next => do
    match ← next.run with
    | .ok () => pure (.ok ())
    | .error fault =>
      b.note ("caught:" ++ b.wording fault)
      pure (.ok ())
  | .retry times => fun next => retrying next.run times
  | .repeated times => fun next => repeating next.run times
  | .remaining => fun next => do
    b.note ("remaining=" ++ toString next.remaining)
    next.run
  | .count key name => fun next => do
    let runs ← b.tally key
    b.note (name ++ "#" ++ toString runs)
    next.run
  | .guarded condition inner =>
    let step := toStep b inner
    fun next => do
      let holds ← b.holds condition
      step.onlyWhen (fun _ => holds) next
  | .branch condition steps =>
    let inner : Pipeline M C := ⟨toSteps b steps⟩
    fun next => do
      let holds ← b.holds condition
      inner.insteadWhen (fun _ => holds) next
  | .special step => b.special step
  | .unknown name => fun _ => b.crash ("unknown step " ++ name)

/-- The steps that probes stand for. -/
def toSteps (b : Backdrop M C P S) : List (Probe P S) → List (Step M C)
  | [] => []
  | p :: rest => toStep b p :: toSteps b rest

end

/-- The pipeline of probes. -/
def toPipeline (b : Backdrop M C P S) (probes : List (Probe P S)) : Pipeline M C :=
  ⟨toSteps b probes⟩

end Probe

end TopicConsumer.Simulation
