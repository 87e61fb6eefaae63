import TopicConsumer.Entries
import TopicConsumer.Simulation.Probe
import TopicConsumer.Worker.Basic

/-!
# Pipelines over variables

The simplest pipelines of probing steps work on named whole numbers of 64 bits. Their steps take no
time, so that a run is a function of the variables and of how often each step has run before.
-/

namespace TopicConsumer.Simulation.Trace

/-- Named numbers, of which a missing one is zero, and the notes left so far. -/
structure Context where
  vars : List (String × Int)
  notes : List String

/-- How a variable is compared. -/
inductive Comparison where
  | equal
  | less
  | greater
  deriving DecidableEq

/-- A condition on the variables. -/
inductive Condition where
  | always (holds : Bool)
  | compare (var : String) (how : Comparison) (value : Int)

/-- A step on the variables. -/
inductive VarStep where
  | set (var : String) (value : Int)
  | add (var : String) (value : Int)
  /-- Fails as long as the variable is positive, and counts it down. -/
  | failIf (var : String) (text : String)
  | show (var : String)

/-- How often each step has run. -/
abbrev Tallies := List (String × Nat)

/-- A run counts steps, and may crash with a text. -/
abbrev Run := ExceptT String (StateM Tallies)

/-- The value of a variable. -/
def Context.value (c : Context) (var : String) : Int := (c.vars.lookup var).getD 0

/-- Sets a variable. -/
def Context.assign (c : Context) (var : String) (value : Int) : Context :=
  { c with vars := setEntry var value c.vars }

/-- Leaves a note. -/
def Context.note (c : Context) (text : String) : Context := { c with notes := c.notes ++ [text] }

/-- The condition holds. -/
def Condition.holds (c : Context) : Condition → Bool
  | .always holds => holds
  | .compare var how value =>
    match how with
    | .equal => c.value var = value
    | .less => c.value var < value
    | .greater => value < c.value var

/-- The number of 64 bits that agrees with a number in its last 64 bits. -/
def wrapped (n : Int) : Int := n.bmod (Nat.pow 2 64)

/-- What a step on the variables does. -/
def VarStep.toStep : VarStep → Step Run Context
  | .set var value => fun next => do
    modify (·.assign var value)
    next.run
  | .add var value => fun next => do
    modify fun c => c.assign var (wrapped (c.value var + value))
    next.run
  | .failIf var text => fun next => do
    if 0 < (← get).value var then
      modify fun c => (c.assign var (c.value var - 1)).note "fail"
      pure (.error (.failed text))
    else next.run
  | .show var => fun next => do
    modify fun c => c.note (var ++ "=" ++ toString (c.value var))
    next.run

/-- Where the probing steps run. -/
def backdrop : Backdrop Run Context Condition VarStep where
  note text := modify (·.note text)
  tally key := do
    let runs := ((← getThe Tallies).lookup key).getD 0 + 1
    modifyThe Tallies (setEntry key runs)
    pure runs
  crash text := throw text
  holds condition := do pure (condition.holds (← get))
  special := VarStep.toStep
  wording := Fault.message

/-- A pipeline of probing steps. -/
abbrev TracePipeline := List (Probe Condition VarStep)

/-- The pipeline that the steps make up. -/
def TracePipeline.pipeline (steps : TracePipeline) : Pipeline Run Context :=
  Probe.toPipeline backdrop steps

/-- Runs pipelines one after the other, each on variables of its own. The first crash ends it all.
-/
def runAll : List (TracePipeline × List (String × Int)) → Run (List (Outcome × Context))
  | [] => pure []
  | (steps, vars) :: rest => do
    let ended ← (TracePipeline.pipeline steps).execute ⟨vars, []⟩
    pure (ended :: (← runAll rest))

/-- How the runs end, or the text of the crash. -/
def results (runs : List (TracePipeline × List (String × Int))) :
    Except String (List (Outcome × Context)) :=
  ((runAll runs).run []).1

end TopicConsumer.Simulation.Trace
