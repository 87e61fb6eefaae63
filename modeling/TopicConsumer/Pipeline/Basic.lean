/-!
# Pipelines

A pipeline is a list of steps over a context. Each step is handed the context and the rest of the
chain; it may work before the rest, after it, run it more than once, or leave it out. Running the
empty rest succeeds and changes nothing.

Pipelines are stated over any monad, so that the same chain runs where steps take time and where
they do not.
-/

namespace TopicConsumer

/-- Why a pipeline could not be built, or gave up by itself. -/
inductive PipelineError where
  | cancelled
  | invalidParallelism (n : Nat)
  deriving DecidableEq

/-- The name of the kind of a pipeline error. -/
def PipelineError.kind : PipelineError → String
  | .cancelled => "Cancelled"
  | .invalidParallelism _ => "InvalidParallelism"

/-- The wording of a pipeline error. -/
def PipelineError.message : PipelineError → String
  | .cancelled => "管道执行已取消"
  | .invalidParallelism n => "并行度必须大于零：" ++ toString n

/-- Why handling failed. -/
inductive Fault where
  /-- The application says so, in these words. -/
  | failed (text : String)
  /-- The pipeline gave up. -/
  | pipeline (error : PipelineError)
  /-- A task that handled a message crashed with this text. -/
  | taskCrashed (text : String)
  deriving DecidableEq

/-- How handling ends. -/
abbrev Outcome := Except Fault Unit

instance : DecidableEq Outcome
  | .ok (), .ok () => isTrue rfl
  | .ok (), .error _ => isFalse nofun
  | .error _, .ok () => isFalse nofun
  | .error f, .error g =>
    if h : f = g then isTrue (h ▸ rfl) else isFalse fun h' => h (by cases h'; rfl)

/-- The rest of a chain: the number of steps in it, and what running it does to the context. -/
structure Next (M : Type → Type) (C : Type) where
  remaining : Nat
  run : StateT C M Outcome

/-- What a step does with the rest of the chain and the context. -/
def Step (M : Type → Type) (C : Type) := Next M C → StateT C M Outcome

/-- Steps in the order in which they run. -/
structure Pipeline (M : Type → Type) (C : Type) where
  steps : List (Step M C)

variable {M : Type → Type} {C : Type}

/-- The chain of the given steps. -/
def Next.ofSteps [Monad M] : List (Step M C) → Next M C
  | [] => ⟨0, pure (.ok ())⟩
  | s :: rest => ⟨rest.length + 1, s (.ofSteps rest)⟩

@[simp] theorem Next.remaining_ofSteps [Monad M] (steps : List (Step M C)) :
    (Next.ofSteps steps).remaining = steps.length := by
  cases steps <;> rfl

namespace Step

/-- The step where the condition holds, and nothing in its place where it does not. -/
def onlyWhen (condition : C → Bool) (s : Step M C) : Step M C := fun next ctx =>
  if condition ctx then s next ctx else next.run ctx

end Step

namespace Pipeline

/-- The pipeline without steps. -/
def empty : Pipeline M C := ⟨[]⟩

/-- Adds a step at the end. -/
def use (p : Pipeline M C) (s : Step M C) : Pipeline M C := ⟨p.steps ++ [s]⟩

/-- Adds a step that is left out where the condition does not hold. -/
def useWhen (p : Pipeline M C) (condition : C → Bool) (s : Step M C) : Pipeline M C :=
  p.use (s.onlyWhen condition)

/-- Runs all steps, the first one outermost. -/
def execute [Monad M] (p : Pipeline M C) : StateT C M Outcome := (Next.ofSteps p.steps).run

/-- The step that runs this pipeline in place of the rest of the chain where the condition holds,
and goes on with the rest where it does not. -/
def insteadWhen [Monad M] (inner : Pipeline M C) (condition : C → Bool) : Step M C :=
  fun next ctx => if condition ctx then inner.execute ctx else next.run ctx

/-- Adds a branch: where the condition holds, the steps of `inner` run and the steps behind it do
not; where it does not hold, the chain goes on. -/
def branch [Monad M] (p : Pipeline M C) (condition : C → Bool) (inner : Pipeline M C) :
    Pipeline M C :=
  p.use (inner.insteadWhen condition)

/-- The number of steps. -/
def length (p : Pipeline M C) : Nat := p.steps.length

/-- There are no steps. -/
def isEmpty (p : Pipeline M C) : Bool := p.steps.isEmpty

end Pipeline

end TopicConsumer
