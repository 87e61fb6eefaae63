import TopicConsumer.Pipeline.Basic

/-!
# The path through a pipeline

A pipeline plan is a sequence of calls that register steps, guarded steps and branches. The steps
are of three kinds: some act, run the rest of the chain once and act again if it has succeeded, some
act and stop, and some act and fail.

Running a pipeline nests the steps into each other. `PipelinePlan.walk` does not: it goes through
the calls from the first one to the last, decides at each guard and at each branch by the context as
it is then, and keeps account of the steps that it has entered. A branch that is taken replaces all
the calls that are left. `PipelinePlan.execute_build` shows that running the pipeline is the same as
walking through its plan and, if the walk has come to an end or to a stop, doing what the entered
steps have left to be done, the last one first.
-/

namespace TopicConsumer

variable {M : Type → Type} {C : Type}

/-- What a step does. -/
inductive StepPlan (M : Type → Type) (C : Type) : Type 1 where
  /-- Acts, runs the rest of the chain, and acts again if the rest has succeeded. The first action
  leaves something for the second one. -/
  | around {α : Type} (before : StateT C M α) (after : α → StateT C M Unit)
  /-- Acts, and ends the chain with success. -/
  | stop (before : StateT C M Unit)
  /-- Acts, and fails. -/
  | fail (before : StateT C M Fault)

/-- The step that does so. -/
def StepPlan.toStep [Monad M] : StepPlan M C → Step M C
  | .around before after => fun next => do
    let kept ← before
    match ← next.run with
    | .ok () => do
      after kept
      pure (.ok ())
    | .error fault => pure (.error fault)
  | .stop before => fun _ => do
    before
    pure (.ok ())
  | .fail before => fun _ => do
    let fault ← before
    pure (.error fault)

/-- The calls that build a pipeline, in their order. -/
inductive PipelinePlan (M : Type → Type) (C : Type) : Type 1 where
  | done
  /-- Registers a step, which may be a function or be shared with other pipelines. -/
  | use (step : StepPlan M C) (rest : PipelinePlan M C)
  /-- Registers a step under a condition. -/
  | useWhen (condition : C → Bool) (step : StepPlan M C) (rest : PipelinePlan M C)
  /-- Registers a branch, which is built by calls of its own. -/
  | map (condition : C → Bool) (inner rest : PipelinePlan M C)

/-- A way through a pipeline: what the entered steps have left to be done, in the order in which
they were entered, and how the way ends. -/
structure Trail (M : Type → Type) (C : Type) where
  entered : List (StateT C M Unit)
  outcome : Outcome

/-- On the way back the steps do what they have left to be done, the last one first, unless the way
ends with a fault. -/
def Trail.unwind [Monad M] (trail : Trail M C) : StateT C M Outcome :=
  match trail.outcome with
  | .ok () => do
    trail.entered.reverse.forM id
    pure (.ok ())
  | .error fault => pure (.error fault)

namespace PipelinePlan

/-- Registers everything in the order of the calls. -/
def register [Monad M] : PipelinePlan M C → Pipeline M C → Pipeline M C
  | .done, p => p
  | .use step rest, p => rest.register (p.use step.toStep)
  | .useWhen condition step rest, p => rest.register (p.useWhen condition step.toStep)
  | .map condition inner rest, p => rest.register (p.branch condition (inner.register .empty))

/-- The pipeline that the calls build. -/
def build [Monad M] (plan : PipelinePlan M C) : Pipeline M C := plan.register .empty

/-- What happens at a step that is reached with these steps entered. It is entered as well, and the
way goes on, or the way ends with it. -/
def visit [Monad M] (goOn : List (StateT C M Unit) → StateT C M (Trail M C))
    (entered : List (StateT C M Unit)) : StepPlan M C → StateT C M (Trail M C)
  | .around before after => do
    let kept ← before
    goOn (entered ++ [after kept])
  | .stop before => do
    before
    pure ⟨entered, .ok ()⟩
  | .fail before => do
    let fault ← before
    pure ⟨entered, .error fault⟩

/-- Goes through the calls that are left, with these steps entered. -/
def walk [Monad M] : PipelinePlan M C → List (StateT C M Unit) → StateT C M (Trail M C)
  | .done, entered => pure ⟨entered, .ok ()⟩
  | .use step rest, entered => visit rest.walk entered step
  | .useWhen condition step rest, entered => do
    if condition (← get) then visit rest.walk entered step else rest.walk entered
  | .map condition inner rest, entered => do
    if condition (← get) then inner.walk entered else rest.walk entered

end PipelinePlan

/-! ## Steps and ways back -/

section

variable [Monad M] [LawfulMonad M]

/-- The step that was entered last is the first one on the way back. -/
theorem Trail.unwind_concat (entered : List (StateT C M Unit)) (after : StateT C M Unit) :
    Trail.unwind ⟨entered ++ [after], .ok ()⟩ =
      (do after; Trail.unwind ⟨entered, .ok ()⟩) := by
  simp [unwind]

theorem Step.onlyWhen_eq (condition : C → Bool) (s : Step M C) (next : Next M C) :
    s.onlyWhen condition next = (do if condition (← get) then s next else next.run) := by
  funext ctx
  cases h : condition ctx <;>
    simp [onlyWhen, bind, StateT.bind, get, getThe, MonadStateOf.get, StateT.get, h]

theorem Pipeline.insteadWhen_eq (condition : C → Bool) (inner : Pipeline M C) (next : Next M C) :
    inner.insteadWhen condition next =
      (do if condition (← get) then inner.execute else next.run) :=
  Step.onlyWhen_eq condition (fun _ => inner.execute) next

/-- A step that is reached and the rest of the chain do, one inside the other, what the way from
there does in a row. -/
theorem StepPlan.toStep_unwind (step : StepPlan M C) {next : Next M C}
    {goOn : List (StateT C M Unit) → StateT C M (Trail M C)}
    (same : ∀ entered, goOn entered >>= Trail.unwind =
      (do Trail.unwind ⟨entered, ← next.run⟩))
    (entered : List (StateT C M Unit)) :
    PipelinePlan.visit goOn entered step >>= Trail.unwind =
      (do Trail.unwind ⟨entered, ← step.toStep next⟩) := by
  cases step with
  | around before after =>
    simp only [PipelinePlan.visit, toStep, bind_assoc, same]
    refine bind_congr fun kept => bind_congr fun outcome => ?_
    cases outcome with
    | ok u =>
      cases u
      simp [Trail.unwind_concat]
    | error fault => simp [Trail.unwind]
  | stop before => simp [PipelinePlan.visit, toStep]
  | fail before => simp [PipelinePlan.visit, toStep]

end

/-! ## Plans -/

namespace PipelinePlan

/-- What is registered comes behind what there is. -/
theorem steps_register [Monad M] (plan : PipelinePlan M C) (p : Pipeline M C) :
    (plan.register p).steps = p.steps ++ plan.build.steps := by
  unfold build
  induction plan generalizing p with
  | done => simp [register, Pipeline.empty]
  | use _ _ ih | useWhen _ _ _ ih | map _ _ _ _ ih =>
    simp only [register, Pipeline.useWhen, Pipeline.branch]
    rw [ih (p.use _), ih (Pipeline.use .empty _)]
    simp [Pipeline.use, Pipeline.empty]

/-- The rest of the chain, after the steps that were registered before. -/
def next [Monad M] (plan : PipelinePlan M C) : Next M C := .ofSteps plan.build.steps

/-- The step that was registered first is the outermost one. -/
theorem execute_register_use [Monad M] (plan : PipelinePlan M C) (s : Step M C) :
    (plan.register (Pipeline.use .empty s)).execute = s plan.next := by
  rw [Pipeline.execute, steps_register]
  rfl

/-- From wherever the walk goes on, it does in a row what the rest of the chain and the entered
steps do one inside the other. -/
theorem walk_unwind [Monad M] [LawfulMonad M] (plan : PipelinePlan M C)
    (entered : List (StateT C M Unit)) :
    plan.walk entered >>= Trail.unwind =
      (do Trail.unwind ⟨entered, ← plan.build.execute⟩) := by
  induction plan generalizing entered with
  | done => simp [walk, build, register, Pipeline.execute, Pipeline.empty, Next.ofSteps]
  | use step rest ih =>
    rw [walk, build, register, execute_register_use]
    exact step.toStep_unwind ih entered
  | useWhen condition step rest ih =>
    rw [walk, build, register, Pipeline.useWhen, execute_register_use, Step.onlyWhen_eq]
    simp only [bind_assoc]
    refine bind_congr fun ctx => ?_
    cases condition ctx with
    | true => exact step.toStep_unwind ih entered
    | false => exact ih entered
  | map condition inner rest ihInner ih =>
    rw [walk, build, register, Pipeline.branch, execute_register_use, Pipeline.insteadWhen_eq]
    simp only [bind_assoc]
    refine bind_congr fun ctx => ?_
    cases condition ctx with
    | true => exact ihInner entered
    | false => exact ih entered

/-- Running a pipeline does what the steps on the walk through its plan do before they go on. If the
walk comes to an end or to a stop, the entered steps then do what they have left to be done, the
last one first, and the pipeline succeeds; if it comes to a step that fails, nothing more is done,
and this fault is the outcome. -/
theorem execute_build [Monad M] [LawfulMonad M] (plan : PipelinePlan M C) :
    plan.build.execute = (do
      let trail ← plan.walk []
      match trail.outcome with
      | .ok () => do
        trail.entered.reverse.forM id
        pure (.ok ())
      | .error fault => pure (.error fault)) := by
  refine Eq.trans ?_ (plan.walk_unwind []).symm
  refine (bind_pure _).symm.trans (bind_congr fun outcome => ?_)
  cases outcome with
  | ok u =>
    cases u
    simp [Trail.unwind]
  | error fault => rfl

/-! ## A walk through a nested plan -/

/-- A step that writes its name when it is entered and once more on the way back. -/
def visible (name : String) : StepPlan Id (List String) :=
  .around (do modify (· ++ [name]); return name) fun name => modify (· ++ [name])

/-- A guard and two branches, one inside the other, that go by what the steps before them have
written. -/
def nested (ending : PipelinePlan Id (List String)) : PipelinePlan Id (List String) :=
  .use (visible "a") <|
  .useWhen (·.contains "b") (visible "skipped") <|
  .useWhen (·.contains "a") (visible "b") <|
  .map (·.contains "b")
    (.use (visible "c") <|
      .map (·.contains "x") (.use (visible "left out") .done) <|
      .map (·.contains "c") (.use (visible "d") ending) <|
      .use (visible "replaced") .done)
    (.use (visible "replaced") .done)

theorem nested_execute :
    let stops := nested (.use (.stop (modify (· ++ ["stop"]))) (.use (visible "unreached") .done))
    let fails := nested (.use (.fail (do modify (· ++ ["fail"]); return .failed "e")) .done)
    (nested .done).build.execute [] = (.ok (), ["a", "b", "c", "d", "d", "c", "b", "a"]) ∧
      stops.build.execute [] = (.ok (), ["a", "b", "c", "d", "stop", "d", "c", "b", "a"]) ∧
      fails.build.execute [] = (.error (.failed "e"), ["a", "b", "c", "d", "fail"]) := by
  intro stops fails
  exact ⟨(congrFun (execute_build (nested .done)) []).trans rfl,
    (congrFun (execute_build stops) []).trans rfl, (congrFun (execute_build fails) []).trans rfl⟩

end PipelinePlan

end TopicConsumer
