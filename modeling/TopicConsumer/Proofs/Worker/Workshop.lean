import TopicConsumer.Proofs.Worker.Worksite

/-!
# Workshops

A workshop is a station with everybody who may be at work on its worker: the batcher and its
handler, calls that enqueue records, and calls that close the worker. Unlike at a worksite, any
number of records may be enqueued at the same time.

The history of a run is the list of its moves, each with the workshop as it was before the move, so
that a statement can tell not only what was done but also when. `Workshop.Run rule w₀ h w` says that
moves that the rule permits lead from `w₀` to `w` and that their history is `h`.
-/

namespace TopicConsumer

/-- A station with those who are at work on its worker. -/
structure Workshop where
  station : Station
  /-- The calls that enqueue records, each with its record, in the order in which they began. -/
  calls : List (Record × Intake)
  /-- The calls that close the worker. -/
  disposals : List Disposal

namespace Workshop

/-- Who moves, or what happens. -/
inductive Act where
  /-- A call that enqueues a record begins. -/
  | enqueue (r : Record)
  /-- A call that enqueues a record goes on. -/
  | intake (n : Nat)
  /-- The batcher goes on. -/
  | batch
  /-- The handler ends. -/
  | handler (ending : Batcher.Ending)
  /-- A call that closes the worker begins. -/
  | dispose
  /-- A call that closes the worker goes on. -/
  | disposal (n : Nat)
  /-- Whoever the worker works for is cancelled. -/
  | cancel
  /-- Somebody else performs an operation of the state manager. -/
  | elsewhere (p : TopicPartition) (op : StateOp)
  deriving DecidableEq

/-- The workshop after a move, with what happened. -/
def step (env : Surroundings) (w : Workshop) : Act → Option (Workshop × List Moment)
  | .enqueue r => some ({ w with calls := w.calls ++ [(r, .checkingStatus)] }, [.called r])
  | .intake n => do
    let (r, i) ← w.calls[n]?
    let (s, j, events) ← i.step env r w.station
    some ({ w with station := s, calls := w.calls.set n (r, j) },
      events.map .event ++ Moment.ofIntake r w.station i j)
  | .batch => do
    let (s, events) ← Batcher.step env w.station
    some ({ w with station := s },
      events.map .event ++ Moment.ofBatcher w.station.worker.batcher s.worker.batcher)
  | .handler ending => do
    let (s, events) ← Batcher.handlerEnds env ending w.station
    some ({ w with station := s },
      Moment.ofEnding w.station.worker.batcher.batch ending ++ events.map .event)
  | .dispose => some ({ w with disposals := w.disposals ++ [.claiming] }, [])
  | .disposal n => do
    let d ← w.disposals[n]?
    let (s, d, events) ← d.step env w.station
    some ({ w with station := s, disposals := w.disposals.set n d }, events.map .event)
  | .cancel => some ({ w with station := { w.station with worker := w.station.worker.cancel } }, [])
  | .elsewhere p op =>
    some ({ w with station := w.station.performed env p op },
      (w.station.performing env p op).map .event)

/-- What a move can be. -/
inductive Move (env : Surroundings) (w : Workshop) : Act → Workshop → List Moment → Prop
  | enqueue (r : Record) :
      Move env w (.enqueue r) { w with calls := w.calls ++ [(r, .checkingStatus)] } [.called r]
  | intake {n : Nat} {r : Record} {i j : Intake} {s : Station} {events : List Event}
      (call : w.calls[n]? = some (r, i)) (move : Intake.Move env r w.station i s j events) :
      Move env w (.intake n) { w with station := s, calls := w.calls.set n (r, j) }
        (events.map .event ++ Moment.ofIntake r w.station i j)
  | batch {s : Station} {events : List Event} (move : Batcher.Move env w.station s events) :
      Move env w .batch { w with station := s }
        (events.map .event ++ Moment.ofBatcher w.station.worker.batcher s.worker.batcher)
  | handler {ending : Batcher.Ending} {s : Station} {events : List Event}
      (ends : Batcher.Ends env w.station ending s events) :
      Move env w (.handler ending) { w with station := s }
        (Moment.ofEnding w.station.worker.batcher.batch ending ++ events.map .event)
  | dispose : Move env w .dispose { w with disposals := w.disposals ++ [.claiming] } []
  | disposal {n : Nat} {d e : Disposal} {s : Station} {events : List Event}
      (call : w.disposals[n]? = some d) (move : Disposal.Move env w.station d s e events) :
      Move env w (.disposal n) { w with station := s, disposals := w.disposals.set n e }
        (events.map .event)
  | cancel :
      Move env w .cancel
        { w with station := { w.station with worker := w.station.worker.cancel } } []
  | elsewhere (p : TopicPartition) (op : StateOp) :
      Move env w (.elsewhere p op) { w with station := w.station.performed env p op }
        ((w.station.performing env p op).map .event)

theorem move_of_step {env : Surroundings} {w t : Workshop} {act : Act} {moments : List Moment}
    (h : w.step env act = some (t, moments)) : Move env w act t moments := by
  cases act with
  | enqueue r => cases h; exact .enqueue r
  | intake n =>
    simp only [step, bind, Option.bind_eq_some_iff, Prod.exists] at h
    obtain ⟨r, i, call, s, j, events, move, h⟩ := h
    cases h
    exact .intake call (Intake.move_of_step move)
  | batch =>
    simp only [step, bind, Option.bind_eq_some_iff, Prod.exists] at h
    obtain ⟨s, events, move, h⟩ := h
    cases h
    exact .batch (Batcher.move_of_step move)
  | handler ending =>
    simp only [step, bind, Option.bind_eq_some_iff, Prod.exists] at h
    obtain ⟨s, events, ends, h⟩ := h
    cases h
    exact .handler (Batcher.ends_of_handlerEnds ends)
  | dispose => cases h; exact .dispose
  | disposal n =>
    simp only [step, bind, Option.bind_eq_some_iff, Prod.exists] at h
    obtain ⟨d, call, s, e, events, move, h⟩ := h
    cases h
    exact .disposal call (Disposal.move_of_step move)
  | cancel => cases h; exact .cancel
  | elsewhere p op => cases h; exact .elsewhere p op

/-- A move that was made, with the workshop before it and what happened. -/
structure Entry where
  before : Workshop
  act : Act
  moments : List Moment

/-- Everything that happened, in order. -/
def momentsIn (history : List Entry) : List Moment := history.flatMap Entry.moments

@[simp] theorem momentsIn_nil : momentsIn [] = [] := rfl

@[simp] theorem momentsIn_concat (h : List Entry) (e : Entry) :
    momentsIn (h ++ [e]) = momentsIn h ++ e.moments := by
  simp [momentsIn]

/-- A run, with its history. -/
inductive Run (rule : Workshop → Act → Bool) (w₀ : Workshop) : List Entry → Workshop → Prop
  | start : Run rule w₀ [] w₀
  | step {history : List Entry} {w t : Workshop} {env : Surroundings} {act : Act}
      {moments : List Moment} (run : Run rule w₀ history w) (may : rule w act = true)
      (step : w.step env act = some (t, moments)) :
      Run rule w₀ (history ++ [⟨w, act, moments⟩]) t

/-- What every move keeps, every run keeps. -/
theorem Run.invariant {rule : Workshop → Act → Bool} {w₀ w : Workshop} {history : List Entry}
    (Inv : List Entry → Workshop → Prop) (start : Inv [] w₀)
    (kept : ∀ {history w env act t moments}, Inv history w → rule w act = true →
      Move env w act t moments → Inv (history ++ [⟨w, act, moments⟩]) t)
    (run : Run rule w₀ history w) : Inv history w := by
  induction run with
  | start => exact start
  | step run may step ih => exact kept ih may (move_of_step step)

/-- The last move of a run was made from the state that its entry keeps. -/
theorem Run.last {rule : Workshop → Act → Bool} {w₀ t : Workshop} {history : List Entry} {e : Entry}
    (run : Run rule w₀ (history ++ [e]) t) :
    Run rule w₀ history e.before ∧
      ∃ env, e.before.step env e.act = some (t, e.moments) := by
  generalize made : history ++ [e] = all at run
  cases run with
  | start => simp at made
  | @step earlier w t env act moments run may step =>
    obtain ⟨rfl, rfl⟩ : history = earlier ∧ e = ⟨w, act, moments⟩ := by simpa using made
    exact ⟨run, env, step⟩

/-- Makes the moves of a schedule one after the other and leaves out those that the rule forbids or
that cannot be made: the history and the workshop afterwards. -/
def play (rule : Workshop → Act → Bool) (w : Workshop) :
    List (Surroundings × Act) → List Entry × Workshop
  | [] => ([], w)
  | (env, act) :: rest =>
    match if rule w act then w.step env act else none with
    | some (t, moments) =>
      let (history, u) := t.play rule rest
      (⟨w, act, moments⟩ :: history, u)
    | none => w.play rule rest

/-- A schedule continues a run. -/
theorem Run.play {rule : Workshop → Act → Bool} {w₀ w : Workshop} {history : List Entry}
    (run : Run rule w₀ history w) (schedule : List (Surroundings × Act)) :
    Run rule w₀ (history ++ (w.play rule schedule).1) (w.play rule schedule).2 := by
  induction schedule generalizing history w with
  | nil => simpa [Workshop.play] using run
  | cons move rest ih =>
    obtain ⟨env, act⟩ := move
    rw [Workshop.play]
    split
    · next t moments made =>
      obtain ⟨may, step⟩ := Option.ite_none_right_eq_some.mp made
      simpa using ih (run.step may step)
    · exact ih run

/-- A schedule is a run. -/
theorem run_play (rule : Workshop → Act → Bool) (w : Workshop)
    (schedule : List (Surroundings × Act)) :
    Run rule w (w.play rule schedule).1 (w.play rule schedule).2 :=
  Run.start.play schedule

/-- The workshop when a worker has just been started. -/
def spawned (env : Surroundings) (m : Manager) (p : TopicPartition) (settings : BatchSettings) :
    Workshop :=
  ⟨(Station.spawn env m p settings).1, [], []⟩

variable (env : Surroundings) (m : Manager) (p : TopicPartition) (settings : BatchSettings)

@[simp] theorem spawned_worker : (spawned env m p settings).station.worker = .fresh p settings :=
  Station.spawn_worker ..

@[simp] theorem spawned_calls : (spawned env m p settings).calls = [] := rfl

@[simp] theorem spawned_disposals : (spawned env m p settings).disposals = [] := rfl

end Workshop

end TopicConsumer
