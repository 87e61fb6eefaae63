import TopicConsumer.Proofs.Broker.PartitionLog
import TopicConsumer.Proofs.Worker.Moves

/-!
# Worksites

A worksite is a station with everybody who is at work on its worker: the batcher and its handler,
one call that enqueues a record, and any number of calls that close the worker. `Worksite.Act` says
who moves next, and `Worksite.step` is one atomic move. Everything that anybody does is written down
as a list of moments, so that a run has a history. `Worksite.Run allowed w₀ h w` says that moves of
the allowed kind lead from `w₀` to `w` and that their history is `h`.
-/

namespace TopicConsumer

/-- Circumstances in which the broker does everything that it is asked to do. -/
def Surroundings.calm (now : Nat) : Surroundings where
  now := now
  reading := .shown .epoch
  answers := fun _ => .done
  jitter := .smallest

/-- Something that stands in an extended history stands in the old one or in what was added. -/
theorem append_eq_append_cons {α : Type} {h added before after : List α} {m : α}
    (e : h ++ added = before ++ m :: after) :
    (∃ between, h = before ++ m :: between ∧ after = between ++ added) ∨
      ∃ between, before = h ++ between ∧ added = between ++ m :: after := by
  rcases List.append_eq_append_iff.mp e with ⟨between, hb, ha⟩ | ⟨between, hb, ha⟩
  · exact .inr ⟨between, hb, ha⟩
  · cases between with
    | nil => exact .inr ⟨[], by simpa using hb.symm, by simpa using ha.symm⟩
    | cons first between =>
      obtain ⟨rfl, rfl⟩ := List.cons.inj ha
      exact .inl ⟨between, hb, rfl⟩

/-- Something that happens at a worksite. -/
inductive Moment where
  | event (e : Event)
  /-- A call that enqueues a record begins. -/
  | called (r : Record)
  /-- The call compares its record with the committed position. -/
  | compared (r : Record) (committed : Option Offset)
  /-- The record is put into the queue, behind the one that was admitted last. -/
  | admitted (r : Record) (latest : Option Offset)
  /-- A batch is complete. -/
  | formed (batch : List Record)
  /-- A batch is left out since it lies before the committed position. -/
  | skipped (batch : List Record)
  /-- The handler has returned from a batch without an error. -/
  | handled (batch : List Record)
  deriving DecidableEq

namespace Moment

/-- What a step of a call that enqueues `r` amounts to. -/
def ofIntake (r : Record) (s : Station) : Intake → Intake → List Moment
  | .checkingCommitted, _ => [.compared r s.committed]
  | .admitting, .returned (.ok ()) => [.admitted r s.worker.latestQueued]
  | _, _ => []

/-- What a step of the batcher amounts to. -/
def ofBatcher : Batcher → Batcher → List Moment
  | .collecting _ _, .checking b _ => [.formed b]
  | .comparing b _, .idle => [.skipped b]
  | _, _ => []

/-- What the end of the handler of a batch amounts to. -/
def ofEnding (b : List Record) : Batcher.Ending → List Moment
  | .handled => [.handled b]
  | _ => []

theorem event_notMem_ofIntake {r : Record} {s : Station} {i j : Intake} {e : Event} :
    .event e ∉ ofIntake r s i j := by
  unfold ofIntake
  split <;> simp

theorem event_notMem_ofBatcher {b c : Batcher} {e : Event} : .event e ∉ ofBatcher b c := by
  unfold ofBatcher
  split <;> simp

theorem event_notMem_ofEnding {b : List Record} {ending : Batcher.Ending} {e : Event} :
    .event e ∉ ofEnding b ending := by
  cases ending <;> simp [ofEnding]

/-- The record that was admitted. -/
def admitted? : Moment → Option Record
  | .admitted r _ => some r
  | _ => none

/-- The batch that was formed. -/
def formed? : Moment → Option (List Record)
  | .formed b => some b
  | _ => none

end Moment

/-- The records that were admitted, in the order of their admission. -/
def admittedIn (history : List Moment) : List Record := history.filterMap Moment.admitted?

/-- The batches that were formed, in the order in which they were. -/
def formedIn (history : List Moment) : List (List Record) := history.filterMap Moment.formed?

@[simp] theorem admittedIn_nil : admittedIn [] = [] := rfl

@[simp] theorem admittedIn_append (h k : List Moment) :
    admittedIn (h ++ k) = admittedIn h ++ admittedIn k :=
  List.filterMap_append ..

@[simp] theorem formedIn_nil : formedIn [] = [] := rfl

@[simp] theorem formedIn_append (h k : List Moment) :
    formedIn (h ++ k) = formedIn h ++ formedIn k :=
  List.filterMap_append ..

@[simp] theorem admittedIn_map_event (es : List Event) : admittedIn (es.map .event) = [] := by
  induction es with
  | nil => rfl
  | cons e es ih => exact ih

@[simp] theorem formedIn_map_event (es : List Event) : formedIn (es.map .event) = [] := by
  induction es with
  | nil => rfl
  | cons e es ih => exact ih

/-- A station with those who are at work on its worker. -/
structure Worksite where
  station : Station
  /-- The call that enqueues a record, if there was one, with its record. -/
  call : Option (Record × Intake)
  /-- The calls that close the worker. -/
  disposals : List Disposal

namespace Worksite

/-- Who moves, or what happens. -/
inductive Act where
  /-- A call that enqueues a record begins. -/
  | enqueue (r : Record)
  /-- The call that enqueues a record goes on. -/
  | intake
  /-- The batcher goes on. -/
  | batch
  /-- The handler ends. -/
  | handler (ending : Batcher.Ending)
  /-- A call that closes the worker begins. -/
  | dispose
  /-- A call that closes the worker goes on. -/
  | disposal (n : Nat)
  /-- Whoever the worker works for is cancelled. -/
  | cancel
  /-- Somebody else performs an operation of the state manager. -/
  | elsewhere (p : TopicPartition) (op : StateOp)

/-- No call that enqueues a record is under way. -/
def isFree (w : Worksite) : Bool := w.call.all (·.2.isOver)

/-- The worksite after a move, with what happened. Calls that enqueue records are made one after the
other. -/
def step (env : Surroundings) (w : Worksite) : Act → Option (Worksite × List Moment)
  | .enqueue r =>
    if w.isFree then some ({ w with call := some (r, .checkingStatus) }, [.called r]) else none
  | .intake => do
    let (r, i) ← w.call
    let (s, j, events) ← i.step env r w.station
    some ({ w with station := s, call := some (r, j) },
      events.map .event ++ Moment.ofIntake r w.station i j)
  | .batch => do
    let (s, events) ← Batcher.step env w.station
    some ({ w with station := s },
      events.map .event ++ Moment.ofBatcher w.station.worker.batcher s.worker.batcher)
  | .handler ending => do
    let (s, events) ← Batcher.handlerEnds env ending w.station
    some ({ w with station := s },
      Moment.ofEnding w.station.worker.batcher.batch ending ++ events.map .event)
  | .dispose => some ({ w with disposals := w.disposals ++ [.claiming] }, [])
  | .disposal n => do
    let d ← w.disposals[n]?
    let (s, d, events) ← d.step env w.station
    some ({ w with station := s, disposals := w.disposals.set n d }, events.map .event)
  | .cancel => some ({ w with station := { w.station with worker := w.station.worker.cancel } }, [])
  | .elsewhere p op =>
    some ({ w with station := w.station.performed env p op },
      (w.station.performing env p op).map .event)

/-- What a move can be. -/
inductive Move (env : Surroundings) (w : Worksite) : Act → Worksite → List Moment → Prop
  | enqueue (r : Record) (free : w.isFree = true) :
      Move env w (.enqueue r) { w with call := some (r, .checkingStatus) } [.called r]
  | intake {r : Record} {i j : Intake} {s : Station} {events : List Event}
      (call : w.call = some (r, i)) (move : Intake.Move env r w.station i s j events) :
      Move env w .intake { w with station := s, call := some (r, j) }
        (events.map .event ++ Moment.ofIntake r w.station i j)
  | batch {s : Station} {events : List Event} (move : Batcher.Move env w.station s events) :
      Move env w .batch { w with station := s }
        (events.map .event ++ Moment.ofBatcher w.station.worker.batcher s.worker.batcher)
  | handler {ending : Batcher.Ending} {s : Station} {events : List Event}
      (ends : Batcher.Ends env w.station ending s events) :
      Move env w (.handler ending) { w with station := s }
        (Moment.ofEnding w.station.worker.batcher.batch ending ++ events.map .event)
  | dispose : Move env w .dispose { w with disposals := w.disposals ++ [.claiming] } []
  | disposal {n : Nat} {d e : Disposal} {s : Station} {events : List Event}
      (call : w.disposals[n]? = some d) (move : Disposal.Move env w.station d s e events) :
      Move env w (.disposal n) { w with station := s, disposals := w.disposals.set n e }
        (events.map .event)
  | cancel :
      Move env w .cancel
        { w with station := { w.station with worker := w.station.worker.cancel } } []
  | elsewhere (p : TopicPartition) (op : StateOp) :
      Move env w (.elsewhere p op) { w with station := w.station.performed env p op }
        ((w.station.performing env p op).map .event)

theorem move_of_step {env : Surroundings} {w t : Worksite} {act : Act} {moments : List Moment}
    (h : w.step env act = some (t, moments)) : Move env w act t moments := by
  cases act with
  | enqueue r =>
    simp only [step] at h
    split at h
    · next free => cases h; exact .enqueue r free
    · cases h
  | intake =>
    simp only [step, bind, Option.bind_eq_some_iff, Prod.exists] at h
    obtain ⟨r, i, call, s, j, events, move, h⟩ := h
    cases h
    exact .intake call (Intake.move_of_step move)
  | batch =>
    simp only [step, bind, Option.bind_eq_some_iff, Prod.exists] at h
    obtain ⟨s, events, move, h⟩ := h
    cases h
    exact .batch (Batcher.move_of_step move)
  | handler ending =>
    simp only [step, bind, Option.bind_eq_some_iff, Prod.exists] at h
    obtain ⟨s, events, ends, h⟩ := h
    cases h
    exact .handler (Batcher.ends_of_handlerEnds ends)
  | dispose => cases h; exact .dispose
  | disposal n =>
    simp only [step, bind, Option.bind_eq_some_iff, Prod.exists] at h
    obtain ⟨d, call, s, e, events, move, h⟩ := h
    cases h
    exact .disposal call (Disposal.move_of_step move)
  | cancel => cases h; exact .cancel
  | elsewhere p op => cases h; exact .elsewhere p op

/-- A run, with its history. -/
inductive Run (allowed : Surroundings → Act → Prop) (w₀ : Worksite) :
    List Moment → Worksite → Prop
  | start : Run allowed w₀ [] w₀
  | step {history : List Moment} {w t : Worksite} {env : Surroundings} {act : Act}
      {moments : List Moment} (run : Run allowed w₀ history w) (may : allowed env act)
      (step : w.step env act = some (t, moments)) :
      Run allowed w₀ (history ++ moments) t

/-- What every move keeps, every run keeps. -/
theorem Run.invariant {allowed : Surroundings → Act → Prop} {w₀ w : Worksite}
    {history : List Moment} (Inv : List Moment → Worksite → Prop) (start : Inv [] w₀)
    (kept : ∀ {history w env act t moments}, Inv history w → allowed env act →
      Move env w act t moments → Inv (history ++ moments) t)
    (run : Run allowed w₀ history w) : Inv history w := by
  induction run with
  | start => exact start
  | step run may step ih => exact kept ih may (move_of_step step)

/-- Makes the moves of a schedule one after the other and leaves out those that cannot be made: the
worksite afterwards and the history. -/
def play (w : Worksite) : List (Surroundings × Act) → Worksite × List Moment
  | [] => (w, [])
  | (env, act) :: rest =>
    match w.step env act with
    | some (t, moments) => ((t.play rest).1, moments ++ (t.play rest).2)
    | none => w.play rest

/-- A call enqueues the record, and there is a permit for it. -/
def enqueueing (r : Record) : List Act := .enqueue r :: List.replicate 6 .intake

/-- A batch is looked at, handed over, and the handler ends. -/
def handling (ending : Batcher.Ending) : List Act := [.batch, .batch, .batch, .handler ending]

/-- A schedule of allowed moves continues a run. -/
theorem Run.play {allowed : Surroundings → Act → Prop} {w₀ w : Worksite} {history : List Moment}
    (run : Run allowed w₀ history w) {schedule : List (Surroundings × Act)}
    (may : ∀ move ∈ schedule, allowed move.1 move.2) :
    Run allowed w₀ (history ++ (w.play schedule).2) (w.play schedule).1 := by
  induction schedule generalizing history w with
  | nil => simpa [Worksite.play] using run
  | cons move rest ih =>
    obtain ⟨env, act⟩ := move
    have here := may _ List.mem_cons_self
    have later : ∀ move ∈ rest, allowed move.1 move.2 :=
      fun move h => may move (List.mem_cons_of_mem _ h)
    rw [Worksite.play]
    split
    · next t moments step =>
      rw [← List.append_assoc]
      exact ih (run.step here step) later
    · exact ih run later

/-- A schedule of allowed moves is a run. -/
theorem run_play {allowed : Surroundings → Act → Prop} (w : Worksite)
    (schedule : List (Surroundings × Act)) (may : ∀ move ∈ schedule, allowed move.1 move.2) :
    Run allowed w (w.play schedule).2 (w.play schedule).1 :=
  Run.start.play may

/-- The worksite when a worker has just been started. -/
def spawned (env : Surroundings) (m : Manager) (p : TopicPartition) (settings : BatchSettings) :
    Worksite :=
  ⟨(Station.spawn env m p settings).1, none, []⟩

variable (env : Surroundings) (m : Manager) (p : TopicPartition) (settings : BatchSettings)

@[simp] theorem spawned_worker : (spawned env m p settings).station.worker = .fresh p settings :=
  Station.spawn_worker ..

@[simp] theorem spawned_call : (spawned env m p settings).call = none := rfl

@[simp] theorem spawned_disposals : (spawned env m p settings).disposals = [] := rfl

theorem spawned_state :
    ((spawned env m p settings).station.manager.state p).pausedAt = (m.state p).pausedAt ∧
      ((spawned env m p settings).station.manager.state p).committed = (m.state p).committed :=
  Station.spawn_state env m p settings p

end Worksite

end TopicConsumer
