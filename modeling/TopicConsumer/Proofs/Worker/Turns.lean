import TopicConsumer.Proofs.Worker.Workshop

/-!
# Turns and deeds

The tasks that work on a worker share a thread as long as none of them waits: a task gives way to
the others only where it waits for the queue, for the handler, for a time, or for another task.
`Workshop.inTurn` is the rule that lets somebody move only while everybody else waits.

A deed is something that the worker does to others: it performs an operation of the state manager,
or it hands a batch to the handler. `Workshop.deeds` lists the deeds of a history in order, each
with whoever did it; operations that others perform on the state manager are none of them.
-/

namespace TopicConsumer

/-! ## Where tasks wait -/

/-- The batch task waits, or it has ended. -/
def Batcher.waits : Batcher → Bool
  | .idle | .collecting _ _ | .handling _ _ | .backingOff _ _ _ | .ended _ => true
  | _ => false

/-- The call has not begun to work, waits for its next attempt, or is over. -/
def Intake.waits : Intake → Bool
  | .checkingStatus | .waiting _ _ | .returned _ | .crashed _ => true
  | _ => false

/-- The call has not begun to work, waits for the batch task, or is over. -/
def Disposal.waits : Disposal → Bool
  | .claiming | .draining _ | .aborting | .returned | .crashed _ => true
  | _ => false

namespace Workshop

/-- Somebody moves only while everybody else waits. -/
def inTurn (w : Workshop) : Act → Bool
  | .intake n =>
    w.station.worker.batcher.waits && (w.calls.eraseIdx n).all (·.2.waits) &&
      w.disposals.all (·.waits)
  | .batch | .handler _ => w.calls.all (·.2.waits) && w.disposals.all (·.waits)
  | .disposal n =>
    w.station.worker.batcher.waits && w.calls.all (·.2.waits) &&
      (w.disposals.eraseIdx n).all (·.waits)
  | .enqueue _ | .dispose | .cancel | .elsewhere _ _ =>
    w.station.worker.batcher.waits && w.calls.all (·.2.waits) && w.disposals.all (·.waits)

section InTurn

variable {w : Workshop} {act : Act} (turn : w.inTurn act = true)

include turn

/-- Unless one of them moves itself, all calls that close the worker wait. -/
theorem disposal_waits (other : ∀ n, act ≠ .disposal n) {k : Nat} {d : Disposal}
    (call : w.disposals[k]? = some d) : d.waits = true := by
  have all : w.disposals.all (·.waits) = true := by
    cases act with
    | disposal n => exact absurd rfl (other n)
    | _ => exact (Bool.and_eq_true_iff.mp turn).2
  exact List.all_eq_true.mp all d (List.mem_of_getElem? call)

/-- Unless it moves itself, the batch task waits. -/
theorem batcher_waits (other : act ≠ .batch) (others : ∀ ending, act ≠ .handler ending) :
    w.station.worker.batcher.waits = true := by
  cases act with
  | batch => exact absurd rfl other
  | handler ending => exact absurd rfl (others ending)
  | _ => exact (Bool.and_eq_true_iff.mp (Bool.and_eq_true_iff.mp turn).1).1

/-- Unless one of them moves itself, all calls that enqueue records wait. -/
theorem intake_waits (other : ∀ n, act ≠ .intake n) {call : Record × Intake}
    (mem : call ∈ w.calls) : call.2.waits = true := by
  have all : w.calls.all (·.2.waits) = true := by
    cases act with
    | intake n => exact absurd rfl (other n)
    | batch | handler => exact (Bool.and_eq_true_iff.mp turn).1
    | _ => exact (Bool.and_eq_true_iff.mp (Bool.and_eq_true_iff.mp turn).1).2
  exact List.all_eq_true.mp all call mem

end InTurn

end Workshop

/-! ## Deeds -/

/-- Something that a worker does to others. -/
inductive Deed where
  | operation (partition : TopicPartition) (op : StateOp)
  | handed (batch : List Record)
  deriving DecidableEq

/-- The deed that an event is. -/
def Event.deed? : Event → Option Deed
  | .operation p op => some (.operation p op)
  | .handed b => some (.handed b)
  | _ => none

/-- The deed that is told by a moment. -/
def Moment.deed? : Moment → Option Deed
  | .event e => e.deed?
  | _ => none

theorem Moment.deeds_map_event (events : List Event) :
    (events.map Moment.event).filterMap Moment.deed? = events.filterMap Event.deed? := by
  rw [List.filterMap_map]
  rfl

theorem Moment.deeds_ofIntake (r : Record) (s : Station) (i j : Intake) :
    (Moment.ofIntake r s i j).filterMap Moment.deed? = [] := by
  unfold ofIntake
  split <;> rfl

theorem Moment.deeds_ofBatcher (b c : Batcher) :
    (Moment.ofBatcher b c).filterMap Moment.deed? = [] := by
  unfold ofBatcher
  split <;> rfl

theorem Moment.deeds_ofEnding (b : List Record) (ending : Batcher.Ending) :
    (Moment.ofEnding b ending).filterMap Moment.deed? = [] := by
  cases ending <;> rfl

namespace Workshop

/-- What the worker did with a move, with whoever made it. -/
def Entry.deeds (e : Entry) : List (Act × Deed) :=
  match e.act with
  | .elsewhere _ _ => []
  | act => (e.moments.filterMap Moment.deed?).map (act, ·)

section

variable {w : Workshop} {n : Nat} {events : List Event}

theorem Entry.deeds_intake {r : Record} {s : Station} {i j : Intake} :
    Entry.deeds ⟨w, .intake n, events.map .event ++ Moment.ofIntake r s i j⟩ =
      (events.filterMap Event.deed?).map (.intake n, ·) := by
  simp only [Entry.deeds, List.filterMap_append, Moment.deeds_map_event, Moment.deeds_ofIntake,
    List.append_nil]

theorem Entry.deeds_batch {b c : Batcher} :
    Entry.deeds ⟨w, .batch, events.map .event ++ Moment.ofBatcher b c⟩ =
      (events.filterMap Event.deed?).map (.batch, ·) := by
  simp only [Entry.deeds, List.filterMap_append, Moment.deeds_map_event, Moment.deeds_ofBatcher,
    List.append_nil]

theorem Entry.deeds_handler {b : List Record} {ending : Batcher.Ending} :
    Entry.deeds ⟨w, .handler ending, Moment.ofEnding b ending ++ events.map .event⟩ =
      (events.filterMap Event.deed?).map (.handler ending, ·) := by
  simp only [Entry.deeds, List.filterMap_append, Moment.deeds_map_event, Moment.deeds_ofEnding,
    List.nil_append]

theorem Entry.deeds_disposal :
    Entry.deeds ⟨w, .disposal n, events.map .event⟩ =
      (events.filterMap Event.deed?).map (.disposal n, ·) := by
  simp only [Entry.deeds, Moment.deeds_map_event]

end

/-- What the worker did in a history, in order. -/
def deeds (history : List Entry) : List (Act × Deed) := history.flatMap Entry.deeds

@[simp] theorem deeds_nil : deeds [] = [] := rfl

@[simp] theorem deeds_append (h k : List Entry) : deeds (h ++ k) = deeds h ++ deeds k :=
  List.flatMap_append

@[simp] theorem deeds_singleton (e : Entry) : deeds [e] = e.deeds := by
  simp [deeds]

/-- The call that is the first of those that close the worker to make a move. -/
def firstDisposal (history : List Entry) : Option Nat :=
  history.findSome? fun e =>
    match e.act with
    | .disposal n => some n
    | _ => none

end Workshop

/-! ## The deeds of the machines -/

theorem Station.deeds_performing (env : Surroundings) (p : TopicPartition) (op : StateOp)
    (s : Station) : (s.performing env p op).filterMap Event.deed? = [.operation p op] := by
  have calls : ∀ l : List (BrokerCall × Answer),
      (l.map fun c => Event.call c.1 c.2).filterMap Event.deed? = [] := by
    intro l
    simp [List.filterMap_map, List.filterMap_eq_nil_iff, Event.deed?]
  have logs : ∀ l : List LogLine, (l.map Event.log).filterMap Event.deed? = [] := by
    intro l
    simp [List.filterMap_map, List.filterMap_eq_nil_iff, Event.deed?]
  simp [performing, Event.deed?, calls, logs]

/-- A step of the batcher stores an offset, resumes the partition, hands over a batch, or does
nothing to others. -/
theorem Batcher.Move.deeds {env : Surroundings} {s t : Station} {events : List Event}
    (h : Batcher.Move env s t events) {d : Deed} (hd : d ∈ events.filterMap Event.deed?) :
    (∃ last, s.worker.batcher = .storing last ∧
        d = .operation s.worker.partition (.store last)) ∨
      s.worker.batcher = .resuming ∧ d = .operation s.worker.partition .resume ∨
        ∃ b n, s.worker.batcher = .starting b n ∧ d = .handed b := by
  cases h with
  | @handed b n starting live =>
    cases List.mem_singleton.mp hd
    exact .inr (.inr ⟨b, n, starting, rfl⟩)
  | @stored last storing fine =>
    rw [Station.deeds_performing] at hd
    exact .inl ⟨last, storing, List.mem_singleton.mp hd⟩
  | resumed resuming fine line =>
    rw [List.filterMap_append, Station.deeds_performing] at hd
    exact .inr (.inl ⟨resuming, List.mem_singleton.mp hd⟩)
  | crashed operating broken =>
    rw [Station.deeds_performing] at hd
    rcases operating with ⟨last, storing, rfl⟩ | ⟨resuming, rfl⟩
    · exact .inl ⟨last, storing, List.mem_singleton.mp hd⟩
    · exact .inr (.inl ⟨resuming, List.mem_singleton.mp hd⟩)
  | givenUp trying cancelled quiet =>
    obtain ⟨e, he, hd⟩ := List.mem_filterMap.mp hd
    rcases quiet e he with ⟨line, rfl⟩ | rfl <;> cases hd
  | _ => cases hd

/-- The end of a handler is no deed of the worker. -/
theorem Batcher.Ends.deeds {env : Surroundings} {ending : Batcher.Ending} {s t : Station}
    {events : List Event} (h : Batcher.Ends env s ending t events) :
    events.filterMap Event.deed? = [] := by
  cases h <;> rfl

/-- A call that enqueues a record pauses its partition, resumes the worker's, or does nothing to
others. -/
theorem Intake.Move.deeds {env : Surroundings} {r : Record} {s t : Station} {i j : Intake}
    {events : List Event} (h : Intake.Move env r s i t j events) {d : Deed}
    (hd : d ∈ events.filterMap Event.deed?) :
    i = .pausing ∧ d = .operation r.partition (.pause r.offset) ∨
      i = .resuming ∧ d = .operation s.worker.partition .resume := by
  cases h with
  | paused | pauseCrashed =>
    rw [Station.deeds_performing] at hd
    exact .inl ⟨rfl, List.mem_singleton.mp hd⟩
  | resumed | resumeCrashed =>
    rw [Station.deeds_performing] at hd
    exact .inr ⟨rfl, List.mem_singleton.mp hd⟩
  | _ => cases hd

/-- What the next step of a call that closes the worker does to others. -/
def Disposal.due (p : TopicPartition) : Disposal → List Deed
  | .committing _ => [.operation p .commit]
  | .resuming _ => [.operation p .resume]
  | .revoking _ => [.operation p .revoke]
  | _ => []

theorem Disposal.Move.deeds_eq {env : Surroundings} {s t : Station} {d e : Disposal}
    {events : List Event} (h : Disposal.Move env s d t e events) :
    events.filterMap Event.deed? = d.due s.worker.partition := by
  cases h with
  | committed | resumed | revoked => exact Station.deeds_performing ..
  | crashed operating =>
    rw [Station.deeds_performing]
    rcases operating with ⟨drained, ⟨rfl, rfl⟩ | ⟨rfl, rfl⟩⟩ <;> rfl
  | @drained _ crash | @aborted crash => cases crash <;> rfl
  | _ => rfl

end TopicConsumer
