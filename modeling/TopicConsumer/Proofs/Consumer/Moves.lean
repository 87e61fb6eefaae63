import TopicConsumer.Consumer.Lifecycle
import TopicConsumer.Proofs.Consumer.Assignment

/-!
# The moves of the loop and of a shutdown

A shutdown closes workers, which is a move of a call that closes a worker, and beyond that it only
takes away: it empties the registry, cancels workers and closes their intakes. `Consumer.Subsided`
collects this. The loop makes the moves of the call that enqueues its record and of its shutdown,
and in between it turns without touching a worker.
-/

namespace TopicConsumer

namespace Consumer

/-- The consumer has taken away from what its workers may do, and nothing else that matters to them.
-/
structure Subsided (c d : Consumer) : Prop where
  manager : d.manager = c.manager
  loop : d.loop = c.loop
  workers : ∀ i : Nat, d.workers[i]? = c.workers[i]? ∨
    d.workers[i]? = c.workers[i]?.map Worker.cancel ∨
    d.workers[i]? = c.workers[i]?.map Worker.closeIntake
  registry : d.registry = c.registry ∨ d.registry = [] ∧ d.disposed = true
  disposed : c.disposed = true → d.disposed = true

namespace Subsided

variable {c d : Consumer}

/-- A worker keeps its partition, its records and the phase of its batcher. -/
theorem worker (h : Subsided c d) {i : Nat} {w : Worker} (hw : d.workers[i]? = some w) :
    ∃ v, c.workers[i]? = some v ∧ (w = v ∨ w = v.cancel ∨ w = v.closeIntake) := by
  rcases h.workers i with same | cancelled | shut
  · exact ⟨w, same ▸ hw, .inl rfl⟩
  · rw [cancelled] at hw
    obtain ⟨v, hv, rfl⟩ := Option.map_eq_some_iff.mp hw
    exact ⟨v, hv, .inr (.inl rfl)⟩
  · rw [shut] at hw
    obtain ⟨v, hv, rfl⟩ := Option.map_eq_some_iff.mp hw
    exact ⟨v, hv, .inr (.inr rfl)⟩

/-- No worker is lost. -/
theorem exists_worker (h : Subsided c d) {i : Nat} {v : Worker} (hv : c.workers[i]? = some v) :
    ∃ w, d.workers[i]? = some w ∧ w.partition = v.partition ∧ w.latestQueued = v.latestQueued := by
  rcases h.workers i with same | cancelled | shut
  · exact ⟨v, same.trans hv, rfl, rfl⟩
  · exact ⟨v.cancel, by rw [cancelled, hv]; rfl, rfl, rfl⟩
  · exact ⟨v.closeIntake, by rw [shut, hv]; rfl, rfl, rfl⟩

/-- The worker of a partition was its worker before. -/
theorem found (h : Subsided c d) {q : TopicPartition} {i : Nat} (hi : d.workerOf? q = some i) :
    c.workerOf? q = some i := by
  rcases h.registry with same | ⟨empty, -⟩
  · rw [workerOf?, ← same]
    exact hi
  · rw [workerOf?, empty] at hi
    cases hi

end Subsided

/-- Closing the intakes of workers that nobody refers to takes something away. -/
theorem subsided_forgetWorkers (c : Consumer) (workers : List Nat) :
    Subsided c (c.forgetWorkers workers) := by
  have fold : ∀ (workers : List Nat) (d : Consumer),
      (d.manager = c.manager ∧ d.loop = c.loop ∧ d.registry = c.registry ∧ d.disposed = c.disposed ∧
        ∀ i : Nat, d.workers[i]? = c.workers[i]? ∨
          d.workers[i]? = c.workers[i]?.map Worker.closeIntake) →
      Subsided c (d.forgetWorkers workers) := by
    intro workers
    induction workers with
    | nil =>
      rintro d ⟨manager, loop, registry, disposed, same⟩
      exact ⟨manager, loop, fun i => (same i).imp_right .inr, .inl registry,
        fun h => disposed.trans h⟩
    | cons k workers ih =>
      rintro d ⟨manager, loop, registry, disposed, same⟩
      refine ih _ ⟨manager, loop, registry, disposed, fun i => ?_⟩
      have modified : (d.modifyWorker k Worker.closeIntake).workers[i]? =
          if k = i then d.workers[i]?.map Worker.closeIntake else d.workers[i]? := by
        rw [modifyWorker, List.getElem?_modify]
        split <;> simp
      rw [modified]
      split
      · rcases same i with same | shut
        · exact .inr (by rw [same])
        · refine .inr ?_
          rw [shut, Option.map_map]
          rfl
      · exact same i
  exact fold workers c ⟨rfl, rfl, rfl, rfl, fun _ => .inl rfl⟩

end Consumer

variable {env : Surroundings} {profile : ConsumerProfile} {c d : Consumer}

/-- The consumer closes a worker or takes something away. -/
inductive Consumer.WindsDown (env : Surroundings) (c : Consumer) :
    Consumer → List ConsumerEvent → Prop
  | subsided {d : Consumer} {events : List ConsumerEvent} (subsided : Subsided c d)
      (quiet : ConsumerEvent.Quiet events) : WindsDown env c d events
  | closed {i : Nat} {w : Worker} {e f : Disposal} {s : Station} {events : List Event}
      (worker : c.workers[i]? = some w) (move : Disposal.Move env ⟨c.manager, w⟩ e s f events) :
      WindsDown env c (c.setStation i s) (events.map .work)

/-- Beside the states of the partitions and the workers, hardly anything changes. -/
theorem Consumer.WindsDown.rest {events : List ConsumerEvent} (h : WindsDown env c d events) :
    d.loop = c.loop ∧ (d.registry = c.registry ∨ d.registry = [] ∧ d.disposed = true) ∧
      (c.disposed = true → d.disposed = true) := by
  cases h with
  | subsided subsided => exact ⟨subsided.loop, subsided.registry, subsided.disposed⟩
  | closed => exact ⟨rfl, .inl rfl, id⟩

theorem Consumer.Subsided.refl (c : Consumer) : Subsided c c :=
  ⟨rfl, rfl, fun _ => .inl rfl, .inl rfl, id⟩

/-- A shutdown that has been claimed winds the consumer down. -/
theorem Shutdown.step_spec {s t : Shutdown} {events : List ConsumerEvent}
    (h : s.step env profile c = some (d, t, events)) (claimed : s = .claiming ∨ c.disposed = true) :
    d.disposed = true ∧ Consumer.WindsDown env c d events := by
  have line := ConsumerEvent.Quiet.line
  have none := ConsumerEvent.Quiet.nil
  have same : ∀ i : Nat, c.workers[i]? = c.workers[i]? ∨
      c.workers[i]? = c.workers[i]?.map Worker.cancel ∨
        c.workers[i]? = c.workers[i]?.map Worker.closeIntake := fun _ => .inl rfl
  have unchanged := Consumer.Subsided.refl c
  cases s with
  | claiming =>
    simp only [step] at h
    split at h
    · next disposed =>
      cases h
      exact ⟨disposed, .subsided unchanged none⟩
    · cases h
      exact ⟨rfl, .subsided ⟨rfl, rfl, same, .inl rfl, fun _ => rfl⟩ (line _)⟩
  | closingWorker i e rest =>
    have disposed : c.disposed = true := claimed.resolve_left (by simp)
    cases e with
    | returned =>
      cases h
      exact ⟨disposed, .subsided unchanged none⟩
    | crashed text =>
      cases h
      have subsided := Consumer.subsided_forgetWorkers c rest
      exact ⟨subsided.disposed disposed, .subsided subsided none⟩
    | _ =>
      simp only [step, bind, Option.bind_eq_some_iff, Prod.exists] at h
      obtain ⟨station, found, u, f, moves, move, h⟩ := h
      cases h
      obtain ⟨w, hw, rfl⟩ := Option.map_eq_some_iff.mp found
      exact ⟨disposed, .closed hw (Disposal.move_of_step move)⟩
  | awaiting tasks =>
    have disposed : c.disposed = true := claimed.resolve_left (by simp)
    cases tasks with
    | nil =>
      cases h
      exact ⟨disposed, .subsided unchanged none⟩
    | cons task rest =>
      simp only [step, bind, Option.bind_eq_some_iff, Prod.exists] at h
      obtain ⟨worker, call, -, h⟩ := h
      split at h
      · cases h
        refine ⟨disposed, .subsided unchanged ?_⟩
        cases call <;> first | exact line _ | exact none
      · cases h
  | stoppingLoop =>
    cases h
    have disposed : c.disposed = true := claimed.resolve_left (by simp)
    exact ⟨disposed, .subsided ⟨rfl, rfl, same, .inl rfl, id⟩ none⟩
  | takingWorkers =>
    cases h
    have disposed : c.disposed = true := claimed.resolve_left (by simp)
    exact ⟨disposed, .subsided ⟨rfl, rfl, same, .inr ⟨rfl, disposed⟩, id⟩ none⟩
  | takingRemovals =>
    cases h
    have disposed : c.disposed = true := claimed.resolve_left (by simp)
    exact ⟨disposed, .subsided ⟨rfl, rfl, same, .inl rfl, id⟩ none⟩
  | cancellingWorkers =>
    cases h
    have disposed : c.disposed = true := claimed.resolve_left (by simp)
    have cancelled : ∀ i : Nat,
        (c.workers.map Worker.cancel)[i]? = c.workers[i]?.map Worker.cancel :=
      fun i => List.getElem?_map
    exact ⟨disposed, .subsided ⟨rfl, rfl, fun i => .inr (.inl (cancelled i)), .inl rfl, id⟩ none⟩
  | unsubscribing | closingBroker =>
    cases h
    have disposed : c.disposed = true := claimed.resolve_left (by simp)
    refine ⟨disposed, .subsided unchanged fun call answered mem => ?_⟩
    cases List.mem_singleton.mp mem
  | finishing =>
    cases h
    have disposed : c.disposed = true := claimed.resolve_left (by simp)
    exact ⟨disposed, .subsided unchanged (line _)⟩
  | notifying | returned | crashed text => cases h

/-- The shutdown goes on when those are done who want to know of it. -/
theorem Shutdown.notified_spec {s t : Shutdown} {answer : Except String Unit}
    {events : List ConsumerEvent} (h : s.notified answer = some (t, events)) :
    s = .notifying ∧ t = .finishing ∧ ConsumerEvent.Quiet events := by
  cases s with
  | notifying =>
    cases h
    refine ⟨rfl, rfl, ?_⟩
    cases answer with
    | ok => exact .nil
    | error text => exact .line _
  | _ => cases h

/-- A call that closes the consumer winds it down. -/
theorem Closing.step_spec {call next : Closing} {events : List ConsumerEvent}
    (h : call.step env profile c = some (d, next, events))
    (claimed : ∀ s, call = .shuttingDown s → s = .claiming ∨ c.disposed = true) :
    (∀ s, next = .shuttingDown s → s = .claiming ∨ d.disposed = true) ∧
      Consumer.WindsDown env c d events := by
  have none := ConsumerEvent.Quiet.nil
  have same : ∀ i : Nat, c.workers[i]? = c.workers[i]? ∨
      c.workers[i]? = c.workers[i]?.map Worker.cancel ∨
        c.workers[i]? = c.workers[i]?.map Worker.closeIntake := fun _ => .inl rfl
  have claiming : ∀ s, Closing.shuttingDown .claiming = .shuttingDown s → s = .claiming ∨
      c.disposed = true := fun s hs => .inl (Closing.shuttingDown.inj hs).symm
  cases call with
  | stoppingLoop =>
    cases h
    exact ⟨by simp, .subsided ⟨rfl, rfl, same, .inl rfl, id⟩ none⟩
  | takingLoop =>
    cases h
    refine ⟨fun s hs => ?_, .subsided ⟨rfl, rfl, same, .inl rfl, id⟩ none⟩
    split at hs
    · cases hs
    · exact claiming s hs
  | awaitingLoop =>
    simp only [step] at h
    split at h
    · cases h
      exact ⟨claiming, .subsided (.refl c) none⟩
    · cases h
      exact ⟨claiming, .subsided (.refl c) none⟩
    · cases h
      exact ⟨claiming, .subsided (.refl c) (.line _)⟩
    · cases h
  | shuttingDown s =>
    simp only [step, bind, Option.bind_eq_some_iff, Prod.exists] at h
    obtain ⟨d, t, events, move, h⟩ := h
    cases h
    obtain ⟨disposed, winds⟩ := Shutdown.step_spec move (claimed s rfl)
    exact ⟨fun _ _ => .inr disposed, winds⟩
  | returned | crashed text => cases h

/-- The loop stands where it neither passes a record on nor shuts the consumer down beyond the
claim.
-/
def PollLoop.Free : PollLoop → Prop
  | .enqueuing _ _ _ => False
  | .shuttingDown s => s = .claiming
  | _ => True

theorem PollLoop.Free.passes {loop : PollLoop} (free : loop.Free) (i : Nat) (r : Record)
    (call : Intake) : loop ≠ .enqueuing i r call := by
  rintro rfl
  exact free

/-- The loop goes on with a call until it is over. -/
theorem PollLoop.ofIntake_spec (i : Nat) (r : Record) (call : Intake) :
    call.isOver = false ∧ ofIntake i r call = (.enqueuing i r call, []) ∨
      call.isOver = true ∧ (ofIntake i r call).1.Free ∧
        ConsumerEvent.Quiet (ofIntake i r call).2 := by
  cases call with
  | returned result =>
    cases result with
    | ok =>
      exact .inr ⟨rfl, trivial, .nil⟩
    | error e =>
      exact .inr ⟨rfl, trivial, .line _⟩
  | crashed text => exact .inr ⟨rfl, trivial, .nil⟩
  | _ => exact .inl ⟨rfl, rfl⟩

/-- What a step of the loop can be. -/
inductive PollLoop.Move (env : Surroundings) (profile : ConsumerProfile) (c : Consumer) :
    PollLoop → Consumer → PollLoop → List ConsumerEvent → Prop
  | turned {loop next : PollLoop} {events : List ConsumerEvent} (before : loop.Free)
      (alive : loop.isOver = false) (after : next.Free)
      (quiet : ConsumerEvent.Quiet events) : Move env profile c loop c next events
  | passed {i : Nat} {r : Record} {call next : Intake} {w : Worker} {s : Station}
      {events : List Event} (worker : c.workers[i]? = some w)
      (move : Intake.Move env r ⟨c.manager, w⟩ call s next events) :
      Move env profile c (.enqueuing i r call) (c.setStation i s) (ofIntake i r next).1
        (events.map .work ++ (ofIntake i r next).2)
  | shut {s t : Shutdown} {d : Consumer} {events : List ConsumerEvent}
      (step : s.step env profile c = some (d, t, events)) :
      Move env profile c (.shuttingDown s) d (ofShutdown t) events

/-- When a poll ends, its record is passed on to the worker of its partition, or the loop goes on
without one. -/
theorem PollLoop.polled_spec (c : Consumer) (result : PollResult) :
    (∃ r i, result = .ok (some (.record r)) ∧ c.workerOf? r.partition = some i ∧
        polled c result = (.enqueuing i r .checkingStatus, [])) ∨
      (polled c result).1.Free ∧ ConsumerEvent.Quiet (polled c result).2 ∧
        ∀ r, result = .ok (some (.record r)) → c.workerOf? r.partition = none := by
  have line := ConsumerEvent.Quiet.line
  rcases result with e | (- | (r | n))
  · simp only [polled]
    split
    · exact .inr ⟨trivial, line _, by simp⟩
    · exact .inr ⟨trivial, line _, by simp⟩
  · exact .inr ⟨trivial, .nil, by simp⟩
  · simp only [polled]
    split
    · next i found => exact .inl ⟨r, i, rfl, found, rfl⟩
    · next lacking =>
      refine .inr ⟨trivial, line _, ?_⟩
      rintro _ ⟨⟩
      exact lacking
  · exact .inr ⟨trivial, line _, by simp⟩

/-- Whatever is decided, the loop goes on without a record. -/
theorem PollLoop.decided_spec (decision : Decision) :
    (decided decision).1.Free ∧ ConsumerEvent.Quiet (decided decision).2 := by
  have line := ConsumerEvent.Quiet.line
  rcases decision with (- | -) | text | text
  · exact ⟨trivial, line _⟩
  · exact ⟨rfl, line _⟩
  · exact ⟨rfl, line _⟩
  · exact ⟨trivial, .nil⟩

theorem PollLoop.move_of_step {loop next : PollLoop} {events : List ConsumerEvent}
    (h : loop.step env profile c = some (d, next, events)) :
    PollLoop.Move env profile c loop d next events := by
  have line := ConsumerEvent.Quiet.line
  have none := ConsumerEvent.Quiet.nil
  cases loop with
  | beginning =>
    cases h
    exact .turned trivial rfl trivial (line _)
  | turning =>
    simp only [step] at h
    split at h <;> cases h
    · exact .turned trivial rfl rfl (line _)
    · exact .turned trivial rfl trivial none
  | polling =>
    simp only [step] at h
    split at h <;> cases h
    exact .turned trivial rfl rfl (line _)
  | enqueuing i r call =>
    simp only [step, bind, Option.bind_eq_some_iff, Prod.exists] at h
    obtain ⟨station, found, s, i, moves, move, h⟩ := h
    cases h
    obtain ⟨w, hw, rfl⟩ := Option.map_eq_some_iff.mp found
    exact .passed hw (Intake.move_of_step move)
  | shuttingDown s =>
    simp only [step, bind, Option.bind_eq_some_iff, Prod.exists] at h
    obtain ⟨d, t, events, move, h⟩ := h
    cases h
    exact .shut move
  | deciding error | returned | crashed text => cases h

end TopicConsumer
