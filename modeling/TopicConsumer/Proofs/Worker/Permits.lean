import TopicConsumer.Proofs.Worker.Capacity
import TopicConsumer.Proofs.Worker.Workshop

/-!
# Permits when many calls are under way

`Workshop.run_metered` accounts for the capacity of a worker in every run of a workshop: any number
of records are enqueued at the same time, calls that close the worker, a cancellation and other
users of the state manager come in between at any step, the handler ends in any way or never, and
the broker answers as it likes. Every permit is free, or belongs to a pending record, or is held by
a call that is about to admit its record. What the machines do to the permits is shown in
`TopicConsumer.Proofs.Worker.Capacity`; here it is added up over all calls.
-/

namespace TopicConsumer

/-! ## The queue of a batch task that has ended -/

/-- A batch task that ends leaves nothing in the queue. -/
theorem Batcher.Move.queue_of_hasEnded {env : Surroundings} {s t : Station} {events : List Event}
    (h : Batcher.Move env s t events) (ended : t.worker.batcher.hasEnded = true) :
    t.worker.queue = [] := by
  cases h with
  | finish | overflowed | crashed => rfl
  | _ => cases ended

theorem Batcher.Ends.queue_of_hasEnded {env : Surroundings} {ending : Batcher.Ending}
    {s t : Station} {events : List Event} (h : Batcher.Ends env s ending t events)
    (ended : t.worker.batcher.hasEnded = true) : t.worker.queue = [] := by
  cases h with
  | crashed => rfl
  | handled | failed => cases ended

/-- Nothing is put into the queue of a batch task that has ended. -/
theorem Intake.Move.queue_of_hasEnded {env : Surroundings} {r : Record} {s t : Station}
    {i j : Intake} {events : List Event} (h : Intake.Move env r s i t j events)
    (left : s.worker.batcher.hasEnded = true → s.worker.queue = [])
    (ended : t.worker.batcher.hasEnded = true) : t.worker.queue = [] := by
  rcases h.worker_eq with ⟨-, -, -, alive, worker⟩ | ⟨-, worker⟩ <;> rw [worker] at ended ⊢
  · exact absurd (alive.symm.trans ended) Bool.false_ne_true
  · exact left ended

namespace Workshop

/-! ## Permits that calls hold -/

/-- The permits that calls hold together. -/
def permitsOf : List (Record × Intake) → Nat
  | [] => 0
  | call :: calls => call.2.permits + permitsOf calls

@[simp] theorem permitsOf_nil : permitsOf [] = 0 := rfl

@[simp] theorem permitsOf_cons (call : Record × Intake) (calls : List (Record × Intake)) :
    permitsOf (call :: calls) = call.2.permits + permitsOf calls := rfl

/-- A call that begins holds no permit. -/
theorem permitsOf_concat (calls : List (Record × Intake)) (r : Record) :
    permitsOf (calls ++ [(r, .checkingStatus)]) = permitsOf calls := by
  induction calls with
  | nil => rfl
  | cons call calls ih => rw [List.cons_append, permitsOf_cons, permitsOf_cons, ih]

/-- When one call goes on, the permits of the others stay as they are. -/
theorem permitsOf_set {calls : List (Record × Intake)} {n : Nat} {r : Record} {i : Intake}
    (call : calls[n]? = some (r, i)) (j : Intake) :
    permitsOf (calls.set n (r, j)) + i.permits = permitsOf calls + j.permits := by
  induction calls generalizing n with
  | nil => cases call
  | cons first calls ih =>
    cases n with
    | zero =>
      cases call
      simp only [List.set_cons_zero, permitsOf_cons]
      omega
    | succ n =>
      have rest := ih (n := n) call
      simp only [List.set_cons_succ, permitsOf_cons]
      omega

theorem permitsOf_of_isOver {calls : List (Record × Intake)}
    (finished : ∀ call ∈ calls, call.2.isOver = true) : permitsOf calls = 0 := by
  induction calls with
  | nil => rfl
  | cons first calls ih =>
    have none : first.2.permits = 0 := by
      have here := finished first List.mem_cons_self
      cases hi : first.2 <;> rw [hi] at here <;> first | rfl | cases here
    rw [permitsOf_cons, none, ih fun call h => finished call (List.mem_cons_of_mem _ h)]

/-- The permits of the worker, wherever they are. -/
def allPermits (w : Workshop) : Nat :=
  w.station.worker.permits + w.station.worker.pending.length + permitsOf w.calls

variable {env : Surroundings} {w t : Workshop} {act : Act} {moments : List Moment}

/-- No move creates a permit or loses one. -/
theorem Move.allPermits_eq (move : Move env w act t moments) : t.allPermits = w.allPermits := by
  cases move with
  | enqueue r => exact congrArg (_ + ·) (permitsOf_concat w.calls r)
  | @intake n r i j s events call move =>
    have machine := move.permits_add_pending
    have others := permitsOf_set call j
    simp only [allPermits]
    omega
  | batch move => exact congrArg (· + permitsOf w.calls) move.permits_add_pending
  | handler ends => exact congrArg (· + permitsOf w.calls) ends.permits_add_pending
  | disposal call move => exact congrArg (· + permitsOf w.calls) move.permits_add_pending
  | dispose | cancel | elsewhere => rfl

/-! ## Pending records -/

/-- Every pending record was admitted, and a batch task that has ended has left none. -/
structure Stocked (history : List Entry) (w : Workshop) : Prop where
  admitted : w.station.worker.pending.Sublist (admittedIn (momentsIn history))
  emptied : w.station.worker.batcher.hasEnded = true → w.station.worker.queue = []

namespace Stocked

variable {history : List Entry}

/-- What takes no record in leaves only admitted records pending. -/
theorem of_sublist (stocked : Stocked history w) {e : Entry}
    (sub : t.station.worker.pending.Sublist w.station.worker.pending)
    (emptied : t.station.worker.batcher.hasEnded = true → t.station.worker.queue = []) :
    Stocked (history ++ [e]) t where
  admitted := by
    rw [momentsIn_concat, admittedIn_append]
    exact (sub.trans stocked.admitted).trans (List.sublist_append_left _ _)
  emptied := emptied

theorem move (stocked : Stocked history w) (move : Move env w act t moments) :
    Stocked (history ++ [⟨w, act, moments⟩]) t := by
  cases move with
  | @intake n r i j s events call move =>
    have emptied := move.queue_of_hasEnded stocked.emptied
    rcases move.worker_eq with ⟨rfl, rfl, -, -, worker⟩ | ⟨-, worker⟩
    · refine ⟨?_, emptied⟩
      have pending : s.worker.pending = w.station.worker.pending ++ [r] := by
        simp [worker, Worker.pending]
      rw [pending, momentsIn_concat, admittedIn_append, admittedIn_append, admittedIn_map_event]
      exact stocked.admitted.append (List.Sublist.refl [r])
    · refine stocked.of_sublist ?_ emptied
      rw [worker]
      exact List.Sublist.refl _
  | batch move => exact stocked.of_sublist move.pending_sublist move.queue_of_hasEnded
  | handler ends => exact stocked.of_sublist ends.pending_sublist ends.queue_of_hasEnded
  | disposal call move =>
    refine stocked.of_sublist ?_ ?_ <;> rw [move.worker_eq.1]
    · exact List.Sublist.refl _
    · exact stocked.emptied
  | enqueue | dispose | cancel | elsewhere =>
    exact stocked.of_sublist (List.Sublist.refl _) stocked.emptied

end Stocked

/-! ## The account of a run -/

/-- How the permits of a worker with capacity `c` are accounted for. -/
structure Metered (c : Nat) (history : List Entry) (w : Workshop) : Prop where
  /-- Free permits, permits of pending records and permits that calls hold make up the capacity. -/
  total : w.station.worker.permits + w.station.worker.pending.length + permitsOf w.calls = c
  /-- The pending records were admitted, and there are no more of them than the capacity. -/
  admitted : w.station.worker.pending.Sublist (admittedIn (momentsIn history))
  bounded : w.station.worker.pending.length ≤ c
  /-- Whatever happens next keeps the total, in whichever way a batch or a call ends by it. -/
  kept : ∀ env act t moments, w.step env act = some (t, moments) →
    t.station.worker.permits + t.station.worker.pending.length + permitsOf t.calls = c
  /-- When the batch task has ended and no call is under way, all permits are free. -/
  released : w.station.worker.batcher.hasEnded = true →
    (∀ call ∈ w.calls, call.2.isOver = true) →
      w.station.worker.permits = c ∧ w.station.worker.pending = []

/-- In every run of a workshop every permit is accounted for. -/
theorem run_metered {rule : Workshop → Act → Bool} {m : Manager} {p : TopicPartition}
    {settings : BatchSettings} {history : List Entry}
    (run : Run rule (spawned env m p settings) history w) :
    Metered settings.queueCapacity history w := by
  have total : w.allPermits = settings.queueCapacity := by
    refine run.invariant (fun _ w => w.allPermits = settings.queueCapacity) ?_ fun h _ move => ?_
    · simp [allPermits, Worker.fresh, Worker.pending, Batcher.batch]
    · exact move.allPermits_eq.trans h
  have stocked : Stocked history w := by
    refine run.invariant Stocked ⟨?_, ?_⟩ fun stocked _ move => stocked.move move
    · simp [Worker.fresh, Worker.pending, Batcher.batch]
    · simp [Worker.fresh, Batcher.hasEnded]
  refine ⟨total, stocked.admitted, ?_, fun env act t moments step => ?_, fun ended finished => ?_⟩
  · have sum : w.station.worker.permits + w.station.worker.pending.length + permitsOf w.calls =
        settings.queueCapacity := total
    omega
  · exact (move_of_step step).allPermits_eq.trans total
  · have none : w.station.worker.pending = [] := by
      have batch : w.station.worker.batcher.batch = [] := by
        cases hb : w.station.worker.batcher <;> first | rfl | (rw [hb] at ended; cases ended)
      rw [Worker.pending, batch, stocked.emptied ended]
      rfl
    refine ⟨?_, none⟩
    rw [← total, allPermits, none, permitsOf_of_isOver finished]
    rfl

/-- Three records are enqueued at the same time, with capacity for two of them. While the handler
works on the first one and the second one is in the queue, the handler crashes, so that both permits
come back; the third call takes one of them and finds the queue gone. -/
def crowded (p : TopicPartition) : List (Surroundings × Act) :=
  let entering : List (List Act) :=
    [.enqueue (.bare p 1), .enqueue (.bare p 2), .enqueue (.bare p 3)] ::
      List.replicate 6 [.intake 0, .intake 1]
  let working : List (List Act) :=
    [List.replicate 5 .batch, List.replicate 5 (.intake 2), [.handler (.crashed "broken")]]
  (entering ++ working).flatten.map (.calm 0, ·) ++ List.replicate 3 (.calm 10, .intake 2)

theorem crowded_metered :
    let settings : BatchSettings := { batchSize := 1, queueCapacity := 2 }
    let p : TopicPartition := ⟨"orders", 0⟩
    let run := (spawned (.calm 0) .empty p settings).play (fun _ _ => true) (crowded p)
    Metered settings.queueCapacity run.1 run.2 ∧
      admittedIn (momentsIn run.1) = [.bare p 1, .bare p 2] ∧
      run.2.station.worker.batcher = .ended (some "broken") ∧
      run.2.calls.map (·.2.isOver) = [true, true, true] ∧ run.2.station.worker.permits = 2 :=
  ⟨run_metered (run_play _ _ _), by decide +kernel, by decide +kernel, by decide +kernel,
    by decide +kernel⟩

end Workshop

end TopicConsumer
