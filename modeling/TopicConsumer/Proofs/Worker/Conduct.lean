import TopicConsumer.Proofs.Worker.Progress

/-!
# How closing a worker ends

`Workshop.Conducted` is about every run of a workshop in which tasks give way to each other only
where they wait: any number of records are enqueued and any number of calls close the worker, the
handler ends in any way or never, the worker may be cancelled at any time, others use the state
manager, and the broker answers as it likes. When the first call that closes the worker has
returned, the last things that the worker has done to others are the commit, the resume and the
revoke of that call, and it will never do anything to others again. If all admitted records have
been handled by then, the position behind the last one of them has been committed.

Everything that has to be known for this is kept by every move, as `Workshop.Attested` says.
-/

namespace TopicConsumer

/-- A status is kept, or it is replaced by the next one. -/
inductive WorkerStatus.Follows : WorkerStatus → WorkerStatus → Prop
  | kept (status : WorkerStatus) : Follows status status
  | draining : Follows .active .draining
  | closed : Follows .draining .closed

namespace Workshop

/-- What has been brought about when the `n`-th call that closes the worker has returned and was the
first of these calls. -/
structure Concluded (p : TopicPartition) (history : List Entry) (w : Workshop) (n : Nat) :
    Prop where
  closed : w.station.worker.status = .closed
  ended : w.station.worker.batcher.hasEnded = true
  /-- The call has committed, resumed and revoked, and nothing came afterwards. Nobody else has
  committed or revoked, and no other call that closes the worker has done anything. -/
  last : ∃ before, deeds history = before ++ [(.disposal n, .operation p .commit),
    (.disposal n, .operation p .resume), (.disposal n, .operation p .revoke)] ∧
      ∀ x ∈ before, Foreign x
  /-- The batch task had ended before. -/
  task : ∀ e ∈ history, (∃ k, e.act = .disposal k) → e.deeds ≠ [] →
    e.before.station.worker.batcher.hasEnded = true
  /-- Nothing will come afterwards. -/
  still : ∀ added u, Run inTurn w added u → deeds added = []
  /-- If the batch task was left to end by itself, every admitted record is in a batch. -/
  drained : Undisturbed history → w.station.worker.batcher = .ended none →
    (formedIn (momentsIn history)).flatten = admittedIn (momentsIn history)
  /-- If every admitted record is in a batch and every batch was handled, no batch was abandoned,
  and the position behind the record admitted last was committed. -/
  carried : Sole p history → w.station.worker.batcher = .ended none →
    (formedIn (momentsIn history)).flatten = admittedIn (momentsIn history) →
      handledIn (momentsIn history) = formedIn (momentsIn history) →
        ¬ Abandons (momentsIn history) ∧
          ∀ r, (admittedIn (momentsIn history)).getLast? = some r →
            Commits history n ⟨p, r.offset + 1⟩

/-- How a worker conducts itself up to a state of a run and in the next move. -/
structure Conducted (p : TopicPartition) (history : List Entry) (w : Workshop) : Prop where
  /-- The status goes from active to draining and from there to closed. -/
  status : ∀ env act t moments, w.inTurn act = true → w.step env act = some (t, moments) →
    WorkerStatus.Follows w.station.worker.status t.station.worker.status
  /-- A worker that has been cancelled stays cancelled, and it stores no offset any more. -/
  cancelled : ∀ env act t moments, w.step env act = some (t, moments) →
    w.station.worker.cancelled = true → t.station.worker.cancelled = true
  unstored : ∀ e ∈ history, e.before.station.worker.cancelled = true →
    ∀ x ∈ e.deeds, ∀ q offset, x.2 ≠ .operation q (.store offset)
  concluded : ∀ n, firstDisposal history = some n → w.disposals[n]? = some .returned →
    Concluded p history w n

variable {p : TopicPartition} {history : List Entry} {env : Surroundings} {w t : Workshop}
  {act : Act} {moments : List Moment}

/-! ## What a run keeps -/

theorem Move.partition_eq (move : Move env w act t moments) :
    t.station.worker.partition = w.station.worker.partition := by
  cases move with
  | intake call move =>
    rcases move.worker_eq with ⟨-, -, -, -, worker⟩ | ⟨-, worker⟩ <;> rw [worker]
  | batch move => rw [move.worker_eq]
  | handler ends => rw [ends.worker_eq]
  | disposal call move => rw [move.worker_eq.1]
  | enqueue | dispose | cancel | elsewhere => rfl

theorem Move.cancelled (move : Move env w act t moments)
    (told : w.station.worker.cancelled = true) : t.station.worker.cancelled = true := by
  cases move with
  | intake call move =>
    rcases move.worker_eq with ⟨-, -, -, -, worker⟩ | ⟨-, worker⟩ <;> rw [worker] <;> exact told
  | batch move =>
    rw [move.worker_eq]
    exact told
  | handler ends =>
    rw [ends.worker_eq]
    exact told
  | disposal call move => exact move.worker_eq.2.2 told
  | cancel => rfl
  | enqueue | dispose | elsewhere => exact told

/-- Only the batcher stores an offset, and it does so when it has released a batch. -/
theorem Move.storing_of_deed (move : Move env w act t moments) {x : Act × Deed}
    (hx : x ∈ Entry.deeds ⟨w, act, moments⟩) {q : TopicPartition} {offset : Offset}
    (store : x.2 = .operation q (.store offset)) :
    ∃ last, w.station.worker.batcher = .storing last := by
  cases move with
  | intake call move =>
    rw [Entry.deeds_intake] at hx
    obtain ⟨d, hd, rfl⟩ := List.mem_map.mp hx
    rcases move.deeds hd with ⟨-, rfl⟩ | ⟨-, rfl⟩ <;> cases store
  | batch move =>
    rw [Entry.deeds_batch] at hx
    obtain ⟨d, hd, rfl⟩ := List.mem_map.mp hx
    rcases move.deeds hd with ⟨last, storing, -⟩ | ⟨-, rfl⟩ | ⟨b, n, -, rfl⟩
    · exact ⟨last, storing⟩
    · cases store
    · cases store
  | handler ends =>
    rw [Entry.deeds_handler, ends.deeds] at hx
    cases hx
  | @disposal n d e s events call move =>
    rw [Entry.deeds_disposal, move.deeds_eq] at hx
    obtain ⟨deed, hd, rfl⟩ := List.mem_map.mp hx
    cases d with
    | committing | resuming | revoking =>
      rw [List.mem_singleton.mp hd] at store
      cases store
    | _ => cases hd
  | enqueue | dispose | cancel | elsewhere => cases hx

/-- Everything that has to be known of a run to tell how the worker is closed. -/
structure Attested (p : TopicPartition) (history : List Entry) (w : Workshop) : Prop where
  own : w.station.worker.partition = p
  withdrawal : Withdrawal p history w
  /-- A worker whose batch was handled just now is not cancelled. -/
  live : (∃ b, w.station.worker.batcher = .releasing b) ∨
    (∃ last, w.station.worker.batcher = .storing last) → w.station.worker.cancelled = false
  unstored : ∀ e ∈ history, e.before.station.worker.cancelled = true →
    ∀ x ∈ e.deeds, ∀ q offset, x.2 ≠ .operation q (.store offset)
  task : ∀ e ∈ history, (∃ k, e.act = .disposal k) → e.deeds ≠ [] →
    e.before.station.worker.batcher.hasEnded = true
  arrayed : Arrayed history w
  tallied : Tallied history w
  noted : Sole p history → Noted p history w

namespace Attested

theorem spawned (env : Surroundings) (m : Manager) (p : TopicPartition) (settings : BatchSettings) :
    Attested p [] (spawned env m p settings) where
  own := by rw [spawned_worker]; rfl
  withdrawal := .spawned env m p settings
  live := by simp [Worker.fresh]
  unstored := by simp
  task := by simp
  arrayed := .spawned env m p settings
  tallied := .spawned env m p settings
  noted _ := .spawned env m p settings

/-- Between the end of a handler and the store nobody else moves, so that nobody cancels the worker.
-/
theorem live_move (attested : Attested p history w) (turn : w.inTurn act = true)
    (move : Move env w act t moments)
    (phase : (∃ b, t.station.worker.batcher = .releasing b) ∨
      ∃ last, t.station.worker.batcher = .storing last) :
    t.station.worker.cancelled = false := by
  have aside : act ≠ .batch → (∀ ending, act ≠ .handler ending) →
      t.station.worker.batcher = w.station.worker.batcher → t.station.worker.cancelled = false := by
    intro other others same
    have waits := batcher_waits turn other others
    rw [← same] at waits
    rcases phase with ⟨b, phase⟩ | ⟨last, phase⟩ <;> rw [phase] at waits <;> cases waits
  cases move with
  | intake call move =>
    refine aside (by simp) (by simp) ?_
    rcases move.worker_eq with ⟨-, -, -, -, worker⟩ | ⟨-, worker⟩ <;> rw [worker]
  | batch move =>
    have same := move.worker_eq
    rw [same]
    rcases phase with ⟨b, phase⟩ | ⟨last, phase⟩
    · cases move <;> cases phase
    · obtain ⟨b, releasing, -, -⟩ := move.storing phase
      exact attested.live (.inl ⟨b, releasing⟩)
  | handler ends =>
    cases ends with
    | handled handling live | failed handling live | crashed handling live => exact live
  | disposal call move =>
    refine aside (by simp) (by simp) ?_
    rw [move.worker_eq.1]
  | enqueue | dispose | cancel | elsewhere => exact aside (by simp) (by simp) rfl

/-- A call that closes the worker does nothing to others before the batch task has ended. -/
theorem task_move (attested : Attested p history w) (move : Move env w act t moments)
    (closing : ∃ k, act = .disposal k) (busy : Entry.deeds ⟨w, act, moments⟩ ≠ []) :
    w.station.worker.batcher.hasEnded = true := by
  obtain ⟨k, rfl⟩ := closing
  cases move with
  | @disposal _ d e s events call move =>
    rw [Entry.deeds_disposal, move.deeds_eq] at busy
    cases d with
    | committing | resuming | revoking =>
      exact ((attested.withdrawal.led call (by simp) (by simp)).2.ended rfl).1
    | _ => exact absurd rfl busy

theorem move (attested : Attested p history w) (turn : w.inTurn act = true)
    (move : Move env w act t moments) : Attested p (history ++ [⟨w, act, moments⟩]) t where
  own := move.partition_eq.trans attested.own
  withdrawal := attested.withdrawal.move attested.own turn move
  live := attested.live_move turn move
  unstored := by
    intro e he told x hx q offset store
    rcases List.mem_append.mp he with he | he
    · exact attested.unstored e he told x hx q offset store
    · cases List.mem_singleton.mp he
      obtain ⟨last, storing⟩ := move.storing_of_deed hx store
      cases (attested.live (.inr ⟨last, storing⟩)).symm.trans told
  task := by
    intro e he closing busy
    rcases List.mem_append.mp he with he | he
    · exact attested.task e he closing busy
    · cases List.mem_singleton.mp he
      exact attested.task_move move closing busy
  arrayed := attested.arrayed.move move
  tallied := attested.tallied.move move
  noted sole :=
    (attested.noted sole.of_append).move attested.own attested.withdrawal sole move

theorem of_run {m : Manager} {settings : BatchSettings}
    (run : Run inTurn (Workshop.spawned env m p settings) history w) : Attested p history w :=
  run.invariant (Attested p) (spawned env m p settings) fun attested turn move =>
    attested.move turn move

theorem follows (attested : Attested p history w) (move : Move env w act t moments) :
    WorkerStatus.Follows w.station.worker.status t.station.worker.status := by
  by_cases closing : ∃ k, act = .disposal k
  · obtain ⟨k, rfl⟩ := closing
    cases move with
    | disposal call move =>
      cases move with
      | claimed active =>
        rw [active]
        exact .draining
      | closed drained =>
        have led := (attested.withdrawal.led call (by simp) (by simp)).2
        rw [led.status]
        exact .closed
      | _ => exact .kept _
  · rw [(move.aside fun k hk => closing ⟨k, hk⟩).status]
    exact .kept _

/-- When the first call has returned, nobody does anything to others any more. -/
theorem quiet (attested : Attested p history w) (turn : w.inTurn act = true)
    (move : Move env w act t moments) {n : Nat} (first : firstDisposal history = some n)
    (returned : w.disposals[n]? = some .returned) :
    Entry.deeds ⟨w, act, moments⟩ = [] ∧ t.disposals[n]? = some .returned := by
  have led := attested.withdrawal.led_of_first first returned
  obtain ⟨ended, calls⟩ := led.ended rfl
  by_cases closing : ∃ k, act = .disposal k
  · obtain ⟨k, rfl⟩ := closing
    cases move with
    | @disposal _ d e s events call move =>
      have working : d ≠ .returned := move.ne_returned
      have idle : d = .claiming := by
        by_cases begun : d = .claiming
        · exact begun
        · have other := (attested.withdrawal.led call begun working).1
          cases first.symm.trans other
          exact absurd (Option.some.inj (call.symm.trans returned)) working
      subst idle
      refine ⟨by rw [Entry.deeds_disposal, move.deeds_eq]; rfl, ?_⟩
      have ne : k ≠ n := by
        rintro rfl
        cases call.symm.trans returned
      rw [List.getElem?_set_ne ne]
      exact returned
  · have aside := move.aside fun k hk => closing ⟨k, hk⟩
    refine ⟨(aside.settled led.inactive (led.cancelled rfl (by simp)) ended calls).2.2, ?_⟩
    have lt : n < w.disposals.length := (List.getElem?_eq_some_iff.mp returned).1
    rcases aside.disposals with eq | eq <;> rw [eq]
    · exact returned
    · rw [List.getElem?_append_left lt, returned]

theorem still (attested : Attested p history w) {n : Nat} (first : firstDisposal history = some n)
    (returned : w.disposals[n]? = some .returned) {added : List Entry} {u : Workshop}
    (run : Run inTurn w added u) : deeds added = [] := by
  have all := run.invariant
    (fun added u => Attested p (history ++ added) u ∧ u.disposals[n]? = some .returned ∧
      deeds added = [])
    ⟨by simpa using attested, returned, rfl⟩ ?_
  · exact all.2.2
  · intro added u env act t moments ⟨attested, returned, idle⟩ turn move
    obtain ⟨silent, still⟩ := attested.quiet turn move (firstDisposal_append first added) returned
    refine ⟨?_, still, by rw [deeds_append, deeds_singleton, idle, silent]; rfl⟩
    rw [← List.append_assoc]
    exact attested.move turn move

/-- The record admitted last is the last one of the last batch. -/
theorem lastOffset_eq (attested : Attested p history w)
    (all : (formedIn (momentsIn history)).flatten = admittedIn (momentsIn history))
    (handled : handledIn (momentsIn history) = formedIn (momentsIn history)) {r : Record}
    (last : (admittedIn (momentsIn history)).getLast? = some r) :
    ∃ b, lastHandled history = some b ∧ Batcher.lastOffset b = r.offset := by
  rw [← all] at last
  rw [lastHandled, handled]
  have nonempty := attested.tallied.nonempty
  rcases List.eq_nil_or_concat (formedIn (momentsIn history)) with none | ⟨front, b, eq⟩
  · rw [none] at last
    cases last
  · rw [List.concat_eq_append] at eq
    rw [eq] at last nonempty ⊢
    have filled : b ≠ [] := nonempty b (by simp)
    rw [List.flatten_append, List.flatten_singleton, List.getLast?_append,
      List.getLast?_eq_some_getLast filled] at last
    refine ⟨b, List.getLast?_concat .., ?_⟩
    rw [Batcher.lastOffset, List.getLast?_eq_some_getLast filled]
    exact congrArg Record.offset (Option.some.inj last)

theorem concluded (attested : Attested p history w) {n : Nat}
    (first : firstDisposal history = some n) (returned : w.disposals[n]? = some .returned) :
    Concluded p history w n := by
  have led := attested.withdrawal.led_of_first first returned
  refine
    { closed := led.status
      ended := (led.ended rfl).1
      last := led.deeds (by simp)
      task := attested.task
      still := fun added u run => attested.still first returned run
      drained := fun undisturbed ended => ?_
      carried := fun sole ended all handled => ⟨attested.tallied.not_abandons handled, ?_⟩ }
  · obtain ⟨rest, eq, -, left⟩ := attested.arrayed
    rw [eq, left ended undisturbed, List.append_nil]
  · intro r last
    obtain ⟨b, hb, offset⟩ := attested.lastOffset_eq all handled last
    have quiet : ¬ Owes w.station.worker.batcher := by
      rw [ended]
      exact id
    rw [← offset]
    rcases (attested.noted sole).settled quiet b hb with cached | ⟨k, first', commits⟩
    · cases (led.forgotten (.inr rfl) sole).symm.trans cached
    · cases first.symm.trans first'
      exact commits

theorem conducted (attested : Attested p history w) : Conducted p history w where
  status _ _ _ _ _ step := attested.follows (move_of_step step)
  cancelled _ _ _ _ step told := (move_of_step step).cancelled told
  unstored := attested.unstored
  concluded _ first returned := attested.concluded first returned

end Attested

end Workshop

end TopicConsumer
