import TopicConsumer.Proofs.Worker.Allocation
import TopicConsumer.Proofs.Worker.Capacity

/-!
# A paused worker is woken up

A call that finds no permit pauses the partition, and a batch that is done resumes it. Since the
permits of the batch are given back before the partition is resumed, and since the call decides to
pause before it pauses, the pause can come after the last resume. The call therefore looks for a
permit once more after the pause. `paused_attended` says that this is enough: in every state in
which the partition of an active worker is paused, something is left to do that ends with resuming
it, unless the batch task has crashed over a batch for which there can be no room.

What it rests on is that a worker that nobody disturbs leaves no batch out. The cached position then
never gets beyond a pending record, so that no batch becomes stale.
-/

namespace TopicConsumer

/-- The call has paused the partition, and its second look at the capacity is not over. If it finds
a permit, the look ends with resuming the partition. -/
def Intake.LooksAgain : Intake → Prop
  | .rechecking | .resuming => True
  | _ => False

/-- If nobody stops the batch task and the broker does not crash, only a batch for which there is no
room ends it. -/
theorem Batcher.Move.overflows {env : Surroundings} {s t : Station} {events : List Event}
    (move : Batcher.Move env s t events) (live : s.worker.cancelled = false)
    (accepting : s.worker.intakeOpen = true) (composed : env.answers.Composed)
    (ended : t.worker.batcher.hasEnded = true) :
    ¬ s.worker.settings.Roomy ∧ t.worker.batcher = .ended (some Worker.tooManyBytes) := by
  cases move with
  | finish idle finished =>
    rcases finished with cancelled | ⟨-, shut⟩
    · cases live.symm.trans cancelled
    · cases accepting.symm.trans shut
  | overflowed idle live queue deadline size => exact ⟨Nat.not_le.mpr size, rfl⟩
  | crashed operating broken =>
    rw [Station.crashing?_of_composed _ _ _ _ composed] at broken
    · cases broken
    · rcases operating with ⟨last, -, rfl⟩ | ⟨-, rfl⟩ <;> simp
  | _ => cases ended

namespace Worksite

theorem Move.settings_eq {env : Surroundings} {w t : Worksite} {act : Act} {moments : List Moment}
    (move : Move env w act t moments) :
    t.station.worker.settings = w.station.worker.settings := by
  cases move with
  | intake call move =>
    rcases move.worker_eq with ⟨-, -, -, -, worker⟩ | ⟨-, worker⟩ <;> rw [worker]
  | batch move => rw [move.worker_eq]
  | handler ends => rw [ends.worker_eq]
  | disposal call move => rw [move.worker_eq.1]
  | enqueue | dispose | cancel | elsewhere => rfl

/-- The broker does what it is asked to do, the handler does not crash, nobody cancels the worker,
and nobody else uses the states of the partitions. -/
def Undisturbed (env : Surroundings) (act : Act) : Prop :=
  env.answers.Willing ∧ (∀ text, act ≠ .handler (.crashed text)) ∧ act ≠ .cancel ∧
    ∀ p op, act ≠ .elsewhere p op

/-- Something is left to do that ends with resuming the partition: a record is queued, batched or
with the handler, or a batch is done and its resume is still to come, or a call that has paused the
partition still looks at the capacity. -/
def Attended (w : Worksite) : Prop :=
  w.station.worker.pending ≠ [] ∨ (∃ last, w.station.worker.batcher = .storing last) ∨
    w.station.worker.batcher = .resuming ∨ ∃ r i, w.call = some (r, i) ∧ i.LooksAgain

/-- What holds of an active worker that nobody disturbs. -/
structure Steady (w : Worksite) : Prop where
  accepting : w.station.worker.intakeOpen = true
  live : w.station.worker.cancelled = false
  unclaimed : ∀ d ∈ w.disposals, d = .claiming
  /-- The cached position is not beyond a pending record, and not beyond the record of the call,
  unless the call is still going to find out that its record has been admitted before. -/
  current : ∀ n, w.station.committed = some n →
    (∀ q ∈ w.station.worker.pending, n ≤ q.offset) ∧
      ∀ r i, w.call = some (r, i) → i.HasCompared →
        n ≤ r.offset ∨ ∃ l, w.station.worker.latestQueued = some l ∧ n ≤ l + 1
  /-- The offset that is about to be stored is that of an admitted record, and the records in the
  queue lie behind it. -/
  storing : ∀ last, w.station.worker.batcher = .storing last →
    (∃ l, w.station.worker.latestQueued = some l ∧ last ≤ l) ∧
      ∀ q ∈ w.station.worker.queue, last < q.offset
  /-- The batch task can only have crashed over a batch for which there is no room. -/
  overflows : w.station.worker.batcher.hasEnded = true → ¬ w.station.worker.settings.Roomy ∧
    w.station.worker.batcher = .ended (some Worker.tooManyBytes)
  attended : w.station.isPaused = true → w.station.worker.batcher.hasEnded = false → w.Attended

namespace Steady

variable {env : Surroundings} {w : Worksite}

theorem spawned {m : Manager} {p : TopicPartition} {settings : BatchSettings}
    (unpaused : (m.state p).pausedAt = none) : (spawned env m p settings).Steady where
  accepting := by simp [Worker.fresh]
  live := by simp [Worker.fresh]
  unclaimed := by simp
  current n hn := by simp [Worker.fresh, Worker.pending, Batcher.batch]
  storing := by simp [Worker.fresh]
  overflows ended := by
    rw [spawned_worker] at ended
    cases ended
  attended paused := by
    rw [Station.isPaused_eq, Station.pausedAt, spawned_worker] at paused
    simp [Worker.fresh, (spawned_state env m p settings).1, unpaused] at paused

/-- A batch that is there was not left behind by the cached position. -/
theorem not_stale (steady : w.Steady) {b : List Record} {n : Nat} {c : Offset}
    (filled : w.station.worker.batcher.Filled)
    (comparing : w.station.worker.batcher = .comparing b n)
    (committed : w.station.committed = some c) : c ≤ Batcher.lastOffset b := by
  rw [comparing] at filled
  obtain ⟨r, hr, heq⟩ := Batcher.exists_offset_eq_lastOffset filled
  have pending : r ∈ w.station.worker.pending := by
    rw [Worker.pending, comparing]
    exact List.mem_append_left _ hr
  rw [← heq]
  exact (steady.current c committed).1 r pending

/-- Once the batcher has stored an offset, the cached position is still not beyond any other record.
-/
theorem current_of_batch (steady : w.Steady) {s : Station} {events : List Event}
    (move : Batcher.Move env w.station s events) :
    ∀ n, s.committed = some n → (∀ q ∈ s.worker.pending, n ≤ q.offset) ∧
      ∀ r i, w.call = some (r, i) → i.HasCompared →
        n ≤ r.offset ∨ ∃ l, s.worker.latestQueued = some l ∧ n ≤ l + 1 := by
  intro n hn
  have latest : s.worker.latestQueued = w.station.worker.latestQueued := by rw [move.worker_eq]
  rw [latest]
  rcases move.committed_eq with same | ⟨last, storing, resuming, queue, stored⟩
  · rw [same] at hn
    obtain ⟨pending, call⟩ := steady.current n hn
    exact ⟨fun q hq => pending q (move.pending_sublist.subset hq), call⟩
  · rw [stored] at hn
    rcases PartitionState.eq_or_eq_of_stored hn with rfl | hn
    -- The new position follows the batch that is done, and whatever is pending lies behind it.
    · obtain ⟨⟨l, hl, le⟩, lt⟩ := steady.storing last storing
      refine ⟨fun q hq => ?_, fun r i _ _ => .inr ⟨l, hl, Int.add_le_add_right le 1⟩⟩
      rw [Worker.pending, resuming, queue] at hq
      exact lt q hq
    · obtain ⟨pending, call⟩ := steady.current n hn
      exact ⟨fun q hq => pending q (move.pending_sublist.subset hq), call⟩

/-- As long as the batch task goes on, every step of the batcher leaves something to do, or it
resumes the partition. -/
theorem attended_of_batch (steady : w.Steady) (ordered : w.Ordered) (willing : env.answers.Willing)
    {s : Station} {events : List Event} (move : Batcher.Move env w.station s events)
    (paused : s.isPaused = true) (alive : s.worker.batcher.hasEnded = false) :
    Attended { w with station := s } := by
  have filled := move.filled ordered.worker.filled
  cases move with
  | finish | overflowed | crashed => cases alive
  | opened | taken | formed | checked | compared | handed | woken =>
    exact .inl fun empty => filled (List.append_eq_nil_iff.mp empty).1
  | skipped comparing committed stale =>
    exact absurd stale (Int.not_lt.mpr (steady.not_stale ordered.worker.filled comparing committed))
  | givenUp trying cancelled => cases steady.live.symm.trans cancelled
  | released => exact .inr (.inl ⟨_, rfl⟩)
  | stored => exact .inr (.inr (.inl rfl))
  | resumed =>
    rw [Station.isPaused_eq, Station.at_pausedAt,
      Station.pausedAt_performed_resume _ _ willing.composed] at paused
    cases paused

theorem batch (steady : w.Steady) (ordered : w.Ordered) (willing : env.answers.Willing)
    {s : Station} {events : List Event} (move : Batcher.Move env w.station s events) :
    Steady { w with station := s } where
  accepting := by rw [move.worker_eq]; exact steady.accepting
  live := by rw [move.worker_eq]; exact steady.live
  unclaimed := steady.unclaimed
  current := steady.current_of_batch move
  storing last storing := by
    obtain ⟨b, releasing, rfl, queue⟩ := move.storing storing
    have latest : s.worker.latestQueued = w.station.worker.latestQueued := by rw [move.worker_eq]
    have increasing := ordered.worker.increasing
    have filled := ordered.worker.filled
    have le_latest := ordered.worker.le_latest
    rw [releasing] at filled
    rw [Worker.pending, releasing] at increasing le_latest
    rw [latest, queue]
    refine ⟨?_, fun q hq => Batcher.lastOffset_lt increasing filled hq⟩
    obtain ⟨r, hr, heq⟩ := Batcher.exists_offset_eq_lastOffset filled
    rw [← heq]
    exact le_latest r (List.mem_append_left _ hr)
  overflows ended := by
    have settings : s.worker.settings = w.station.worker.settings := by rw [move.worker_eq]
    rw [settings]
    exact move.overflows steady.live steady.accepting willing.composed ended
  attended := steady.attended_of_batch ordered willing move

theorem handler (steady : w.Steady) (ordered : w.Ordered) {ending : Batcher.Ending} {s : Station}
    {events : List Event} (ends : Batcher.Ends env w.station ending s events)
    (sound : ∀ text, ending ≠ .crashed text) : Steady { w with station := s } where
  accepting := by rw [ends.worker_eq]; exact steady.accepting
  live := by rw [ends.worker_eq]; exact steady.live
  unclaimed := steady.unclaimed
  current n hn := by
    have latest : s.worker.latestQueued = w.station.worker.latestQueued := by rw [ends.worker_eq]
    have same : s.committed = w.station.committed := by
      cases ends <;> rfl
    obtain ⟨pending, call⟩ := steady.current n (same ▸ hn)
    refine ⟨fun q hq => pending q (ends.pending_sublist.subset hq), ?_⟩
    rw [latest]
    exact call
  storing last hl := by cases ends <;> cases hl
  overflows ended := by
    cases ends with
    | handled | failed => cases ended
    | crashed => exact absurd rfl (sound _)
  attended paused alive := by
    have filled := ends.filled ordered.worker.filled
    cases ends with
    | handled | failed => exact .inl fun empty => filled (List.append_eq_nil_iff.mp empty).1
    | crashed => cases alive

/-- A record that is admitted is not before the cached position. -/
theorem le_of_admission (steady : w.Steady) (ordered : w.Ordered) {r : Record}
    (call : w.call = some (r, .admitting)) {n : Offset} (hn : w.station.committed = some n) :
    n ≤ r.offset := by
  rcases (steady.current n hn).2 r _ call trivial with le | ⟨l, hl, le⟩
  · exact le
  · exact Int.le_trans le (ordered.behind r _ call trivial l hl)

theorem current_of_intake (steady : w.Steady) (ordered : w.Ordered) {r : Record} {i j : Intake}
    {s : Station} {events : List Event} (call : w.call = some (r, i))
    (move : Intake.Move env r w.station i s j events) :
    ∀ n, s.committed = some n → (∀ q ∈ s.worker.pending, n ≤ q.offset) ∧
      (j.HasCompared →
        n ≤ r.offset ∨ ∃ l, s.worker.latestQueued = some l ∧ n ≤ l + 1) := by
  intro n hn
  rw [move.committed_eq] at hn
  obtain ⟨pending, compared⟩ := steady.current n hn
  refine ⟨?_, fun past => ?_⟩
  · rcases move.worker_eq with ⟨rfl, -, -, -, worker⟩ | ⟨-, worker⟩ <;> rw [worker]
    · intro q hq
      simp only [Worker.pending, ← List.append_assoc, List.mem_append, List.mem_singleton] at hq
      rcases hq with hq | rfl
      · exact pending q (List.mem_append.mpr hq)
      · exact steady.le_of_admission ordered call hn
    · exact pending
  · cases move with
    | current current => exact .inl (current n hn)
    | fresh | acquired | delayed | woken => exact compared r _ call trivial
    | _ => exact past.elim

/-- A call that stops looking at the capacity has found none, so that a record is pending, or it has
resumed the partition. -/
theorem attended_of_intake (steady : w.Steady) (willing : env.answers.Willing)
    (permits : 1 ≤ w.allPermits) {r : Record} {i j : Intake} {s : Station} {events : List Event}
    (call : w.call = some (r, i)) (move : Intake.Move env r w.station i s j events)
    (paused : s.isPaused = true) (alive : s.worker.batcher.hasEnded = false) :
    Attended { w with station := s, call := some (r, j) } := by
  -- A call that does not look again is not what is left to do, so that something else is.
  have waiting : ¬ i.LooksAgain → w.station.isPaused = true →
      w.station.worker.batcher.hasEnded = false → w.station.worker.pending ≠ [] ∨
        (∃ last, w.station.worker.batcher = .storing last) ∨
          w.station.worker.batcher = .resuming := by
    intro other paused alive
    rcases steady.attended paused alive with left | left | left | ⟨q, k, hk, looks⟩
    · exact .inl left
    · exact .inr (.inl left)
    · exact .inr (.inr left)
    · rw [call] at hk
      cases hk
      exact absurd looks other
  have carry : ∀ {t : Worksite}, (w.station.worker.pending ≠ [] ∨
      (∃ last, w.station.worker.batcher = .storing last) ∨
        w.station.worker.batcher = .resuming) →
      t.station.worker.pending = w.station.worker.pending →
        t.station.worker.batcher = w.station.worker.batcher → t.Attended := by
    intro t left pending batcher
    rw [Attended, pending, batcher]
    exact left.imp_right fun left => left.imp_right .inl
  cases move with
  | admitted => exact .inl (by simp [Worker.pending])
  | paused | found => exact .inr (.inr (.inr ⟨r, _, rfl, trivial⟩))
  | left full =>
    -- The call itself holds no permit here: all of them belong to pending records.
    have count : w.allPermits = w.station.worker.pending.length := by
      simp [allPermits, callPermits, call, Intake.permits, full]
    rw [count] at permits
    exact .inl (List.length_pos_iff.mp permits)
  | resumed | resumeCrashed =>
    rw [Station.isPaused_eq, Station.pausedAt_performed_resume _ _ willing.composed] at paused
    cases paused
  | pauseCrashed broken =>
    rw [Station.crashing?_of_composed _ _ _ _ willing.composed (by simp)] at broken
    cases broken
  | _ => exact carry (waiting id paused alive) rfl rfl

theorem intake (steady : w.Steady) (ordered : w.Ordered) (willing : env.answers.Willing)
    (permits : 1 ≤ w.allPermits) {r : Record} {i j : Intake} {s : Station} {events : List Event}
    (call : w.call = some (r, i)) (move : Intake.Move env r w.station i s j events) :
    Steady { w with station := s, call := some (r, j) } where
  accepting := by
    rcases move.worker_eq with ⟨-, -, -, -, worker⟩ | ⟨-, worker⟩ <;> rw [worker] <;>
      exact steady.accepting
  live := by
    rcases move.worker_eq with ⟨-, -, -, -, worker⟩ | ⟨-, worker⟩ <;> rw [worker] <;>
      exact steady.live
  unclaimed := steady.unclaimed
  current n hn := by
    obtain ⟨pending, compared⟩ := steady.current_of_intake ordered call move n hn
    refine ⟨pending, ?_⟩
    rintro _ _ ⟨rfl, rfl⟩ past
    exact compared past
  storing last storing := by
    rcases move.worker_eq with ⟨rfl, -, -, -, worker⟩ | ⟨-, worker⟩ <;> rw [worker] at storing ⊢
    · obtain ⟨⟨l, hl, le⟩, lt⟩ := steady.storing last storing
      have behind := Int.lt_of_le_of_lt le (ordered.behind r _ call trivial l hl)
      refine ⟨⟨r.offset, rfl, Int.le_of_lt behind⟩, fun q hq => ?_⟩
      rcases List.mem_append.mp hq with hq | hq
      · exact lt q hq
      · rw [List.mem_singleton.mp hq]
        exact behind
    · exact steady.storing last storing
  overflows := by
    rcases move.worker_eq with ⟨-, -, -, -, worker⟩ | ⟨-, worker⟩ <;> rw [worker] <;>
      exact steady.overflows
  attended := steady.attended_of_intake willing permits call move

/-- Every move of an undisturbed worker that stays active keeps it steady. -/
theorem move {t : Worksite} {act : Act} {moments : List Moment}
    (steady : w.station.worker.status = .active → w.Steady) (ordered : w.Ordered)
    (permits : 1 ≤ w.allPermits) (undisturbed : Undisturbed env act)
    (move : Move env w act t moments) (active : t.station.worker.status = .active) : t.Steady := by
  obtain ⟨willing, sound, uncancelled, alone⟩ := undisturbed
  cases move with
  | enqueue r free =>
    have steady := steady active
    refine { steady with current := fun n hn => ⟨(steady.current n hn).1, ?_⟩, attended := ?_ }
    · rintro _ _ ⟨rfl, rfl⟩ past
      exact past.elim
    · intro paused alive
      rcases steady.attended paused alive with left | left | left | ⟨q, i, call, looks⟩
      · exact .inl left
      · exact .inr (.inl left)
      · exact .inr (.inr (.inl left))
      · rw [isFree, call] at free
        cases i <;> first | exact looks.elim | cases free
  | intake call move =>
    have before : w.station.worker.status = .active := by
      rcases move.worker_eq with ⟨-, -, -, -, worker⟩ | ⟨-, worker⟩ <;> rw [worker] at active <;>
        exact active
    exact (steady before).intake ordered willing permits call move
  | batch move =>
    rw [move.worker_eq] at active
    exact (steady active).batch ordered willing move
  | handler ends =>
    rw [ends.worker_eq] at active
    exact (steady active).handler ordered ends fun text crash => sound text (by rw [crash])
  | dispose =>
    have steady := steady active
    refine { steady with unclaimed := fun d hd => ?_ }
    rcases List.mem_append.mp hd with hd | hd
    · exact steady.unclaimed d hd
    · exact List.mem_singleton.mp hd
  | @disposal n d e s events call move =>
    -- Nobody has claimed a worker that is still active, so that no call is past its claim.
    cases move with
    | claimed => cases active
    | closed => cases active
    | late inactive => exact absurd active inactive
    | crashed operating =>
      rcases operating with ⟨drained, ⟨rfl, -⟩ | ⟨rfl, -⟩⟩ <;>
        cases (steady active).unclaimed _ (List.mem_of_getElem? call)
    | _ => cases (steady active).unclaimed _ (List.mem_of_getElem? call)
  | cancel => exact absurd rfl uncancelled
  | elsewhere p op => exact absurd rfl (alone p op)

end Steady

variable {env : Surroundings} {m : Manager} {p : TopicPartition} {settings : BatchSettings}
  {history : List Moment} {w : Worksite}

/-- Whenever the partition of an active worker is paused, something is left to do that ends with
resuming it, unless there can be no room for a batch and the batch task has crashed over it. -/
theorem paused_attended (unpaused : (m.state p).pausedAt = none)
    (run : Run Undisturbed (spawned env m p settings.clamped) history w)
    (active : w.station.worker.status = .active) (paused : w.station.isPaused = true) :
    w.Attended ∨ ¬ settings.clamped.Roomy ∧
      w.station.worker.batcher = .ended (some Worker.tooManyBytes) := by
  have least : 1 ≤ settings.clamped.queueCapacity := Nat.le_max_right _ 1
  have kept : w.Ordered ∧ w.allPermits = settings.clamped.queueCapacity ∧
      w.station.worker.settings = settings.clamped ∧
        (w.station.worker.status = .active → w.Steady) := by
    refine run.invariant (fun _ w => w.Ordered ∧ w.allPermits = settings.clamped.queueCapacity ∧
      w.station.worker.settings = settings.clamped ∧
        (w.station.worker.status = .active → w.Steady)) ?_ ?_
    · have permits :=
        (Run.start : Run Undisturbed (spawned env m p settings.clamped) _ _).allPermits_eq
      exact ⟨Ordered.spawned env m p _, permits, by rw [spawned_worker]; rfl,
        fun _ => Steady.spawned unpaused⟩
    · rintro history w env act t moments ⟨ordered, permits, same, steady⟩ undisturbed move
      exact ⟨ordered.move move, move.allPermits_eq.trans permits, move.settings_eq.trans same,
        Steady.move steady ordered (permits ▸ least) undisturbed move⟩
  obtain ⟨-, -, same, steady⟩ := kept
  have steady := steady active
  cases alive : w.station.worker.batcher.hasEnded with
  | false => exact .inl (steady.attended paused alive)
  | true => exact .inr (same ▸ steady.overflows alive)

/-- The queue has room for one record. A call that wants to admit a second one pauses the partition
just after the batch with the first one has resumed it. -/
def latePause (p : TopicPartition) : List (Surroundings × Act) :=
  let early := enqueueing (.bare p 4) ++ .enqueue (.bare p 6) :: List.replicate 5 .intake ++
    [.batch, .batch] ++ handling .handled
  let late := [.intake, .intake] ++ List.replicate 3 .batch ++ [.intake]
  early.map (.calm 0, ·) ++ [(.calm 10, .intake), (.calm 10, .intake)] ++ late.map (.calm 20, ·)

theorem latePause_attended :
    let p : TopicPartition := ⟨"orders", 0⟩
    let settings : BatchSettings := { queueCapacity := 1 }
    let w := ((spawned (.calm 0) .empty p settings.clamped).play (latePause p)).1
    w.station.isPaused = true ∧ w.station.worker.pending = [] ∧ settings.clamped.Roomy ∧
      (w.Attended ∨ ¬ settings.clamped.Roomy ∧
        w.station.worker.batcher = .ended (some Worker.tooManyBytes)) :=
  ⟨by decide +kernel, by decide +kernel, by decide +kernel,
    paused_attended rfl (run_play _ _ (by simp [latePause, enqueueing, handling, Undisturbed,
      Surroundings.calm, Answers.Willing, List.replicate])) (by decide +kernel) (by decide +kernel)⟩

/-- The queue has room for one record, and a batch of the greatest size has none. A call that wants
to admit a second record pauses the partition before the batcher has seen the first one. -/
def vainPause (p : TopicPartition) : List (Surroundings × Act) :=
  let early := enqueueing (.bare p 4) ++ .enqueue (.bare p 6) :: List.replicate 5 .intake
  let late := List.replicate 4 Act.intake ++ [.batch]
  early.map (.calm 0, ·) ++ [(.calm 10, .intake), (.calm 10, .intake)] ++ late.map (.calm 20, ·)

/-- The batch task crashes over the first record. The partition of the active worker stays paused,
and nothing is left to do that ends with resuming it. -/
theorem exists_unattended :
    let p : TopicPartition := ⟨"orders", 0⟩
    let settings : BatchSettings := { batchSize := 1152921504606846976, queueCapacity := 1 }
    ∃ history w, Run Undisturbed (spawned (.calm 0) .empty p settings.clamped) history w ∧
      w.station.worker.status = .active ∧ w.station.isPaused = true ∧ w.isFree = true ∧
      w.station.worker.pending = [] ∧
      w.station.worker.batcher = .ended (some Worker.tooManyBytes) ∧ ¬ w.Attended := by
  intro p settings
  have run : Run Undisturbed (spawned (.calm 0) .empty p settings.clamped) _ _ :=
    run_play _ (vainPause p) (by simp [vainPause, enqueueing, Undisturbed, Surroundings.calm,
      Answers.Willing, List.replicate])
  obtain ⟨history, w, run, active, paused, free, pending, crashed⟩ :
      ∃ history w, Run Undisturbed (spawned (.calm 0) .empty p settings.clamped) history w ∧
        w.station.worker.status = .active ∧ w.station.isPaused = true ∧ w.isFree = true ∧
        w.station.worker.pending = [] ∧
        w.station.worker.batcher = .ended (some Worker.tooManyBytes) :=
    ⟨_, _, run, by decide +kernel⟩
  refine ⟨history, w, run, active, paused, free, pending, crashed, ?_⟩
  rintro (left | ⟨last, storing⟩ | resuming | ⟨r, i, call, looks⟩)
  · exact left pending
  · cases crashed.symm.trans storing
  · cases crashed.symm.trans resuming
  · rw [isFree, call] at free
    cases i <;> first | exact looks.elim | cases free

end Worksite

end TopicConsumer
