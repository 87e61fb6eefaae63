import TopicConsumer.Proofs.Worker.Feed
import TopicConsumer.Proofs.Worker.Frame

/-!
# Which records a worker answers for

`Worker.Sound log start done w` says that every record between the start and the one that `w` has
admitted last is done with or pending, and that the batch which `w` is done with, or the offset
which it is about to store, has nothing but done records before it. A worker that was cancelled or
whose batch task has ended is free of the first duty, since it hands nothing over any more.

This is a property of one worker and of the records that are done with. It survives whatever other
workers of the same partition do.
-/

namespace TopicConsumer

variable {p : TopicPartition} {log : PartitionLog p} {start : Offset} {done more : Record → Prop}

/-- What a worker answers for. -/
structure Worker.Sound (log : PartitionLog p) (start : Offset) (done : Record → Prop) (w : Worker) :
    Prop where
  ordered : w.Ordered
  tail : w.cancelled = false → w.batcher.hasEnded = false → ∀ l, w.latestQueued = some l →
    log.Accounted start done w.pending (l + 1)
  releasing : ∀ b, w.batcher = .releasing b →
    (∀ r ∈ b, done r) ∧ log.Covered start done (Batcher.lastOffset b + 1)
  storing : ∀ last, w.batcher = .storing last → log.Covered start done (last + 1)

variable {env : Surroundings} {s t : Station} {events : List Event}

/-- As long as the batch task goes on and the worker is not cancelled, no pending record is lost. -/
theorem Batcher.Move.accounted (move : Batcher.Move env s t events)
    (sound : s.worker.Sound log start done)
    (cached : ∀ n, s.committed = some n → log.Covered start done n)
    (live : t.worker.cancelled = false) (alive : t.worker.batcher.hasEnded = false) {x : Offset}
    (h : log.Accounted start done s.worker.pending x) :
    log.Accounted start done t.worker.pending x := by
  refine h.mono (fun _ hd => hd) fun r hr ge mem => ?_
  cases move with
  | finish | overflowed | crashed => cases alive
  | opened idle _ queue =>
    rw [Worker.pending, idle, queue] at mem
    exact .inr mem
  | taken collecting _ _ queue =>
    rw [Worker.pending, collecting, queue] at mem
    exact .inr (by simpa [Worker.pending, batch] using mem)
  | formed phase | checked phase | compared phase | handed phase | woken phase | stored phase
  | resumed phase =>
    rw [Worker.pending, phase] at mem
    exact .inr mem
  | skipped comparing committed stale =>
    rw [Worker.pending, comparing] at mem
    rcases List.mem_append.mp mem with mem | mem
    · have increasing := sound.ordered.increasing
      rw [Worker.pending, comparing] at increasing
      have le := le_lastOffset (List.pairwise_append.mp increasing).1 mem
      exact .inl (cached _ committed r hr ge (Int.lt_of_le_of_lt le stale))
    · exact .inr mem
  | givenUp _ cancelled => cases live.symm.trans cancelled
  | released releasing =>
    rw [Worker.pending, releasing] at mem
    rcases List.mem_append.mp mem with mem | mem
    · exact .inl ((sound.releasing _ releasing).1 r mem)
    · exact .inr mem

namespace Worker.Sound

theorem fresh (settings : BatchSettings) : (Worker.fresh p settings).Sound log start done where
  ordered := Ordered.fresh p settings
  tail := by simp [Worker.fresh]
  releasing := by simp [Worker.fresh]
  storing := by simp [Worker.fresh]

theorem mono {w : Worker} (sound : w.Sound log start done) (grow : ∀ r, done r → more r) :
    w.Sound log start more where
  ordered := sound.ordered
  tail live alive l hl := (sound.tail live alive l hl).mono grow fun _ _ _ mem => .inr mem
  releasing b hb :=
    ⟨fun r hr => grow r ((sound.releasing b hb).1 r hr), (sound.releasing b hb).2.mono grow⟩
  storing last hl := (sound.storing last hl).mono grow

theorem batcher_move (sound : s.worker.Sound log start done)
    (cached : ∀ n, s.committed = some n → log.Covered start done n)
    (move : Batcher.Move env s t events) : t.worker.Sound log start done where
  ordered := sound.ordered.batcher_move move
  tail live alive l hl := by
    refine move.accounted sound cached live alive (sound.tail ?_ move.alive l ?_)
    · rw [move.worker_eq] at live
      exact live
    · rw [move.worker_eq] at hl
      exact hl
  releasing b hb := by cases move <;> cases hb
  storing last hl := by
    obtain ⟨b, releasing, rfl, -⟩ := move.storing hl
    exact (sound.releasing b releasing).2

/-- What the batcher stores has nothing but done records before it. -/
theorem covered_of_batcher_move (sound : s.worker.Sound log start done)
    (cached : ∀ n, s.committed = some n → log.Covered start done n)
    (move : Batcher.Move env s t events) :
    ∀ n, t.committed = some n → log.Covered start done n := by
  intro n hn
  rcases move.committed_eq with same | ⟨last, storing, -, -, stored⟩
  · exact cached n (same ▸ hn)
  · rw [stored] at hn
    rcases PartitionState.eq_or_eq_of_stored hn with rfl | old
    · exact sound.storing last storing
    · exact cached n old

/-- The handler has ended. If it has ended without an error, the records of its batch are done with.
-/
theorem handler_ends {ending : Batcher.Ending} (sound : s.worker.Sound log start done)
    (grow : ∀ r, done r → more r)
    (handled : ending = .handled → ∀ r ∈ s.worker.batcher.batch, more r)
    (ends : Batcher.Ends env s ending t events) : t.worker.Sound log start more where
  ordered := sound.ordered.handler_ends ends
  tail live alive l hl := by
    cases ends with
    | handled handling live | failed handling live =>
      have before : s.worker.batcher.hasEnded = false := by rw [handling]; rfl
      have h := (sound.tail live before l hl).mono grow fun _ _ _ mem => .inr mem
      rw [Worker.pending, handling] at h
      exact h
    | crashed => cases alive
  releasing b hb := by
    cases ends with
    | handled handling live =>
      cases hb
      have before : s.worker.batcher.hasEnded = false := by rw [handling]; rfl
      have filled := sound.ordered.filled
      have increasing := sound.ordered.increasing
      have all := handled rfl
      rw [handling] at filled all
      obtain ⟨r, hr, heq⟩ := Batcher.exists_offset_eq_lastOffset filled
      have mem : r ∈ s.worker.pending := by
        rw [Worker.pending, handling]
        exact List.mem_append_left _ hr
      obtain ⟨l, hl, le⟩ := sound.ordered.le_latest r mem
      have accounted := (sound.tail live before l hl).of_le (Int.add_le_add_right (heq ▸ le) 1)
      rw [Worker.pending, handling] at increasing accounted
      refine ⟨all, fun q hq ge lt => ?_⟩
      rcases accounted q hq ge lt with hd | mem
      · exact grow q hd
      · rcases List.mem_append.mp mem with mem | mem
        · exact all q mem
        · have behind := Batcher.lastOffset_lt increasing filled mem
          exact absurd (Int.le_of_lt_add_one lt) (Int.not_le.mpr behind)
    | failed => cases hb
    | crashed => cases hb
  storing last hl := by cases ends <;> cases hl

/-- A worker that is cancelled answers for less. -/
theorem cancel {w : Worker} (sound : w.Sound log start done) : w.cancel.Sound log start done where
  ordered := ⟨sound.ordered.increasing, sound.ordered.le_latest, sound.ordered.filled⟩
  tail live := by cases live
  releasing := sound.releasing
  storing := sound.storing

theorem closeIntake {w : Worker} (sound : w.Sound log start done) :
    w.closeIntake.Sound log start done where
  ordered := ⟨sound.ordered.increasing, sound.ordered.le_latest, sound.ordered.filled⟩
  tail := sound.tail
  releasing := sound.releasing
  storing := sound.storing

/-- A call admits its record only if everything before it is done with or pending. -/
theorem intake_move {r : Record} {i j : Intake} (sound : s.worker.Sound log start done)
    (behind : i = .admitting → ∀ l, s.worker.latestQueued = some l → l < r.offset)
    (front : i = .admitting → s.worker.cancelled = false → s.worker.batcher.hasEnded = false →
      s.worker.intakeOpen = true → r ∈ log ∧ log.Accounted start done s.worker.pending r.offset)
    (move : Intake.Move env r s i t j events) : t.worker.Sound log start done where
  ordered := sound.ordered.intake_move move behind
  tail live alive l hl := by
    rcases move.worker_eq with ⟨hi, -, accepting, ongoing, worker⟩ | ⟨-, worker⟩ <;>
      rw [worker] at live alive hl ⊢
    · cases hl
      obtain ⟨hr, accounted⟩ := front hi live ongoing accepting
      rw [Worker.pending, ← List.append_assoc]
      exact accounted.append hr
    · exact sound.tail live alive l hl
  releasing b hb := by
    rcases move.worker_eq with ⟨-, -, -, -, worker⟩ | ⟨-, worker⟩ <;> rw [worker] at hb <;>
      exact sound.releasing b hb
  storing last hl := by
    rcases move.worker_eq with ⟨-, -, -, -, worker⟩ | ⟨-, worker⟩ <;> rw [worker] at hl <;>
      exact sound.storing last hl

theorem disposal_move {d e : Disposal} (sound : s.worker.Sound log start done)
    (move : Disposal.Move env s d t e events) : t.worker.Sound log start done := by
  obtain ⟨worker, -, cancelled⟩ := move.worker_eq
  refine ⟨sound.ordered.disposal_move move, fun live alive => ?_, ?_, ?_⟩ <;> rw [worker] at *
  · have before : s.worker.cancelled = false :=
      Bool.eq_false_iff.mpr (mt cancelled (Bool.eq_false_iff.mp live))
    exact sound.tail before alive
  · exact sound.releasing
  · exact sound.storing

end Worker.Sound

end TopicConsumer
