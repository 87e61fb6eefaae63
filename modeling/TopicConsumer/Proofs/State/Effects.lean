import TopicConsumer.State.Manager

/-!
# What the operations on a partition do

`Answers.Willing answers` says that the broker does everything that it is asked to do, and
`Answers.Composed answers` only that it does not crash, so that each operation has one outcome: the
pause is noted if the broker did it, the note of the pause is gone, the position moves forward.
Whatever the broker answers, the calls of an operation are about the partition it is performed on,
and a position that is stored or committed is the one behind the stored offset or the one that is
cached.
-/

namespace TopicConsumer

/-- The broker does everything that it is asked to do. -/
def Answers.Willing (answers : Answers) : Prop := ∀ call, answers call = .done

/-- The broker answers every call, though it may fail. -/
def Answers.Composed (answers : Answers) : Prop := ∀ call text, answers call ≠ .crashed text

theorem Answers.Willing.composed {answers : Answers} (h : answers.Willing) : answers.Composed := by
  intro call text crashed
  cases (h call).symm.trans crashed

namespace PartitionState

variable (p : TopicPartition) (s : PartitionState) {answers : Answers}

/-! ## Whatever the broker answers -/

theorem store_state_pausedAt (offset : Offset) :
    (s.store p answers offset).state.pausedAt = s.pausedAt := by
  simp only [store]
  split
  · rfl
  · cases answers (.store ⟨p, offset + 1⟩) <;> rfl

/-- An offset is stored even if the broker fails, unless the call crashes. -/
theorem store_state_committed (offset : Offset)
    (fine : (s.store p answers offset).crash = none) :
    (s.store p answers offset).state.committed =
      some (s.committed.elim (offset + 1) (max (offset + 1))) := by
  obtain ⟨assigned, paused, committed⟩ := s
  cases committed with
  | none => cases ha : answers (.store ⟨p, offset + 1⟩) <;> simp_all [store]
  | some cached =>
    by_cases hlt : offset + 1 < cached
    · simp [store, Option.filter_some, hlt, Int.max_eq_right (Int.le_of_lt hlt)]
    · have current : (some cached).filter (offset + 1 < ·) = none := by
        simp [Option.filter_some, hlt]
      simp only [store, current, Option.elim, Int.max_eq_left (Int.not_lt.mp hlt)] at fine ⊢
      cases ha : answers (.store ⟨p, offset + 1⟩) <;> simp [ha] at fine ⊢

theorem commit_state : (s.commit p answers).state = s := by
  unfold commit
  split
  · rfl
  · simp only []
    split <;> rfl

/-- Only what stores an offset or forgets the state changes the cached position. -/
theorem perform_state_committed {op : StateOp} (unstored : ∀ offset, op ≠ .store offset)
    (kept : op ≠ .revoke) : (s.perform p answers op).state.committed = s.committed := by
  obtain ⟨assigned, paused, committed⟩ := s
  cases op with
  | assign reading => cases reading <;> rfl
  | revoke => exact absurd rfl kept
  | pause offset =>
    cases paused <;> cases ha : answers (.pause p) <;> simp [perform, pause, ha]
  | resume =>
    cases paused with
    | none => rfl
    | some y =>
      cases ha : answers (.seek ⟨p, y⟩) <;> cases hb : answers (.resume p) <;>
        simp [perform, resume, ha, hb]
  | store offset => exact absurd rfl (unstored offset)
  | commit => rw [perform, commit_state]

/-- An operation that crashes has changed nothing. -/
theorem perform_state_of_crash {op : StateOp} {text : String}
    (broken : (s.perform p answers op).crash = some text) :
    (s.perform p answers op).state = s := by
  obtain ⟨assigned, paused, committed⟩ := s
  cases op with
  | assign reading =>
    cases reading with
    | shown now => cases broken
    | crashed text => rfl
  | revoke => cases broken
  | pause offset =>
    cases paused <;> cases ha : answers (.pause p) <;> simp_all [perform, pause]
  | resume =>
    cases paused with
    | none => rfl
    | some y =>
      cases ha : answers (.seek ⟨p, y⟩) <;> cases hb : answers (.resume p) <;>
        simp_all [perform, resume]
  | store offset =>
    simp only [perform, store] at broken ⊢
    split
    · rfl
    · cases ha : answers (.store ⟨p, offset + 1⟩) <;> simp_all
  | commit => exact commit_state ..

/-! ## A broker that does not crash -/

theorem pause_state (done : answers (.pause p) = .done) (offset : Offset) :
    (s.pause p answers offset).state = { s with pausedAt := s.pausedAt.or (some offset) } := by
  obtain ⟨assigned, paused, committed⟩ := s
  cases paused <;> simp [pause, done]

theorem pause_state_of_failed {e : BrokerError} (failed : answers (.pause p) = .failed e)
    (offset : Offset) : (s.pause p answers offset).state = s := by
  obtain ⟨assigned, paused, committed⟩ := s
  cases paused <;> simp [pause, failed]

/-- The note of the pause is gone even if the broker fails. -/
theorem resume_state (h : answers.Composed) :
    (s.resume p answers).state = { s with pausedAt := none } := by
  obtain ⟨assigned, paused, committed⟩ := s
  cases paused with
  | none => rfl
  | some y =>
    have sought := h (.seek ⟨p, y⟩)
    have resumed := h (.resume p)
    cases ha : answers (.seek ⟨p, y⟩) <;> cases hb : answers (.resume p) <;> simp_all [resume]

/-- What is cached after an offset was stored is the position behind it, or the one that was cached
before. -/
theorem eq_or_eq_of_stored {cached : Option Offset} {next n : Offset}
    (h : some (cached.elim next (max next)) = some n) : n = next ∨ cached = some n := by
  cases cached with
  | none =>
    cases h
    exact .inl rfl
  | some c =>
    obtain rfl : max next c = n := Option.some.inj h
    rcases Int.le_total c next with le | le
    · exact .inl (Int.max_eq_left le)
    · exact .inr (by rw [Int.max_eq_right le])

theorem perform_crash (h : answers.Composed) {op : StateOp}
    (hop : ∀ reading, op ≠ .assign reading) : (s.perform p answers op).crash = none := by
  obtain ⟨assigned, paused, committed⟩ := s
  cases op with
  | assign reading => exact absurd rfl (hop reading)
  | revoke => rfl
  | pause offset =>
    have stopped := h (.pause p)
    cases paused <;> cases ha : answers (.pause p) <;> simp_all [perform, pause]
  | resume =>
    cases paused with
    | none => rfl
    | some y =>
      have sought := h (.seek ⟨p, y⟩)
      have resumed := h (.resume p)
      cases ha : answers (.seek ⟨p, y⟩) <;> cases hb : answers (.resume p) <;>
        simp_all [perform, resume]
  | store offset =>
    have stored := h (.store ⟨p, offset + 1⟩)
    simp only [perform, store]
    split
    · rfl
    · cases ha : answers (.store ⟨p, offset + 1⟩) <;> simp_all
  | commit =>
    cases committed with
    | none => rfl
    | some n =>
      have marked := h (.commit ⟨p, n⟩)
      simp only [perform, commit]
      split <;> simp_all

/-! ## The calls -/

/-- An operation crashes with one of its calls, unless it asks the clock. -/
theorem crashed_mem_calls {op : StateOp} (hop : ∀ reading, op ≠ .assign reading) {text : String}
    (broken : (s.perform p answers op).crash = some text) :
    ∃ call, (call, .crashed text) ∈ (s.perform p answers op).calls := by
  obtain ⟨assigned, paused, committed⟩ := s
  cases op with
  | assign reading => exact absurd rfl (hop reading)
  | revoke => cases broken
  | pause offset =>
    cases paused <;> cases ha : answers (.pause p) <;> simp_all [perform, pause]
  | resume =>
    cases paused with
    | none => cases broken
    | some y =>
      cases ha : answers (.seek ⟨p, y⟩) <;> cases hb : answers (.resume p) <;>
        simp_all [perform, resume]
  | store offset =>
    simp only [perform, store] at broken ⊢
    split at broken
    · cases broken
    · cases ha : answers (.store ⟨p, offset + 1⟩) <;> simp_all
  | commit =>
    cases committed with
    | none => cases broken
    | some n =>
      cases ha : answers (.commit ⟨p, n⟩) with
      | failed e => cases e <;> simp_all [perform, commit]
      | _ => simp_all [perform, commit]

theorem pause_calls (h : answers.Composed) (offset : Offset) :
    (s.pause p answers offset).calls =
      s.pausedAt.elim [(.pause p, answers (.pause p))] fun _ => [] := by
  obtain ⟨assigned, paused, committed⟩ := s
  have stopped := h (.pause p)
  cases paused <;> cases ha : answers (.pause p) <;> simp_all [pause]

theorem resume_calls (h : answers.Composed) :
    (s.resume p answers).calls = s.pausedAt.elim [] fun y =>
      [(.seek ⟨p, y⟩, answers (.seek ⟨p, y⟩)), (.resume p, answers (.resume p))] := by
  obtain ⟨assigned, paused, committed⟩ := s
  cases paused with
  | none => rfl
  | some y =>
    have sought := h (.seek ⟨p, y⟩)
    have resumed := h (.resume p)
    cases ha : answers (.seek ⟨p, y⟩) <;> cases hb : answers (.resume p) <;> simp_all [resume]

theorem mem_store_calls {offset : Offset} {call : BrokerCall × Answer}
    (h : call ∈ (s.store p answers offset).calls) : call.1 = .store ⟨p, offset + 1⟩ := by
  simp only [store] at h
  split at h
  · simp at h
  · cases ha : answers (.store ⟨p, offset + 1⟩) <;> simp [ha] at h <;> simp [h]

theorem mem_commit_calls {call : BrokerCall × Answer} (h : call ∈ (s.commit p answers).calls) :
    ∃ n, s.committed = some n ∧ call.1 = .commit ⟨p, n⟩ := by
  unfold commit at h
  split at h
  · simp at h
  · next n hn =>
    refine ⟨n, hn, ?_⟩
    simp only [] at h
    split at h <;> simp at h <;> simp [h]

/-- A cached position is committed. -/
theorem commit_mem_calls {n : Offset} (cached : s.committed = some n) :
    (.commit ⟨p, n⟩, answers (.commit ⟨p, n⟩)) ∈ (s.commit p answers).calls := by
  obtain ⟨assigned, paused, committed⟩ := s
  subst cached
  simp only [commit]
  split <;> simp_all

theorem mem_pause_calls {offset : Offset} {call : BrokerCall × Answer}
    (h : call ∈ (s.pause p answers offset).calls) : call.1 = .pause p := by
  unfold pause at h
  split at h
  · simp at h
  · cases ha : answers (.pause p) <;> simp [ha] at h <;> simp [h]

theorem mem_resume_calls {call : BrokerCall × Answer} (h : call ∈ (s.resume p answers).calls) :
    (∃ y, s.pausedAt = some y ∧ call.1 = .seek ⟨p, y⟩) ∨ call.1 = .resume p := by
  unfold resume at h
  split at h
  · simp at h
  · next y hy =>
    simp only [] at h
    split at h
    · simp at h
      exact .inl ⟨y, hy, by simp [h]⟩
    · split at h <;> simp at h <;> rcases h with h | h <;> simp [h, hy]

/-- Every call is about the partition that the operation is performed on. -/
theorem partition_of_mem_calls {op : StateOp} {call : BrokerCall × Answer}
    (h : call ∈ (s.perform p answers op).calls) : call.1.partition = p := by
  cases op with
  | assign reading => cases reading <;> simp [perform] at h
  | revoke => simp [perform] at h
  | pause offset => rw [mem_pause_calls p s h]; rfl
  | resume =>
    rcases mem_resume_calls p s h with ⟨y, -, h⟩ | h <;> rw [h] <;> rfl
  | store offset => rw [mem_store_calls p s h]; rfl
  | commit =>
    obtain ⟨n, -, h⟩ := mem_commit_calls p s h
    rw [h]
    rfl

/-- A position that is stored or committed is the one behind the stored offset, or the one that is
cached. -/
theorem mark_of_mem_calls {op : StateOp} {call : BrokerCall × Answer} {q : Position}
    (h : call ∈ (s.perform p answers op).calls) (hq : call.1 = .store q ∨ call.1 = .commit q) :
    (∃ offset, op = .store offset ∧ q.offset = offset + 1) ∨ s.committed = some q.offset := by
  cases op with
  | assign reading => cases reading <;> simp [perform] at h
  | revoke => simp [perform] at h
  | pause offset => simp [mem_pause_calls p s h] at hq
  | resume => rcases mem_resume_calls p s h with ⟨y, -, h⟩ | h <;> simp [h] at hq
  | store offset =>
    rw [mem_store_calls p s h] at hq
    simp at hq
    exact .inl ⟨offset, rfl, by rw [← hq]⟩
  | commit =>
    obtain ⟨n, hn, h⟩ := mem_commit_calls p s h
    simp [h] at hq
    exact .inr (by rw [hn, ← hq])

end PartitionState

end TopicConsumer
