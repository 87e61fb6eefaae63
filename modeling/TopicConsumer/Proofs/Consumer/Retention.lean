import TopicConsumer.Proofs.Worker.Moves

/-!
# What is not forgotten of a partition

The state of a partition retains when it was assigned, and the position that is cached only moves
forward, whatever is done to the partition by batchers, by calls that enqueue records and by calls
that close a worker, up to the very end of these calls: there the state of the worker's partition is
forgotten. Only a broker that crashes keeps an offset from being stored.
-/

namespace TopicConsumer

/-- The later state has forgotten nothing of the earlier one. -/
structure PartitionState.Retains (s t : PartitionState) : Prop where
  assignedAt : t.assignedAt = s.assignedAt
  committed : ∀ n, s.committed = some n → ∃ m, t.committed = some m ∧ n ≤ m

namespace PartitionState

theorem Retains.refl (s : PartitionState) : s.Retains s := ⟨rfl, fun n h => ⟨n, h, Int.le_refl n⟩⟩

variable (p : TopicPartition) (s : PartitionState) {answers : Answers}

theorem retains_store (offset : Offset) : s.Retains (s.store p answers offset).state := by
  simp only [store]
  split
  · exact .refl s
  · next current =>
    have forward : ∀ n, s.committed = some n → n ≤ offset + 1 := by
      intro n cached
      rw [cached, Option.filter_eq_none_iff] at current
      exact Int.not_lt.mp fun lt => current n rfl (decide_eq_true lt)
    cases answers (.store ⟨p, offset + 1⟩) with
    | crashed text => exact .refl s
    | done | failed => exact ⟨rfl, fun n cached => ⟨_, rfl, forward n cached⟩⟩

theorem perform_state_assignedAt {op : StateOp} (unassigned : ∀ reading, op ≠ .assign reading)
    (kept : op ≠ .revoke) : (s.perform p answers op).state.assignedAt = s.assignedAt := by
  obtain ⟨assigned, paused, committed⟩ := s
  cases op with
  | assign reading => exact absurd rfl (unassigned reading)
  | revoke => exact absurd rfl kept
  | pause offset =>
    cases paused <;> cases ha : answers (.pause p) <;> simp [perform, pause, ha]
  | resume =>
    cases paused with
    | none => rfl
    | some y =>
      cases ha : answers (.seek ⟨p, y⟩) <;> cases hb : answers (.resume p) <;>
        simp [perform, resume, ha, hb]
  | store offset => exact (retains_store p _ offset).assignedAt
  | commit => rw [perform, commit_state]

/-- Only to assign or to forget a partition is more than to move its position forward. -/
theorem retains_perform {op : StateOp} (unassigned : ∀ reading, op ≠ .assign reading)
    (kept : op ≠ .revoke) : s.Retains (s.perform p answers op).state := by
  by_cases storing : ∃ offset, op = .store offset
  · obtain ⟨offset, rfl⟩ := storing
    exact retains_store p s offset
  · have unstored : ∀ offset, op ≠ .store offset := fun offset h => storing ⟨offset, h⟩
    refine ⟨perform_state_assignedAt p s unassigned kept, fun n cached => ?_⟩
    rw [perform_state_committed p s unstored kept]
    exact ⟨n, cached, Int.le_refl n⟩

/-- If the broker does not crash, the cached position lies behind the offset that is stored. -/
theorem store_reaches (offset : Offset)
    (fine : ∀ call text, (call, .crashed text) ∉ (s.store p answers offset).calls) :
    ∃ m, (s.store p answers offset).state.committed = some m ∧ offset + 1 ≤ m := by
  simp only [store] at fine ⊢
  split
  · next cached ahead =>
    rw [Option.filter_eq_some_iff, decide_eq_true_eq] at ahead
    exact ⟨cached, ahead.1, Int.le_of_lt ahead.2⟩
  · next current =>
    rw [current] at fine
    cases ha : answers (.store ⟨p, offset + 1⟩) with
    | crashed text => simp [ha] at fine
    | done | failed => exact ⟨offset + 1, rfl, Int.le_refl _⟩

end PartitionState

/-- Nothing was forgotten of any partition. -/
def Manager.Retains (m n : Manager) : Prop := ∀ q, (m.state q).Retains (n.state q)

theorem Manager.Retains.refl (m : Manager) : m.Retains m := fun _ => .refl _

variable {env : Surroundings} {s t : Station} {events : List Event}

theorem Station.retains_performed (s : Station) (p : TopicPartition) {op : StateOp}
    (unassigned : ∀ reading, op ≠ .assign reading) (kept : op ≠ .revoke) :
    s.manager.Retains (s.performed env p op).manager := by
  intro q
  by_cases hq : q = p
  · subst hq
    rw [performed_state_self]
    exact PartitionState.retains_perform q _ unassigned kept
  · have same : (s.performed env p op).manager.state q = s.manager.state q :=
      Manager.state_set_of_ne _ hq _
    rw [same]
    exact .refl _

theorem Batcher.Move.retains (move : Batcher.Move env s t events) :
    s.manager.Retains t.manager := by
  cases move with
  | stored | resumed => exact s.retains_performed _ (by simp) (by simp)
  | crashed operating =>
    rcases operating with ⟨_, _, rfl⟩ | ⟨_, rfl⟩ <;>
      exact s.retains_performed _ (by simp) (by simp)
  | _ => exact .refl _

theorem Intake.Move.retains {r : Record} {i j : Intake} (move : Intake.Move env r s i t j events) :
    s.manager.Retains t.manager := by
  cases move with
  | paused | pauseCrashed | resumed | resumeCrashed =>
    exact s.retains_performed _ (by simp) (by simp)
  | _ => exact .refl _

/-- A call that closes a worker forgets the state of its partition, and only at its end. -/
theorem Disposal.Move.retains {d e : Disposal} (move : Disposal.Move env s d t e events) :
    (∃ drained, d = .revoking drained) ∧
        (∀ q, q ≠ s.worker.partition → t.manager.state q = s.manager.state q) ∧
          t.manager.state s.worker.partition = .empty ∨
      (∀ drained, d ≠ .revoking drained) ∧ s.manager.Retains t.manager := by
  cases move with
  | committed | resumed => exact .inr ⟨by simp, s.retains_performed _ (by simp) (by simp)⟩
  | revoked drained =>
    refine .inl ⟨⟨drained, rfl⟩, fun q hq => Manager.state_set_of_ne _ hq _, ?_⟩
    rw [Station.performed_state_self]
    rfl
  | crashed operating =>
    refine .inr ⟨?_, ?_⟩
    · rcases operating with ⟨_, ⟨rfl, -⟩ | ⟨rfl, -⟩⟩ <;> simp
    · rcases operating with ⟨_, ⟨-, rfl⟩ | ⟨-, rfl⟩⟩ <;>
        exact s.retains_performed _ (by simp) (by simp)
  | _ => exact .inr ⟨by simp, .refl _⟩

/-- An offset that the batcher stores without a crash is reached by the cached position. -/
theorem Batcher.Move.reaches (move : Batcher.Move env s t events) {p : TopicPartition}
    {offset : Offset} (stored : .operation p (.store offset) ∈ events)
    (fine : ∀ call text, .call call (.crashed text) ∉ events) :
    ∃ m, (t.manager.state p).committed = some m ∧ offset + 1 ≤ m := by
  have performed : ∀ q op, .operation p (.store offset) ∈ s.performing env q op →
      (∀ call text, .call call (.crashed text) ∉ s.performing env q op) →
        ∃ m, ((s.performed env q op).manager.state p).committed = some m ∧ offset + 1 ≤ m := by
    intro q op mem quiet
    obtain ⟨rfl, rfl⟩ : p = q ∧ .store offset = op := by
      simpa [Station.performing] using mem
    rw [Station.performed_state_self]
    refine PartitionState.store_reaches p _ offset fun call text crashed => quiet call text ?_
    simpa [Station.performing, Manager.effect, PartitionState.perform] using crashed
  cases move with
  | stored | crashed => exact performed _ _ stored fine
  | resumed =>
    refine performed _ _ ?_ fun call text mem => fine call text (List.mem_append_left _ mem)
    simpa using stored
  | givenUp _ _ quiet => rcases quiet _ stored with ⟨line, h⟩ | h <;> cases h
  | _ => simp at stored

end TopicConsumer
