import Mathlib.Data.List.Chain
import TopicConsumer.Proofs.State.Isolation

/-!
# What is noted of a pause, and what the broker does

A pause is noted when the broker has made it, but the note goes as soon as the broker is asked to
resume the partition, even if it fails to. `Manager.after_agrees` tells from the calls alone when a
pause is noted, which is if the last of the pauses that were made and the resumes that were asked
for is a pause. As long as no resume fails, this is what the broker does. After one that fails the
broker may hold a partition that nobody takes for paused (`Manager.not_isPaused_iff_carriedOut`).
-/

namespace TopicConsumer

/-- The broker has paused the partition, or it has resumed it. -/
def carriedOut (p : TopicPartition) : BrokerCall × Answer → Bool
  | (.pause q, .done) | (.resume q, .done) => q = p
  | _ => false

/-- The broker has paused the partition, or it was asked to resume it, and may have failed to. -/
def turned (p : TopicPartition) : BrokerCall × Answer → Bool
  | (.pause q, .done) | (.resume q, .done) | (.resume q, .failed _) => q = p
  | _ => false

/-- The last of the calls that count. -/
def lastCall (counts : BrokerCall × Answer → Bool) (calls : List (BrokerCall × Answer)) :
    Option (BrokerCall × Answer) :=
  (calls.filter counts).getLast?

/-- The last of the calls that count has paused the partition. -/
def PausedLast (p : TopicPartition) (counts : BrokerCall × Answer → Bool)
    (calls : List (BrokerCall × Answer)) : Prop :=
  lastCall counts calls = some (.pause p, .done)

instance (p : TopicPartition) (counts : BrokerCall × Answer → Bool)
    (calls : List (BrokerCall × Answer)) : Decidable (PausedLast p counts calls) :=
  inferInstanceAs (Decidable (_ = _))

theorem lastCall_append (counts : BrokerCall × Answer → Bool)
    (calls more : List (BrokerCall × Answer)) :
    lastCall counts (calls ++ more) = (lastCall counts more).or (lastCall counts calls) := by
  rw [lastCall, List.filter_append, List.getLast?_append]
  rfl

theorem partition_of_turned {p : TopicPartition} {call : BrokerCall × Answer}
    (counts : turned p call = true) : call.1.partition = p := by
  obtain ⟨call, answer⟩ := call
  cases call <;> cases answer <;> simp_all [turned, BrokerCall.partition]

/-- The partition is revoked only when the request for it before was to resume it. -/
def ResumedFirst (p : TopicPartition) (rs : List Request) : Prop :=
  ((requestsFor p rs).map Request.op).head? ≠ some .revoke ∧
    ((requestsFor p rs).map Request.op).IsChain fun op next => next = .revoke → op = .resume

instance (p : TopicPartition) (rs : List Request) : Decidable (ResumedFirst p rs) :=
  inferInstanceAs (Decidable (_ ∧ _))

theorem requestsFor_concat_self {p : TopicPartition} {r : Request} (here : r.partition = p)
    (rs : List Request) : requestsFor p (rs ++ [r]) = requestsFor p rs ++ [r] := by
  simp [requestsFor, here]

theorem requestsFor_concat_of_ne {p : TopicPartition} {r : Request} (elsewhere : r.partition ≠ p)
    (rs : List Request) : requestsFor p (rs ++ [r]) = requestsFor p rs := by
  simp [requestsFor, elsewhere]

namespace ResumedFirst

variable {p : TopicPartition} {rs : List Request} {r : Request}

theorem of_concat (h : ResumedFirst p (rs ++ [r])) : ResumedFirst p rs := by
  by_cases here : r.partition = p
  · obtain ⟨first, chain⟩ := h
    rw [requestsFor_concat_self here, List.map_append] at first chain
    refine ⟨fun head => first ?_, chain.left_of_append⟩
    rw [List.head?_append, head]
    rfl
  · rwa [ResumedFirst, requestsFor_concat_of_ne here] at h

/-- Before a partition is revoked comes the request to resume it. -/
theorem exists_resume (h : ResumedFirst p (rs ++ [r])) (here : r.partition = p)
    (revoked : r.op = .revoke) :
    ∃ front s, requestsFor p rs = front ++ [s] ∧ s.partition = p ∧ s.op = .resume := by
  obtain ⟨first, chain⟩ := h
  rw [requestsFor_concat_self here, List.map_append] at first chain
  rcases List.eq_nil_or_concat (requestsFor p rs) with none | ⟨front, s, last⟩
  · rw [none] at first
    exact absurd (congrArg some revoked) first
  · rw [List.concat_eq_append] at last
    have mem : s ∈ requestsFor p rs := by simp [last]
    refine ⟨front, s, last, by simpa using (List.mem_filter.mp mem).2, ?_⟩
    refine (List.isChain_append.mp chain).2.2 s.op ?_ r.op ?_ revoked
    · simp [last]
    · simp

end ResumedFirst

/-! ## A single operation -/

/-- An operation leaves the pause as it is and calls the broker about nothing that counts, or the
broker has made a pause that is noted, or it was asked for a resume and no pause is noted. -/
theorem PartitionState.perform_turned (p : TopicPartition) (s : PartitionState) {answers : Answers}
    (h : answers.Composed) {op : StateOp} (free : op = .revoke → s.pausedAt = none) :
    lastCall (turned p) (s.perform p answers op).calls = none ∧
        (s.perform p answers op).state.pausedAt = s.pausedAt ∨
      lastCall (turned p) (s.perform p answers op).calls = some (.pause p, .done) ∧
        (s.perform p answers op).state.pausedAt.isSome = true ∨
      (∃ answer,
          lastCall (turned p) (s.perform p answers op).calls = some (.resume p, answer)) ∧
        (s.perform p answers op).state.pausedAt = none := by
  cases op with
  | assign reading => cases reading <;> exact .inl ⟨rfl, rfl⟩
  | revoke => exact .inl ⟨rfl, (free rfl).symm⟩
  | pause offset =>
    rw [perform, pause_calls p s h]
    cases paused : s.pausedAt with
    | some x => exact .inl ⟨rfl, by simp [pause, paused]⟩
    | none =>
      cases answered : answers (.pause p) with
      | done => exact .inr (.inl ⟨by simp [lastCall, turned], by simp [pause_state p s answered]⟩)
      | failed e =>
        exact .inl ⟨rfl, by rw [pause_state_of_failed p s answered, paused]⟩
      | crashed text => exact absurd answered (h _ text)
  | resume =>
    rw [perform, resume_calls p s h, resume_state p s h]
    cases paused : s.pausedAt with
    | none => exact .inl ⟨rfl, rfl⟩
    | some x =>
      cases answered : answers (.resume p) with
      | done | failed e =>
        exact .inr (.inr ⟨⟨answers (.resume p), by simp [lastCall, turned, answered]⟩, rfl⟩)
      | crashed text => exact absurd answered (h _ text)
  | store offset =>
    rw [perform, store_state_pausedAt, store_calls]
    refine .inl ⟨?_, rfl⟩
    split <;> rfl
  | commit =>
    rw [perform, commit_state, commit_calls]
    refine .inl ⟨?_, rfl⟩
    cases s.committed <;> rfl

/-! ## Many requests -/

namespace Manager

variable {p : TopicPartition} {rs : List Request}

/-- A partition is not paused when it is about to be revoked. -/
theorem pausedAt_of_resumedFirst {r : Request} (composed : ∀ r ∈ rs, r.answers.Composed)
    (released : ResumedFirst p (rs ++ [r])) (here : r.partition = p) (revoked : r.op = .revoke) :
    ((empty.after rs).state p).pausedAt = none := by
  obtain ⟨front, ⟨q, op, answers⟩, last, rfl, rfl⟩ := released.exists_resume here revoked
  have mem : (⟨q, .resume, answers⟩ : Request) ∈ requestsFor q rs := by simp [last]
  have fine := composed _ (List.mem_filter.mp mem).1
  rw [state_after_requestsFor rfl, last, after_append, after_singleton, state_grant_self]
  exact congrArg PartitionState.pausedAt (PartitionState.resume_state _ _ fine)

theorem lastCall_turned_of_ne {m : Manager} {r : Request} (elsewhere : r.partition ≠ p) :
    lastCall (turned p) (m.calls r) = none := by
  rw [lastCall, List.getLast?_eq_none_iff, List.filter_eq_nil_iff]
  intro call mem counts
  apply elsewhere
  rw [← partition_of_turned counts]
  exact (PartitionState.partition_of_mem_calls r.partition _ mem).symm

theorem pausedLast_concat {counts : BrokerCall × Answer → Bool} {r : Request} :
    PausedLast p counts (empty.trace (rs ++ [r])) ↔
      ((lastCall counts ((empty.after rs).calls r)).or (lastCall counts (empty.trace rs))) =
        some (.pause p, .done) := by
  rw [PausedLast, trace_concat, lastCall_append]

/-- A pause is noted as long as the broker was not asked to resume the partition after it. -/
theorem pausedAt_iff_turned (composed : ∀ r ∈ rs, r.answers.Composed)
    (released : ResumedFirst p rs) :
    ((empty.after rs).state p).pausedAt.isSome = true ↔
      PausedLast p (turned p) (empty.trace rs) := by
  induction rs using List.reverseRecOn with
  | nil => exact iff_of_false Bool.false_ne_true (Option.some_ne_none _).symm
  | append_singleton rs r ih =>
    have earlier : ∀ r ∈ rs, r.answers.Composed := fun s mem => composed s (by simp [mem])
    have ih := ih earlier released.of_concat
    rw [pausedLast_concat, after_append, after_singleton]
    have fine : r.answers.Composed := composed r (by simp)
    by_cases here : r.partition = p
    · have free : r.op = .revoke → ((empty.after rs).state p).pausedAt = none :=
        pausedAt_of_resumedFirst earlier released here
      subst here
      rw [state_grant_self, calls, effect]
      rcases PartitionState.perform_turned _ ((empty.after rs).state _) fine free with
        ⟨none, same⟩ | ⟨paused, noted⟩ | ⟨⟨answer, resumed⟩, gone⟩
      · rw [none, same]
        exact ih
      · rw [paused]
        exact iff_of_true noted rfl
      · rw [resumed, gone]
        exact iff_of_false Bool.false_ne_true (by simp)
    · rw [lastCall_turned_of_ne here, state_grant_of_ne here]
      exact ih

/-- How the notes of pauses agree with what the broker does about a partition. -/
structure Agrees (p : TopicPartition) (rs : List Request) : Prop where
  /-- The partition is taken for paused if the last pause that was made, or resume that was asked
  for, is a pause. -/
  noted : (empty.after rs).isPaused p = true ↔ PausedLast p (turned p) (empty.trace rs)
  /-- As long as the broker does not fail to resume, the last thing it did is what counts. -/
  faithful : (∀ e, (.resume p, .failed e) ∉ empty.trace rs) →
    ((empty.after rs).isPaused p = true ↔ PausedLast p (carriedOut p) (empty.trace rs))
  /-- After a pause whoever asks for it has the broker seek the offset of the pause and resume. -/
  resumable : PausedLast p (turned p) (empty.trace rs) → ∀ answers : Answers, answers.Composed →
    ∃ x, ((empty.after rs).state p).pausedAt = some x ∧
      (empty.after rs).calls ⟨p, .resume, answers⟩ =
        [(.seek ⟨p, x⟩, answers (.seek ⟨p, x⟩)), (.resume p, answers (.resume p))]
  /-- Otherwise, as after a resume that the broker failed to make, nothing is asked of the broker. -/
  settled : ¬ PausedLast p (turned p) (empty.trace rs) →
    ∀ answers : Answers, (empty.after rs).calls ⟨p, .resume, answers⟩ = []

theorem lastCall_turned_eq {calls : List (BrokerCall × Answer)}
    (obeyed : ∀ e, (.resume p, .failed e) ∉ calls) :
    lastCall (turned p) calls = lastCall (carriedOut p) calls := by
  refine congrArg List.getLast? (List.filter_congr fun call mem => ?_)
  obtain ⟨call, answer⟩ := call
  cases call with
  | resume q =>
    cases answer with
    | failed e =>
      have other : q ≠ p := by
        rintro rfl
        exact obeyed e mem
      simpa [turned, carriedOut] using other
    | _ => rfl
  | _ => cases answer <;> rfl

/-- If no partition is revoked unless it was to be resumed just before, then the note of a pause
agrees with the broker until the broker fails to resume. -/
theorem after_agrees (p : TopicPartition) (rs : List Request)
    (composed : ∀ r ∈ rs, r.answers.Composed) (released : ResumedFirst p rs) : Agrees p rs := by
  have noted : (empty.after rs).isPaused p = true ↔ PausedLast p (turned p) (empty.trace rs) :=
    pausedAt_iff_turned composed released
  constructor
  case noted => exact noted
  case faithful =>
    intro obeyed
    rw [noted, PausedLast, lastCall_turned_eq obeyed, PausedLast]
  case resumable =>
    intro held answers fine
    obtain ⟨x, paused⟩ := Option.isSome_iff_exists.mp (noted.mpr held)
    refine ⟨x, paused, ?_⟩
    have resumed := PartitionState.resume_calls p ((empty.after rs).state p) fine
    rwa [paused] at resumed
  case settled =>
    intro running answers
    have unpaused : ((empty.after rs).state p).pausedAt = none :=
      Option.not_isSome_iff_eq_none.mp (mt noted.mp running)
    rw [calls, effect, PartitionState.perform, PartitionState.resume, unpaused]

/-- A broker that does everything but resume. -/
def unyielding : Answers
  | .resume _ => .failed (.transient "busy")
  | _ => .done

theorem unyielding_composed : unyielding.Composed := by
  intro call text
  cases call <;> simp [unyielding]

/-- A pause that the broker fails to end, the partition's revocation, another partition's pause, and
a pause that the broker ends. -/
def stalled (p q : TopicPartition) : List Request :=
  [⟨p, .pause 3, unyielding⟩, ⟨p, .resume, unyielding⟩, ⟨p, .revoke, unyielding⟩,
    ⟨q, .pause 9, unyielding⟩, ⟨p, .pause 4, fun _ => .done⟩, ⟨p, .resume, fun _ => .done⟩,
    ⟨p, .pause 8, unyielding⟩]

theorem stalled_agrees :
    let p : TopicPartition := ⟨"orders", 0⟩
    let rs := stalled p ⟨"orders", 1⟩
    Agrees p rs ∧ ((empty.after rs).state p).pausedAt = some 8 := by
  refine ⟨after_agrees _ _ (fun r mem => ?_) (by decide), by decide⟩
  simp only [stalled, List.mem_cons, List.not_mem_nil, or_false] at mem
  rcases mem with rfl | rfl | rfl | rfl | rfl | rfl | rfl
  all_goals first | exact unyielding_composed | simp [Answers.Composed]

/-- What the broker did last does not tell whether a pause is noted: the note is gone when the
broker has failed to resume. -/
theorem not_isPaused_iff_carriedOut :
    ¬ ∀ (p : TopicPartition) (rs : List Request), (∀ r ∈ rs, r.answers.Composed) →
      ResumedFirst p rs →
        ((empty.after rs).isPaused p = true ↔
          PausedLast p (carriedOut p) (empty.trace rs)) := by
  intro agree
  let p : TopicPartition := ⟨"orders", 0⟩
  have composed : ∀ r ∈ (stalled p p).take 2, r.answers.Composed := by
    intro r mem
    simp only [stalled, List.take_succ_cons, List.take_zero, List.mem_cons, List.not_mem_nil,
      or_false] at mem
    rcases mem with rfl | rfl <;> exact unyielding_composed
  have held := (agree p ((stalled p p).take 2) composed (by decide)).mpr (by decide)
  exact absurd held (by decide)

end Manager

end TopicConsumer
