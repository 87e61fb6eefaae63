import Mathlib.Data.List.Induction
import Mathlib.Order.Lattice
import TopicConsumer.Proofs.State.Effects

/-!
# Positions go forward only

A request asks for an operation on the state of a partition, and the broker may answer its calls one
way or another. Between two revocations of a partition the position that is cached for it is the
greatest that was recorded, whatever the broker answers. It follows that the positions handed to the
broker never go back, neither those to be remembered nor those to be committed.
-/

namespace TopicConsumer

namespace BrokerCall

variable (p : TopicPartition)

/-- The position of the partition that the broker is to remember. -/
def storeTarget? : BrokerCall → Option Offset
  | .store q => if q.partition = p then some q.offset else none
  | _ => none

/-- The position of the partition that the broker is to commit. -/
def commitTarget? : BrokerCall → Option Offset
  | .commit q => if q.partition = p then some q.offset else none
  | _ => none

/-- The call is about a position that the partition has reached. -/
def isMark (call : BrokerCall) : Bool :=
  (call.storeTarget? p).isSome || (call.commitTarget? p).isSome

theorem isMark_of_ne {call : BrokerCall} (elsewhere : call.partition ≠ p) :
    call.isMark p = false := by
  cases call with
  | store q => simp_all [isMark, storeTarget?, commitTarget?, partition]
  | commit q => simp_all [isMark, storeTarget?, commitTarget?, partition]
  | _ => rfl

end BrokerCall

/-- An operation that is asked for, with the answers to the calls that it makes. -/
structure Request where
  partition : TopicPartition
  op : StateOp
  answers : Answers

namespace Request

variable (p : TopicPartition)

/-- The position that the request records for the partition, which is the one behind the offset that
it stores. -/
def recorded? (r : Request) : Option Offset :=
  if r.partition = p then
    match r.op with
    | .store offset => some (offset + 1)
    | _ => none
  else none

/-- What the broker is to hear about positions of the partition when `cached` is known of it. A
position is stored unless it lies below the cached one, and it is the cached one that is committed.
-/
def owed (cached : Option Offset) (r : Request) : List BrokerCall :=
  if r.partition = p then
    match r.op with
    | .store offset =>
      if cached.any (offset + 1 < ·) then [] else [.store ⟨p, offset + 1⟩]
    | .commit => cached.toList.map fun n => .commit ⟨p, n⟩
    | _ => []
  else []

variable {p}

/-- A request owes nothing, or it records a position that is not below the cached one, or it commits
the cached one. -/
theorem owed_cases (cached : Option Offset) (r : Request) :
    r.owed p cached = [] ∨
    (∃ n, r.recorded? p = some n ∧ (∀ c, cached = some c → c ≤ n) ∧
      r.owed p cached = [.store ⟨p, n⟩]) ∨
    ∃ n, cached = some n ∧ r.owed p cached = [.commit ⟨p, n⟩] := by
  obtain ⟨q, op, answers⟩ := r
  by_cases hq : q = p
  · cases op with
    | store offset =>
      by_cases below : cached.any (offset + 1 < ·) = true
      · exact .inl (by simp only [owed, hq, below, if_true])
      · refine .inr (.inl ⟨offset + 1, by simp [recorded?, hq], ?_, ?_⟩)
        · rintro c rfl
          simpa using below
        · simp only [owed, hq, if_true, if_neg below]
    | commit =>
      cases cached with
      | none => exact .inl (by simp [owed])
      | some n => exact .inr (.inr ⟨n, rfl, by simp [owed, hq]⟩)
    | _ => exact .inl (by simp [owed])
  · exact .inl (by simp [owed, hq])

end Request

namespace PartitionState

variable (p : TopicPartition) (s : PartitionState) (answers : Answers)

theorem store_calls (offset : Offset) : (s.store p answers offset).calls =
    if s.committed.any (offset + 1 < ·) then []
    else [(.store ⟨p, offset + 1⟩, answers (.store ⟨p, offset + 1⟩))] := by
  obtain ⟨assigned, paused, committed⟩ := s
  by_cases below : committed.any (offset + 1 < ·) = true
  · obtain ⟨c, rfl, lt⟩ := (Option.any_eq_true _ _).mp below
    simp_all [store, Option.filter_some]
  · have current : committed.filter (offset + 1 < ·) = none := by
      cases committed <;> simp_all [Option.filter_some]
    rw [if_neg below]
    simp only [store, current]
    cases ha : answers (.store ⟨p, offset + 1⟩) <;> rfl

theorem commit_calls : (s.commit p answers).calls =
    s.committed.toList.map fun n => (.commit ⟨p, n⟩, answers (.commit ⟨p, n⟩)) := by
  obtain ⟨assigned, paused, committed⟩ := s
  cases committed with
  | none => rfl
  | some n =>
    simp only [commit, Option.toList_some, List.map_cons, List.map_nil]
    split <;> simp_all

end PartitionState

namespace Manager

variable (p : TopicPartition) (m : Manager)

/-- The states after a request. -/
def grant (r : Request) : Manager := m.perform r.partition r.answers r.op

/-- The calls that a request makes. -/
def calls (r : Request) : List (BrokerCall × Answer) :=
  (m.effect r.partition r.answers r.op).calls

/-- The states after some requests. -/
def after (rs : List Request) : Manager := rs.foldl grant m

/-- The calls that some requests make, one after the other. -/
def trace : Manager → List Request → List (BrokerCall × Answer)
  | _, [] => []
  | m, r :: rs => m.calls r ++ (m.grant r).trace rs

@[simp] theorem after_nil : m.after [] = m := rfl

@[simp] theorem after_append (front back : List Request) :
    m.after (front ++ back) = (m.after front).after back :=
  List.foldl_append

@[simp] theorem after_singleton (r : Request) : m.after [r] = m.grant r := rfl

theorem trace_concat (rs : List Request) (r : Request) :
    m.trace (rs ++ [r]) = m.trace rs ++ (m.after rs).calls r := by
  induction rs generalizing m with
  | nil => simp [trace]
  | cons first rest ih =>
    rw [List.cons_append, trace, ih, trace, List.append_assoc]
    rfl

end Manager

/-- The positions that requests record for a partition, in order. -/
def recordedIn (p : TopicPartition) (rs : List Request) : List Offset :=
  rs.filterMap (Request.recorded? p)

/-- The positions of a partition that the broker was to remember, in order. -/
def storeTargets (p : TopicPartition) (calls : List (BrokerCall × Answer)) : List Offset :=
  calls.filterMap fun call => call.1.storeTarget? p

/-- The positions of a partition that the broker was to commit, in order. -/
def commitTargets (p : TopicPartition) (calls : List (BrokerCall × Answer)) : List Offset :=
  calls.filterMap fun call => call.1.commitTarget? p

theorem recordedIn_concat (p : TopicPartition) (rs : List Request) (r : Request) :
    recordedIn p (rs ++ [r]) = recordedIn p rs ++ (r.recorded? p).toList := by
  rw [recordedIn, List.filterMap_append]
  cases h : r.recorded? p <;> simp [recordedIn, h]

theorem max?_concat (l : List Offset) (n : Offset) :
    (l ++ [n]).max? = some (l.max?.elim n (max n)) := by
  induction l with
  | nil => rfl
  | cons first rest ih =>
    rw [List.cons_append, List.max?_cons, ih, List.max?_cons]
    cases rest.max? with
    | none => simp [Int.max_comm]
    | some c => exact congrArg some (max_left_comm first n c)

theorem le_of_max?_le {l : List Offset} {a n : Offset} (mem : a ∈ l)
    (above : ∀ c, l.max? = some c → c ≤ n) : a ≤ n := by
  cases greatest : l.max? with
  | none => simp [List.max?_eq_none_iff.mp greatest] at mem
  | some c => exact Int.le_trans ((List.max?_eq_some_iff.mp greatest).2 a mem) (above c greatest)

/-! ## A single request -/

variable {p : TopicPartition} {m : Manager} {r : Request}

/-- Only a request that records a position changes the cached one, unless the partition is revoked;
how the broker answers makes no difference. -/
theorem Manager.committed_grant (composed : r.answers.Composed)
    (held : r.partition = p → r.op ≠ .revoke) :
    ((m.grant r).state p).committed = (r.recorded? p).elim (m.state p).committed fun n =>
      some ((m.state p).committed.elim n (max n)) := by
  obtain ⟨q, op, answers⟩ := r
  by_cases hq : q = p
  · subst hq
    have kept : op ≠ .revoke := held rfl
    have state : ((m.grant ⟨q, op, answers⟩).state q) =
        ((m.state q).perform q answers op).state := state_set_self ..
    rw [state]
    cases op with
    | store offset =>
      have fine : ((m.state q).perform q answers (.store offset)).crash = none :=
        PartitionState.perform_crash q _ composed (by simp)
      simpa [Request.recorded?, PartitionState.perform] using
        PartitionState.store_state_committed q _ offset fine
    | revoke => exact absurd rfl kept
    | _ =>
      simpa [Request.recorded?] using
        PartitionState.perform_state_committed q (m.state q) (by simp) kept
  · have state : (m.grant ⟨q, op, answers⟩).state p = m.state p :=
      state_set_of_ne m (Ne.symm hq) _
    rw [state]
    simp [Request.recorded?, hq]

/-- Of the positions of a partition the broker hears what is owed. -/
theorem Manager.filter_calls : (m.calls r).filter (·.1.isMark p) =
    (r.owed p (m.state p).committed).map fun call => (call, r.answers call) := by
  obtain ⟨q, op, answers⟩ := r
  have about : ∀ call ∈ m.calls ⟨q, op, answers⟩, call.1.partition = q :=
    fun call mem => PartitionState.partition_of_mem_calls q _ mem
  by_cases hq : q = p
  · subst hq
    cases op with
    | store offset =>
      have calls : m.calls ⟨q, .store offset, answers⟩ = _ :=
        PartitionState.store_calls q (m.state q) answers offset
      rw [calls]
      simp only [Request.owed, if_true]
      split <;> simp [BrokerCall.isMark, BrokerCall.storeTarget?]
    | commit =>
      have calls : m.calls ⟨q, .commit, answers⟩ = _ :=
        PartitionState.commit_calls q (m.state q) answers
      rw [calls]
      cases hc : (m.state q).committed <;>
        simp [Request.owed, BrokerCall.isMark, BrokerCall.commitTarget?]
    | assign reading => cases reading <;> simp [Request.owed, calls, effect, PartitionState.perform]
    | revoke => simp [Request.owed, calls, effect, PartitionState.perform]
    | pause offset =>
      simp only [Request.owed, if_true, List.map_nil, List.filter_eq_nil_iff]
      intro call mem
      rw [PartitionState.mem_pause_calls q _ mem]
      simp [BrokerCall.isMark, BrokerCall.storeTarget?, BrokerCall.commitTarget?]
    | resume =>
      simp only [Request.owed, if_true, List.map_nil, List.filter_eq_nil_iff]
      intro call mem
      rcases PartitionState.mem_resume_calls q _ mem with ⟨y, -, h⟩ | h <;> rw [h] <;>
        simp [BrokerCall.isMark, BrokerCall.storeTarget?, BrokerCall.commitTarget?]
  · have owed : (⟨q, op, answers⟩ : Request).owed p (m.state p).committed = [] := by
      simp [Request.owed, hq]
    rw [owed, List.map_nil, List.filter_eq_nil_iff]
    intro call mem
    simp [BrokerCall.isMark_of_ne p (about call mem ▸ hq)]

/-- Whatever is told of calls about positions can be told from what is owed. -/
theorem Manager.filterMap_calls {target : BrokerCall → Option Offset}
    (marks : ∀ call n, target call = some n → call.isMark p = true) :
    (m.calls r).filterMap (fun call => target call.1) =
      (r.owed p (m.state p).committed).filterMap target := by
  have heard := congrArg (List.filterMap fun call => target call.1)
    (filter_calls (p := p) (m := m) (r := r))
  rw [List.filterMap_filter, List.filterMap_map] at heard
  refine Eq.trans (congrArg (List.filterMap · _) (funext fun call => ?_)) heard
  cases h : target call.1 with
  | none => simp
  | some n => rw [marks call.1 n h, if_pos rfl]

theorem Manager.storeTargets_calls : storeTargets p (m.calls r) =
    (r.owed p (m.state p).committed).filterMap (BrokerCall.storeTarget? p) :=
  filterMap_calls fun call n h => by simp [BrokerCall.isMark, h]

theorem Manager.commitTargets_calls : commitTargets p (m.calls r) =
    (r.owed p (m.state p).committed).filterMap (BrokerCall.commitTarget? p) :=
  filterMap_calls fun call n h => by simp [BrokerCall.isMark, h]

/-! ## Between two revocations -/

namespace Manager

/-- The positions of a partition go forward only, from states on in which none is cached. -/
structure Advances (p : TopicPartition) (m : Manager) (rs : List Request) : Prop where
  /-- At all times the greatest position that was recorded so far is cached. -/
  cached : ∀ front, front <+: rs →
    ((m.after front).state p).committed = (recordedIn p front).max?
  /-- Each request makes the calls about positions that it owes, and no others. -/
  called : ∀ front r back, rs = front ++ r :: back →
    ((m.after front).calls r).filter (·.1.isMark p) =
      (r.owed p (recordedIn p front).max?).map fun call => (call, r.answers call)
  stored : (storeTargets p (m.trace rs)).Pairwise (· ≤ ·)
  committed : (commitTargets p (m.trace rs)).Pairwise (· ≤ ·)
  /-- The broker hears of no position that was not recorded. -/
  recorded : ∀ n, n ∈ storeTargets p (m.trace rs) ∨ n ∈ commitTargets p (m.trace rs) →
    n ∈ recordedIn p rs
  /-- Other answers of the broker would leave the same position cached. -/
  indifferent : ∀ front r back answers, rs = front ++ r :: back → answers.Composed →
    (((m.after front).grant { r with answers := answers }).state p).committed =
      ((m.after (front ++ [r])).state p).committed

variable {rs : List Request}

theorem advances_nil (unknown : (m.state p).committed = none) : Advances p m [] where
  cached front before := by
    rw [List.prefix_nil.mp before]
    exact unknown
  called := by simp
  stored := .nil
  committed := .nil
  recorded := by simp [storeTargets, commitTargets, trace]
  indifferent := by simp

theorem eq_or_eq_of_concat {front back : List Request} {s : Request}
    (split : rs ++ [r] = front ++ s :: back) :
    front = rs ∧ s = r ∨ ∃ rest, rs = front ++ s :: rest := by
  rcases List.eq_nil_or_concat back with rfl | ⟨rest, last, rfl⟩
  · obtain ⟨rfl, same⟩ := List.append_inj' split rfl
    exact .inl ⟨rfl, (List.cons.inj same).1.symm⟩
  · rw [List.concat_eq_append, ← List.cons_append, ← List.append_assoc] at split
    exact .inr ⟨rest, (List.append_inj' split rfl).1⟩

namespace Advances

variable (h : Advances p m rs)

include h

theorem cached_now : ((m.after rs).state p).committed = (recordedIn p rs).max? :=
  h.cached rs (List.prefix_refl rs)

theorem storeTargets_concat : storeTargets p (m.trace (rs ++ [r])) =
    storeTargets p (m.trace rs) ++
      (r.owed p (recordedIn p rs).max?).filterMap (BrokerCall.storeTarget? p) := by
  rw [trace_concat, storeTargets, List.filterMap_append, ← h.cached_now, ← storeTargets_calls]
  rfl

theorem commitTargets_concat : commitTargets p (m.trace (rs ++ [r])) =
    commitTargets p (m.trace rs) ++
      (r.owed p (recordedIn p rs).max?).filterMap (BrokerCall.commitTarget? p) := by
  rw [trace_concat, commitTargets, List.filterMap_append, ← h.cached_now, ← commitTargets_calls]
  rfl

/-- One more request keeps the positions in order. -/
theorem concat (composed : r.answers.Composed) (held : r.partition = p → r.op ≠ .revoke) :
    Advances p m (rs ++ [r]) := by
  have marks : ∀ n, n ∈ recordedIn p rs → n ∈ recordedIn p (rs ++ [r]) := by
    intro n mem
    rw [recordedIn_concat]
    exact List.mem_append_left _ mem
  -- the cached position is the greatest that was recorded, so that it says what the broker hears
  have owes := r.owed_cases (p := p) (recordedIn p rs).max?
  constructor
  case cached =>
    intro front before
    rcases List.prefix_concat_iff.mp before with rfl | before
    · rw [after_append, after_singleton, committed_grant composed held, h.cached_now,
        recordedIn_concat]
      cases r.recorded? p with
      | none => simp
      | some n => simp [max?_concat]
    · exact h.cached front before
  case called =>
    intro front s back split
    rcases eq_or_eq_of_concat split with ⟨rfl, rfl⟩ | ⟨rest, split⟩
    · rw [filter_calls, h.cached_now]
    · exact h.called front s rest split
  case stored =>
    rw [h.storeTargets_concat]
    rcases owes with owed | ⟨n, -, above, owed⟩ | ⟨n, -, owed⟩
    · rw [owed, List.filterMap_nil, List.append_nil]
      exact h.stored
    · rw [owed]
      simp only [List.filterMap_cons, BrokerCall.storeTarget?, if_true, List.filterMap_nil]
      refine List.pairwise_append.mpr ⟨h.stored, List.pairwise_singleton _ _, ?_⟩
      intro a mem b hb
      obtain rfl := List.mem_singleton.mp hb
      exact le_of_max?_le (h.recorded a (.inl mem)) above
    · rw [owed, List.filterMap_cons_none rfl, List.filterMap_nil, List.append_nil]
      exact h.stored
  case committed =>
    rw [h.commitTargets_concat]
    rcases owes with owed | ⟨n, -, -, owed⟩ | ⟨n, greatest, owed⟩
    · rw [owed, List.filterMap_nil, List.append_nil]
      exact h.committed
    · rw [owed, List.filterMap_cons_none rfl, List.filterMap_nil, List.append_nil]
      exact h.committed
    · rw [owed]
      simp only [List.filterMap_cons, BrokerCall.commitTarget?, if_true, List.filterMap_nil]
      refine List.pairwise_append.mpr ⟨h.committed, List.pairwise_singleton _ _, ?_⟩
      intro a mem b hb
      obtain rfl := List.mem_singleton.mp hb
      refine le_of_max?_le (h.recorded a (.inr mem)) fun c hc => ?_
      exact Int.le_of_eq (Option.some.inj (hc.symm.trans greatest))
  case recorded =>
    rw [h.storeTargets_concat, h.commitTargets_concat]
    intro n mem
    rcases owes with owed | ⟨k, new, -, owed⟩ | ⟨k, greatest, owed⟩
    · rw [owed] at mem
      exact marks n (h.recorded n (by simpa using mem))
    · simp only [owed, List.filterMap_cons, BrokerCall.storeTarget?, BrokerCall.commitTarget?,
        if_true, List.filterMap_nil, List.append_nil, List.mem_append, List.mem_singleton] at mem
      rcases mem with (mem | rfl) | mem
      · exact marks n (h.recorded n (.inl mem))
      · simp [recordedIn_concat, new]
      · exact marks n (h.recorded n (.inr mem))
    · simp only [owed, List.filterMap_cons, BrokerCall.storeTarget?, BrokerCall.commitTarget?,
        if_true, List.filterMap_nil, List.append_nil, List.mem_append, List.mem_singleton] at mem
      rcases mem with mem | mem | rfl
      · exact marks n (h.recorded n (.inl mem))
      · exact marks n (h.recorded n (.inr mem))
      · exact marks n (List.max?_mem greatest)
  case indifferent =>
    intro front s back answers split willing
    rcases eq_or_eq_of_concat split with ⟨rfl, rfl⟩ | ⟨rest, split⟩
    · have other := committed_grant (p := p) (m := m.after front)
        (r := { s with answers := answers }) willing held
      rw [after_append, after_singleton, committed_grant composed held]
      exact other
    · exact h.indifferent front s rest answers split willing

end Advances

/-- Whatever was asked for before a partition was revoked, its positions go forward only until it is
revoked again. -/
theorem after_advances (p : TopicPartition) (earlier rs : List Request)
    (anew : ∀ r, earlier.getLast? = some r → r.partition = p ∧ r.op = .revoke)
    (held : ∀ r ∈ rs, r.partition = p → r.op ≠ .revoke)
    (composed : ∀ r ∈ rs, r.answers.Composed) : Advances p (empty.after earlier) rs := by
  -- all that matters of the requests before is that they leave nothing cached
  have unknown : ((empty.after earlier).state p).committed = none := by
    rcases List.eq_nil_or_concat earlier with rfl | ⟨front, ⟨q, op, answers⟩, rfl⟩
    · rfl
    · obtain ⟨hq, hop⟩ := anew ⟨q, op, answers⟩ (by simp)
      dsimp only at hq hop
      subst hq hop
      rw [List.concat_eq_append, after_append, after_singleton, grant, perform, state_set_self]
      rfl
  induction rs using List.reverseRecOn with
  | nil => exact advances_nil unknown
  | append_singleton rs r ih =>
    have last : r ∈ rs ++ [r] := by simp
    apply Advances.concat
    · apply ih
      · exact fun s mem => held s (List.mem_append_left _ mem)
      · exact fun s mem => composed s (List.mem_append_left _ mem)
    · exact composed r last
    · exact held r last

/-- A broker that fails to store and to commit, and does everything else. -/
def grudging : Answers
  | .store _ => .failed (.transient "busy")
  | .commit _ => .failed (.notMember "left")
  | _ => .done

theorem grudging_composed : grudging.Composed := by
  intro call text
  cases call <;> simp [grudging]

/-- What is asked for after the partition was revoked: a position that the broker fails to store, a
late one, another partition's revocation, two commits and the same position once more. -/
def renewed (p q : TopicPartition) : List Request :=
  [⟨p, .store 5, grudging⟩, ⟨p, .store 3, grudging⟩, ⟨q, .revoke, grudging⟩, ⟨p, .commit, grudging⟩,
    ⟨p, .pause 9, fun _ => .done⟩, ⟨p, .store 5, fun _ => .done⟩, ⟨p, .commit, fun _ => .done⟩]

theorem renewed_advances :
    Advances ⟨"orders", 0⟩
        (empty.after [⟨⟨"orders", 0⟩, .store 40, grudging⟩, ⟨⟨"orders", 0⟩, .revoke, grudging⟩])
        (renewed ⟨"orders", 0⟩ ⟨"orders", 1⟩) ∧
      recordedIn ⟨"orders", 0⟩ (renewed ⟨"orders", 0⟩ ⟨"orders", 1⟩) = [6, 4, 6] ∧
      storeTargets ⟨"orders", 0⟩ (empty.trace (renewed ⟨"orders", 0⟩ ⟨"orders", 1⟩)) = [6, 6] ∧
      commitTargets ⟨"orders", 0⟩ (empty.trace (renewed ⟨"orders", 0⟩ ⟨"orders", 1⟩)) = [6, 6] := by
  refine ⟨after_advances _ _ _ ?_ ?_ ?_, by decide, by decide, by decide⟩
  · rintro r ⟨⟩
    exact ⟨rfl, rfl⟩
  · intro r mem
    simp only [renewed, List.mem_cons, List.not_mem_nil, or_false] at mem
    rcases mem with rfl | rfl | rfl | rfl | rfl | rfl | rfl <;> decide
  · intro r mem
    simp only [renewed, List.mem_cons, List.not_mem_nil, or_false] at mem
    rcases mem with rfl | rfl | rfl | rfl | rfl | rfl | rfl <;>
      first | exact grudging_composed | simp [Answers.Composed]

end Manager

end TopicConsumer
