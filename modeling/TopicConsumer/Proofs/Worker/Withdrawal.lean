import TopicConsumer.Proofs.Worker.Frame
import TopicConsumer.Proofs.Worker.Turns

/-!
# How a worker is withdrawn

Of the calls that close a worker, the first one that makes a move is the one that closes it; every
other call finds that the worker is not active any more and returns. `Workshop.Led p h w n d` says
what the `n`-th call has brought about if it is the first one and stands at `d`: which status the
worker has, that the batch task has ended before the call goes on to its operations, and that these
are the last deeds in the history. `Workshop.Withdrawal p h w` is the same for a call that may or
may not have begun, and it is kept by every move that is made in turn.
-/

namespace TopicConsumer

/-- The call knows that the batch task has ended. -/
def Disposal.isFinal : Disposal → Bool
  | .cancelling _ | .committing _ | .resuming _ | .revoking _ | .closing _ | .returned
  | .crashed _ => true
  | _ => false

/-- What a call that closes the worker has done to others when it has come this far. -/
def Disposal.done (p : TopicPartition) : Disposal → List Deed
  | .resuming _ => [.operation p .commit]
  | .revoking _ => [.operation p .commit, .operation p .resume]
  | .closing _ | .returned => [.operation p .commit, .operation p .resume, .operation p .revoke]
  | _ => []

theorem Disposal.Move.done_eq {env : Surroundings} {s t : Station} {d e : Disposal}
    {events : List Event} (h : Disposal.Move env s d t e events) (begun : d ≠ .claiming)
    (fine : ∀ text, e ≠ .crashed text) (p : TopicPartition) : e.done p = d.done p ++ d.due p := by
  cases h with
  | late => exact absurd rfl begun
  | crashed => exact absurd rfl (fine _)
  | _ => rfl

/-- A call that waits has done nothing yet, or it is over. -/
theorem Disposal.done_of_waits {d : Disposal} (waits : d.waits = true) (unfinal : d.isFinal = false)
    (p : TopicPartition) : d.done p = [] := by
  cases d with
  | claiming | draining | aborting => rfl
  | returned | crashed => cases unfinal
  | _ => cases waits

/-- A cached position is what a commit hands to the broker. -/
theorem Station.commit_mem_performing {env : Surroundings} {s : Station} {c : Offset}
    (cached : s.committed = some c) : ∃ answered,
      .call (.commit ⟨s.worker.partition, c⟩) answered ∈
        s.performing env s.worker.partition .commit := by
  have mem := @PartitionState.commit_mem_calls s.worker.partition
    (s.manager.state s.worker.partition) env.answers c cached
  refine ⟨env.answers (.commit ⟨s.worker.partition, c⟩), ?_⟩
  simp only [performing, List.cons_append, List.mem_cons, List.mem_append, List.mem_map]
  exact .inr (.inl ⟨_, mem, rfl⟩)

namespace Workshop

/-- Neither a deed of a call that closes the worker, nor one that only such a call does. -/
def Foreign (deed : Act × Deed) : Prop :=
  (∀ k, deed.1 ≠ .disposal k) ∧
    ∀ p, deed.2 ≠ .operation p .commit ∧ deed.2 ≠ .operation p .revoke

/-- The `n`-th call that closes the worker commits a position. -/
def Commits (history : List Entry) (n : Nat) (q : Position) : Prop :=
  ∃ e ∈ history, e.act = .disposal n ∧ ∃ answered, .event (.call (.commit q) answered) ∈ e.moments

theorem Commits.append {history : List Entry} {n : Nat} {q : Position} (h : Commits history n q)
    (added : List Entry) : Commits (history ++ added) n q := by
  obtain ⟨e, he, rest⟩ := h
  exact ⟨e, List.mem_append_left _ he, rest⟩

/-- This is not somebody else who stores an offset of the partition or has its state forgotten. -/
def Act.Spares (p : TopicPartition) (act : Act) : Prop :=
  ∀ op, act = .elsewhere p op → (∀ offset, op ≠ .store offset) ∧ op ≠ .revoke

/-- Nobody but the worker itself writes to the cached position of the partition. -/
def Sole (p : TopicPartition) (history : List Entry) : Prop := ∀ e ∈ history, e.act.Spares p

theorem Sole.of_append {p : TopicPartition} {h k : List Entry} (sole : Sole p (h ++ k)) :
    Sole p h :=
  fun e he => sole e (List.mem_append_left _ he)

theorem Sole.last {p : TopicPartition} {h : List Entry} {e : Entry} (sole : Sole p (h ++ [e])) :
    e.act.Spares p :=
  sole e List.mem_concat_self

/-- An operation that somebody else performs leaves the cached position as it is if it spares it. -/
theorem committed_elsewhere {env : Surroundings} {s : Station} {q : TopicPartition} {op : StateOp}
    (spares : (Act.elsewhere q op).Spares s.worker.partition) :
    (s.performed env q op).committed = s.committed := by
  by_cases hq : s.worker.partition = q
  · subst hq
    obtain ⟨unstored, kept⟩ := spares op rfl
    exact Station.committed_performed env _ op s unstored kept
  · exact congrArg PartitionState.committed (Station.performed_state_of_ne env q op s hq)

variable {p : TopicPartition} {history : List Entry} {env : Surroundings} {w t : Workshop}
  {act : Act} {moments : List Moment}

/-! ## Moves of others -/

/-- A move that no call makes that closes the worker. -/
structure Aside (w : Workshop) (e : Entry) (t : Workshop) : Prop where
  other : ∀ k, e.act ≠ .disposal k
  status : t.station.worker.status = w.station.worker.status
  intakeOpen : t.station.worker.intakeOpen = w.station.worker.intakeOpen
  cancelled : w.station.worker.cancelled = true → t.station.worker.cancelled = true
  disposals : t.disposals = w.disposals ∨ t.disposals = w.disposals ++ [.claiming]
  /-- When the batch task has ended, the worker does not write to the cache any more. -/
  committed : w.station.worker.batcher.hasEnded = true →
    e.act.Spares w.station.worker.partition → t.station.committed = w.station.committed
  foreign : ∀ x ∈ e.deeds, Foreign x
  /-- When the worker is cancelled, its batch task has ended and every call waits, nobody does
  anything to others any more. -/
  settled : w.station.worker.status ≠ .active → w.station.worker.cancelled = true →
    w.station.worker.batcher.hasEnded = true → (∀ call ∈ w.calls, call.2.waits = true) →
      t.station.worker.batcher.hasEnded = true ∧ (∀ call ∈ t.calls, call.2.waits = true) ∧
        e.deeds = []

/-- A call that waits does nothing to others and returns when it finds the worker closed. -/
theorem waits_of_move {r : Record} {i j : Intake} {s s' : Station} {events : List Event}
    (move : Intake.Move env r s i s' j events) (waits : i.waits = true)
    (inactive : s.worker.status ≠ .active) (cancelled : s.worker.cancelled = true) :
    j.waits = true ∧ s'.worker = s.worker ∧ events.filterMap Event.deed? = [] := by
  cases move with
  | refused | cancelled => exact ⟨rfl, rfl, rfl⟩
  | welcomed active => exact absurd active inactive
  | woken _ _ live => cases live.symm.trans cancelled
  | _ => cases waits

/-- Whatever others do leaves the closing of the worker to the calls that close it. -/
theorem Move.aside (move : Move env w act t moments) (other : ∀ k, act ≠ .disposal k) :
    Aside w ⟨w, act, moments⟩ t := by
  cases move with
  | enqueue r =>
    refine ⟨other, rfl, rfl, id, .inl rfl, fun _ _ => rfl, by simp [Entry.deeds, Moment.deed?],
      fun _ _ ended waits => ⟨ended, fun call mem => ?_, rfl⟩⟩
    rcases List.mem_append.mp mem with mem | mem
    · exact waits call mem
    · rw [List.mem_singleton.mp mem]
      rfl
  | @intake n r i j s events call move =>
    have same : s.worker.status = w.station.worker.status ∧
        s.worker.intakeOpen = w.station.worker.intakeOpen ∧
        s.worker.cancelled = w.station.worker.cancelled ∧
        s.worker.batcher = w.station.worker.batcher := by
      rcases move.worker_eq with ⟨-, -, -, -, worker⟩ | ⟨-, worker⟩ <;> rw [worker] <;> simp
    obtain ⟨status, intakeOpen, cancelled, batcher⟩ := same
    refine ⟨other, status, intakeOpen, fun h => cancelled.trans h, .inl rfl,
      fun _ _ => move.committed_eq, fun x hx => ?_, fun inactive told ended waits => ?_⟩
    · rw [Entry.deeds_intake] at hx
      obtain ⟨d, hd, rfl⟩ := List.mem_map.mp hx
      refine ⟨by simp, fun p => ?_⟩
      rcases move.deeds hd with ⟨-, rfl⟩ | ⟨-, rfl⟩ <;> simp
    · obtain ⟨done, -, none⟩ :=
        waits_of_move move (waits _ (List.mem_of_getElem? call)) inactive told
      refine ⟨batcher ▸ ended, fun c mem => ?_, by rw [Entry.deeds_intake, none]; rfl⟩
      rcases List.mem_or_eq_of_mem_set mem with mem | rfl
      · exact waits c mem
      · exact done
  | @batch s events move =>
    refine ⟨other, ?_, ?_, fun h => ?_, .inl rfl, fun ended => ?_, fun x hx => ?_,
      fun _ _ ended => ?_⟩
    · rw [move.worker_eq]
    · rw [move.worker_eq]
    · rw [move.worker_eq]
      exact h
    · cases move.alive.symm.trans ended
    · rw [Entry.deeds_batch] at hx
      obtain ⟨d, hd, rfl⟩ := List.mem_map.mp hx
      refine ⟨by simp, fun p => ?_⟩
      rcases move.deeds hd with ⟨last, -, rfl⟩ | ⟨-, rfl⟩ | ⟨b, n, -, rfl⟩ <;> simp
    · cases move.alive.symm.trans ended
  | @handler ending s events ends =>
    refine ⟨other, ?_, ?_, fun h => ?_, .inl rfl, fun ended => ?_, ?_, fun _ _ ended => ?_⟩
    · rw [ends.worker_eq]
    · rw [ends.worker_eq]
    · rw [ends.worker_eq]
      exact h
    · cases ends.alive.symm.trans ended
    · rw [Entry.deeds_handler, ends.deeds]
      simp
    · cases ends.alive.symm.trans ended
  | dispose =>
    exact ⟨other, rfl, rfl, id, .inr rfl, fun _ _ => rfl, by simp [Entry.deeds],
      fun _ _ ended waits => ⟨ended, waits, rfl⟩⟩
  | disposal => exact absurd rfl (other _)
  | cancel =>
    exact ⟨other, rfl, rfl, fun _ => rfl, .inl rfl, fun _ _ => rfl, by simp [Entry.deeds],
      fun _ _ ended waits => ⟨ended, waits, rfl⟩⟩
  | elsewhere q op =>
    exact ⟨other, rfl, rfl, id, .inl rfl, fun _ spares => committed_elsewhere spares,
      by simp [Entry.deeds], fun _ _ ended waits => ⟨ended, waits, rfl⟩⟩

/-! ## The call that closes the worker -/

/-- What the `n`-th call that closes the worker has brought about when it stands at `d`. -/
structure Led (p : TopicPartition) (history : List Entry) (w : Workshop) (n : Nat) (d : Disposal) :
    Prop where
  begun : d ≠ .claiming
  status : w.station.worker.status = if d = .returned then .closed else .draining
  /-- It leaves the intake open until it closes it. -/
  accepting : w.station.worker.intakeOpen = true ↔ d = .closingIntake
  ended : d.isFinal = true → w.station.worker.batcher.hasEnded = true ∧
    ∀ call ∈ w.calls, call.2.waits = true
  cancelled : d.isFinal = true → (∀ drained, d ≠ .cancelling drained) →
    w.station.worker.cancelled = true
  /-- What it has done to others comes last. -/
  deeds : (∀ text, d ≠ .crashed text) → ∃ before,
    deeds history = before ++ (d.done p).map (.disposal n, ·) ∧ ∀ x ∈ before, Foreign x
  /-- The position that is cached between its commit and its revoke has been committed. -/
  marked : ∀ drained, d = .resuming drained ∨ d = .revoking drained →
    ∀ c, w.station.committed = some c → Commits history n ⟨p, c⟩
  /-- After the revoke there is no cached position, unless somebody else stores one. -/
  forgotten : (∃ drained, d = .closing drained) ∨ d = .returned → Sole p history →
    w.station.committed = none

namespace Led

variable {n : Nat} {d : Disposal}

theorem inactive (led : Led p history w n d) : w.station.worker.status ≠ .active := by
  rw [led.status]
  split <;> simp

/-- Whatever others do while the call waits leaves its work as it is. -/
theorem aside (led : Led p history w n d) (own : w.station.worker.partition = p)
    (waits : d.waits = true) {e : Entry} (aside : Aside w e t) : Led p (history ++ [e]) t n d := by
  have uncancelling : ∀ drained, d ≠ .cancelling drained := by
    rintro drained rfl
    cases waits
  have settled : d.isFinal = true → t.station.worker.batcher.hasEnded = true ∧
      (∀ call ∈ t.calls, call.2.waits = true) ∧ e.deeds = [] := by
    intro final
    obtain ⟨ended, calls⟩ := led.ended final
    exact aside.settled led.inactive (led.cancelled final uncancelling) ended calls
  refine
    { begun := led.begun
      status := aside.status.trans led.status
      accepting := aside.intakeOpen ▸ led.accepting
      ended := fun final => ⟨(settled final).1, (settled final).2.1⟩
      cancelled := fun final h => aside.cancelled (led.cancelled final h)
      deeds := fun fine => ?_
      marked := ?_
      forgotten := fun ended sole => ?_ }
  · obtain ⟨before, eq, foreign⟩ := led.deeds fine
    rw [deeds_append, deeds_singleton, eq]
    cases final : d.isFinal with
    | true => exact ⟨before, by rw [(settled final).2.2, List.append_nil], foreign⟩
    | false =>
      -- The call has done nothing yet, so that the new deeds may come behind the old ones.
      rw [Disposal.done_of_waits waits final]
      refine ⟨before ++ e.deeds, by simp, fun x hx => ?_⟩
      rcases List.mem_append.mp hx with hx | hx
      · exact foreign x hx
      · exact aside.foreign x hx
  · rintro drained (rfl | rfl) <;> cases waits
  · have final : d.isFinal = true := by rcases ended with ⟨drained, rfl⟩ | rfl <;> rfl
    rw [aside.committed (led.ended final).1 (own ▸ sole.last)]
    exact led.forgotten ended sole.of_append

/-- A call that claims the closing has not done anything to others yet. -/
theorem claimed (accepting : w.station.worker.intakeOpen = true)
    (foreign : ∀ x ∈ Workshop.deeds history, Foreign x) (line : LogLine) {l : List Disposal} :
    Led p (history ++ [⟨w, .disposal n, [.event (.log line)]⟩])
      { w with
        station := { w.station with worker := { w.station.worker with status := .draining } }
        disposals := l } n .closingIntake where
  begun := by simp
  status := rfl
  accepting := iff_of_true accepting rfl
  ended := by simp [Disposal.isFinal]
  cancelled := by simp [Disposal.isFinal]
  deeds _ := by
    refine ⟨Workshop.deeds history, ?_, foreign⟩
    rw [deeds_append, deeds_singleton]
    rfl
  marked := by simp
  forgotten := by simp

/-- A call that comes too late changes nothing. -/
theorem late (led : Led p history w n d) {e : Entry} (none : e.deeds = []) {l : List Disposal} :
    Led p (history ++ [e]) { w with disposals := l } n d :=
  { led with
    deeds := fun fine => by
      rw [deeds_append, deeds_singleton, none, List.append_nil]
      exact led.deeds fine
    marked := fun drained h c hc => (led.marked drained h c hc).append [e]
    forgotten := fun ended sole => led.forgotten ended sole.of_append }

/-- The call makes its own next move while everybody else waits. -/
theorem lead {e : Disposal} {s : Station} {events : List Event} {l : List Disposal}
    (led : Led p history w n d) (own : w.station.worker.partition = p)
    (move : Disposal.Move env w.station d s e events)
    (calls : ∀ call ∈ w.calls, call.2.waits = true) :
    Led p (history ++ [⟨w, .disposal n, events.map .event⟩])
      { w with station := s, disposals := l } n e := by
  have deeds : (∀ text, e ≠ .crashed text) → ∃ before,
      Workshop.deeds (history ++ [⟨w, .disposal n, events.map .event⟩]) =
        before ++ (e.done p).map (.disposal n, ·) ∧ ∀ x ∈ before, Foreign x := by
    intro fine
    have unbroken : ∀ text, d ≠ .crashed text := by
      rintro text rfl
      cases move with
      | crashed operating =>
        obtain ⟨_, ⟨h, -⟩ | ⟨h, -⟩⟩ := operating <;> cases h
    obtain ⟨before, eq, foreign⟩ := led.deeds unbroken
    refine ⟨before, ?_, foreign⟩
    rw [deeds_append, deeds_singleton, eq, Entry.deeds_disposal, move.deeds_eq, own,
      move.done_eq led.begun fine, List.map_append, List.append_assoc]
  refine
    { begun := by cases move <;> simp
      status := ?_
      accepting := ?_
      ended := fun _ => ?_
      cancelled := fun _ _ => ?_
      deeds := deeds
      marked := fun _ phase c hc => ?_
      forgotten := fun ended sole => ?_ }
  · have status := led.status
    cases move with
    | claimed | late => exact absurd rfl led.begun
    | closed => rfl
    | crashed operating =>
      obtain ⟨_, ⟨rfl, -⟩ | ⟨rfl, -⟩⟩ := operating <;> exact status
    | _ => exact status
  · have accepting := led.accepting
    cases move with
    | claimed | late => exact absurd rfl led.begun
    | shut => simp [Worker.closeIntake]
    | crashed operating =>
      obtain ⟨_, ⟨rfl, -⟩ | ⟨rfl, -⟩⟩ := operating <;> simpa using accepting
    | _ => simpa [Worker.cancel] using accepting
  · cases move with
    | claimed | late => exact absurd rfl led.begun
    | shut | timedOut => contradiction
    | drained ended | aborted ended => exact ⟨by rw [ended]; rfl, calls⟩
    | crashed operating =>
      obtain ⟨_, ⟨rfl, -⟩ | ⟨rfl, -⟩⟩ := operating <;> exact led.ended rfl
    | _ => exact led.ended rfl
  · cases move with
    | claimed | late => exact absurd rfl led.begun
    | shut => contradiction
    | timedOut | cancelled => rfl
    | drained | aborted => simp at *
    | crashed operating =>
      obtain ⟨_, ⟨rfl, -⟩ | ⟨rfl, -⟩⟩ := operating <;> exact led.cancelled rfl (by simp)
    | _ => exact led.cancelled rfl (by simp)
  · have cached : ∀ op, op = .commit ∨ op = .resume →
        (w.station.performed env w.station.worker.partition op).committed = some c →
          w.station.committed = some c := by
      rintro op (rfl | rfl) hc
      · rwa [Station.committed_performed env _ _ _ (by simp) (by simp)] at hc
      · rwa [Station.committed_performed env _ _ _ (by simp) (by simp)] at hc
    cases move with
    | committed drained fine =>
      obtain ⟨answered, mem⟩ := @Station.commit_mem_performing env _ _ (cached _ (.inl rfl) hc)
      exact ⟨_, List.mem_concat_self, rfl, answered,
        List.mem_map_of_mem (own ▸ mem)⟩
    | resumed drained fine =>
      exact (led.marked drained (.inl rfl) c (cached _ (.inr rfl) hc)).append _
    | _ => simp at phase
  · cases move with
    | late => exact absurd rfl led.begun
    | revoked =>
      rw [Station.committed, Station.performed_worker, Station.performed_state_self]
      rfl
    | closed drained => exact led.forgotten (.inl ⟨drained, rfl⟩) sole.of_append
    | _ => simp at ended

end Led

/-! ## The first call -/

theorem firstDisposal_append {n : Nat} (first : firstDisposal history = some n)
    (added : List Entry) : firstDisposal (history ++ added) = some n := by
  rw [firstDisposal] at first ⊢
  rw [List.findSome?_append, first]
  rfl

theorem firstDisposal_aside {e : Entry} (other : ∀ k, e.act ≠ .disposal k) :
    firstDisposal (history ++ [e]) = firstDisposal history := by
  obtain ⟨before, act, moments⟩ := e
  rw [firstDisposal, List.findSome?_append]
  cases act with
  | disposal k => exact absurd rfl (other k)
  | _ => exact Option.or_none ..

theorem firstDisposal_begun (none : firstDisposal history = none) (n : Nat) :
    firstDisposal (history ++ [⟨w, .disposal n, moments⟩]) = some n := by
  rw [firstDisposal] at none ⊢
  rw [List.findSome?_append, none]
  rfl

/-- How far the worker has been withdrawn. -/
inductive Withdrawal (p : TopicPartition) (history : List Entry) (w : Workshop) : Prop
  /-- No call that closes the worker has made a move. -/
  | ahead (active : w.station.worker.status = .active)
      (accepting : w.station.worker.intakeOpen = true)
      (claiming : ∀ d ∈ w.disposals, d = .claiming) (none : firstDisposal history = none)
      (foreign : ∀ x ∈ deeds history, Foreign x)
  /-- The first one has made a move, and the others do nothing. -/
  | begun {n : Nat} {d : Disposal} (first : firstDisposal history = some n)
      (call : w.disposals[n]? = some d)
      (others : ∀ k e, k ≠ n → w.disposals[k]? = some e → e = .claiming ∨ e = .returned)
      (led : Led p history w n d)

namespace Withdrawal

theorem spawned (env : Surroundings) (m : Manager) (p : TopicPartition) (settings : BatchSettings) :
    Withdrawal p [] (spawned env m p settings) :=
  .ahead (by rw [spawned_worker]; rfl) (by rw [spawned_worker]; rfl) (by simp) rfl (by simp)

theorem aside (h : Withdrawal p history w) (own : w.station.worker.partition = p)
    (turn : w.inTurn act = true) (aside : Aside w ⟨w, act, moments⟩ t) :
    Withdrawal p (history ++ [⟨w, act, moments⟩]) t := by
  have same := @firstDisposal_aside history _ aside.other
  cases h with
  | ahead active accepting claiming none foreign =>
    refine .ahead (aside.status.trans active) (aside.intakeOpen.trans accepting) (fun d hd => ?_)
      (same.trans none) fun x hx => ?_
    · rcases aside.disposals with eq | eq <;> rw [eq] at hd
      · exact claiming d hd
      · rcases List.mem_append.mp hd with hd | hd
        · exact claiming d hd
        · exact List.mem_singleton.mp hd
    · rw [deeds_append, deeds_singleton] at hx
      rcases List.mem_append.mp hx with hx | hx
      · exact foreign x hx
      · exact aside.foreign x hx
  | @begun n d first call others led =>
    have waits := disposal_waits turn aside.other call
    have lt : n < w.disposals.length := (List.getElem?_eq_some_iff.mp call).1
    refine .begun (same.trans first) ?_ (fun k e hk he => ?_) (led.aside own waits aside)
    · rcases aside.disposals with eq | eq <;> rw [eq]
      · exact call
      · rw [List.getElem?_append_left lt, call]
    · rcases aside.disposals with eq | eq <;> rw [eq] at he
      · exact others k e hk he
      · rcases Nat.lt_or_ge k w.disposals.length with old | new
        · rw [List.getElem?_append_left old] at he
          exact others k e hk he
        · rw [List.getElem?_append_right new] at he
          exact .inl (List.mem_singleton.mp (List.mem_of_getElem? he))

theorem disposal {k : Nat} {d e : Disposal} {s : Station} {events : List Event}
    (h : Withdrawal p history w) (own : w.station.worker.partition = p)
    (turn : w.inTurn (.disposal k) = true) (call : w.disposals[k]? = some d)
    (move : Disposal.Move env w.station d s e events) :
    Withdrawal p (history ++ [⟨w, .disposal k, events.map .event⟩])
      { w with station := s, disposals := w.disposals.set k e } := by
  have lt : k < w.disposals.length := (List.getElem?_eq_some_iff.mp call).1
  have here : (w.disposals.set k e)[k]? = some e := List.getElem?_set_self lt
  have calls : ∀ call ∈ w.calls, call.2.waits = true :=
    fun call mem => intake_waits turn (by simp) mem
  cases h with
  | ahead active accepting claiming none foreign =>
    cases claiming d (List.mem_of_getElem? call)
    rcases move.of_claiming with ⟨-, rfl, rfl, line, rfl⟩ | ⟨inactive, -⟩
    · refine .begun (firstDisposal_begun none k) here (fun j f hj hf => ?_)
        (.claimed accepting foreign line)
      rw [List.getElem?_set_ne hj.symm] at hf
      exact .inl (claiming f (List.mem_of_getElem? hf))
    · exact absurd active inactive
  | @begun n d' first call' others led =>
    have first := firstDisposal_append first [⟨w, .disposal k, events.map .event⟩]
    by_cases hk : k = n
    · subst hk
      cases call.symm.trans call'
      refine .begun first here (fun j f hj hf => ?_) (led.lead own move calls)
      rw [List.getElem?_set_ne hj.symm] at hf
      exact others j f hj hf
    · -- Every other call finds the worker inactive and returns.
      cases (others k d hk call).resolve_right move.ne_returned
      rcases move.of_claiming with ⟨active, -⟩ | ⟨-, rfl, rfl, rfl⟩
      · exact absurd active led.inactive
      · refine .begun first ?_ (fun j f hj hf => ?_) (led.late rfl)
        · rw [List.getElem?_set_ne hk]
          exact call'
        · by_cases hjk : k = j
          · subst hjk
            rw [here] at hf
            exact .inr (Option.some.inj hf).symm
          · rw [List.getElem?_set_ne hjk] at hf
            exact others j f hj hf

/-- Every move that is made in turn keeps to the order in which a worker is withdrawn. -/
theorem move (h : Withdrawal p history w) (own : w.station.worker.partition = p)
    (turn : w.inTurn act = true) (move : Move env w act t moments) :
    Withdrawal p (history ++ [⟨w, act, moments⟩]) t := by
  by_cases closing : ∃ k, act = .disposal k
  · obtain ⟨k, rfl⟩ := closing
    cases move with
    | disposal call move => exact h.disposal own turn call move
  · exact h.aside own turn (move.aside fun k hk => closing ⟨k, hk⟩)

/-- A call that is at work is the first one. -/
theorem led {k : Nat} {d : Disposal} (h : Withdrawal p history w) (call : w.disposals[k]? = some d)
    (begun : d ≠ .claiming) (working : d ≠ .returned) :
    firstDisposal history = some k ∧ Led p history w k d := by
  cases h with
  | ahead _ _ claiming => exact absurd (claiming d (List.mem_of_getElem? call)) begun
  | @begun n d' first call' others led =>
    by_cases hk : k = n
    · subst hk
      cases call.symm.trans call'
      exact ⟨first, led⟩
    · rcases others k d hk call with h | h
      · exact absurd h begun
      · exact absurd h working

/-- The first call has done its work when it has returned. -/
theorem led_of_first {n : Nat} {d : Disposal} (h : Withdrawal p history w)
    (first : firstDisposal history = some n) (call : w.disposals[n]? = some d) :
    Led p history w n d := by
  cases h with
  | ahead _ _ _ none => cases none.symm.trans first
  | begun first' call' _ led =>
    cases first'.symm.trans first
    cases call'.symm.trans call
    exact led

end Withdrawal

end Workshop

end TopicConsumer
