import TopicConsumer.Proofs.State.Isolation

/-!
# Pauses of a partition

What is heard of a partition is a list of notices: the operations on it that are asked for, and the
calls about it with the answers of the broker. `HeldAt p x notices` says that the broker has paused
the partition for the offset `x`, and that since then the partition was neither revoked nor the
broker asked to resume it.

Whatever is asked for and whatever the broker answers, the calls keep to a protocol. The relation
`Phase.Step` says which notice may come next and `Phase.Path` which notices may come one after the
other; `Manager.heard_paced` states what this means for pauses, seeks and resumes.
-/

namespace TopicConsumer

/-- Something that is heard of a partition. -/
inductive Notice where
  /-- An operation on the partition is asked for. -/
  | asked (op : StateOp)
  /-- The broker answers a call about the partition. -/
  | called (call : BrokerCall) (answer : Answer)
  deriving DecidableEq

namespace Notice

/-- The broker is asked to pause. -/
def isPause : Notice → Bool
  | .called (.pause _) _ => true
  | _ => false

/-- The broker is asked to seek or to resume. -/
def isReturn : Notice → Bool
  | .called (.seek _) _ | .called (.resume _) _ => true
  | _ => false

/-- A pause does not outlast this. -/
def releases : Notice → Bool
  | .asked .revoke | .called (.resume _) _ => true
  | _ => false

end Notice

/-- The broker has paused the partition for the offset, and nothing has ended the pause. -/
def HeldAt (p : TopicPartition) (x : Offset) (notices : List Notice) : Prop :=
  ∃ early late, notices = early ++ .asked (.pause x) :: .called (.pause p) .done :: late ∧
    ∀ n ∈ late, n.releases = false

/-! ## The protocol -/

/-- Where a partition stands in the protocol. -/
inductive Phase where
  | running
  /-- It was asked for a pause at an offset, which the broker has not answered. -/
  | stopping (x : Offset)
  | held (x : Offset)
  /-- The broker was asked to seek the offset of the pause. -/
  | returning (x : Offset)

namespace Phase

/-- The offset at which the partition is held. -/
def offset? : Phase → Option Offset
  | .held x | .returning x => some x
  | .running | .stopping _ => none

/-- The phase of a partition between two requests. -/
def of : Option Offset → Phase
  | none => .running
  | some x => .held x

@[simp] theorem offset?_of (o : Option Offset) : (of o).offset? = o := by
  cases o <;> rfl

theorem of_ne_returning (o : Option Offset) (x : Offset) : of o ≠ .returning x := by
  cases o <;> exact nofun

/-- The notices that may come next, with the phase to which each of them leads. -/
inductive Step (p : TopicPartition) : Phase → Notice → Phase → Prop
  | asked (op : StateOp) (other : ∀ x, op ≠ .pause x) : Step p .running (.asked op) .running
  | pausing (x : Offset) : Step p .running (.asked (.pause x)) (.stopping x)
  | paused (x : Offset) : Step p (.stopping x) (.called (.pause p) .done) (.held x)
  | refused (x : Offset) (e : BrokerError) :
      Step p (.stopping x) (.called (.pause p) (.failed e)) .running
  | kept (x : Offset) (op : StateOp) (other : op ≠ .revoke) :
      Step p (.held x) (.asked op) (.held x)
  | revoked (x : Offset) : Step p (.held x) (.asked .revoke) .running
  | sought (x : Offset) (answer : Answer) :
      Step p (.held x) (.called (.seek ⟨p, x⟩) answer) (.returning x)
  | resumed (x : Offset) (answer : Answer) :
      Step p (.returning x) (.called (.resume p) answer) .running
  | markedRunning (call : BrokerCall) (answer : Answer) (mark : call.isMark p = true) :
      Step p .running (.called call answer) .running
  | markedHeld (x : Offset) (call : BrokerCall) (answer : Answer) (mark : call.isMark p = true) :
      Step p (.held x) (.called call answer) (.held x)

/-- The notices that may come one after the other. -/
inductive Path (p : TopicPartition) : Phase → List Notice → Phase → Prop
  | nil (a : Phase) : Path p a [] a
  | cons {a b c : Phase} {n : Notice} {ns : List Notice} (step : Step p a n b)
      (path : Path p b ns c) : Path p a (n :: ns) c

variable {p : TopicPartition} {a b c : Phase} {n : Notice} {ns : List Notice} {x : Offset}

theorem Path.append {more : List Notice} (first : Path p a ns b) (path : Path p b more c) :
    Path p a (ns ++ more) c := by
  induction first with
  | nil => exact path
  | cons step _ ih => exact .cons step (ih path)

theorem Path.split {early late : List Notice} (path : Path p a (early ++ late) c) :
    ∃ b, Path p a early b ∧ Path p b late c := by
  induction early generalizing a with
  | nil => exact ⟨a, .nil a, path⟩
  | cons n early ih =>
    cases path with
    | cons step path =>
      obtain ⟨b, first, second⟩ := ih path
      exact ⟨b, .cons step first, second⟩

theorem Path.split_cons {early late : List Notice} (path : Path p a (early ++ n :: late) c) :
    ∃ b d, Path p a early b ∧ Step p b n d ∧ Path p d late c := by
  obtain ⟨b, first, second⟩ := path.split
  cases second with
  | cons step rest => exact ⟨b, _, first, step, rest⟩

theorem Step.path (step : Step p a n b) : Path p a [n] b := .cons step (.nil b)

/-- An operation that neither begins a pause nor forgets one leaves the phase as it is. -/
theorem Step.asking {op : StateOp} (o : Option Offset) (other : ∀ x, op ≠ .pause x)
    (kept : op ≠ .revoke) : Step p (of o) (.asked op) (of o) := by
  cases o with
  | none => exact .asked op other
  | some x => exact .kept x op kept

theorem Step.marking {call : BrokerCall} (o : Option Offset) (answer : Answer)
    (mark : call.isMark p = true) : Step p (of o) (.called call answer) (of o) := by
  cases o with
  | none => exact .markedRunning call answer mark
  | some x => exact .markedHeld x call answer mark

/-- Nothing but a revocation or a resume ends a pause. -/
theorem Step.offset?_eq (step : Step p a n b) (held : a.offset? = some x)
    (quiet : n.releases = false) : b.offset? = some x := by
  cases step with
  | kept | sought | markedHeld => exact held
  | revoked | resumed => cases quiet
  | asked | pausing | paused | refused | markedRunning => cases held

theorem Path.offset?_eq (path : Path p a ns b) (held : a.offset? = some x)
    (quiet : ∀ n ∈ ns, n.releases = false) : b.offset? = some x := by
  induction path with
  | nil => exact held
  | cons step path ih =>
    apply ih
    · exact step.offset?_eq held (quiet _ List.mem_cons_self)
    · exact fun n mem => quiet n (List.mem_cons_of_mem _ mem)

/-- Whoever waits for an answer to a pause has just asked for the pause. -/
theorem Path.ends_stopping (path : Path p .running ns (.stopping x)) :
    ∃ early, ns = early ++ [.asked (.pause x)] := by
  rcases List.eq_nil_or_concat ns with rfl | ⟨early, n, rfl⟩
  · cases path
  · rw [List.concat_eq_append] at path ⊢
    obtain ⟨b, d, -, step, rest⟩ := path.split_cons
    cases rest
    cases step
    exact ⟨early, rfl⟩

/-- Whoever waits for an answer to a resume has just asked to seek the offset of the pause. -/
theorem Path.ends_returning (path : Path p .running ns (.returning x)) :
    ∃ early answer, ns = early ++ [.called (.seek ⟨p, x⟩) answer] ∧
      Path p .running early (.held x) := by
  rcases List.eq_nil_or_concat ns with rfl | ⟨early, n, rfl⟩
  · cases path
  · rw [List.concat_eq_append] at path ⊢
    obtain ⟨b, d, first, step, rest⟩ := path.split_cons
    cases rest
    cases step with
    | sought _ answer => exact ⟨early, answer, rfl, first⟩

/-- Whoever has asked to seek asks to resume next. -/
theorem Path.resumes (path : Path p (.returning x) ns b) (answered : b ≠ .returning x) :
    ∃ answer rest, ns = .called (.resume p) answer :: rest ∧ Path p .running rest b := by
  cases path with
  | nil => exact absurd rfl answered
  | cons step path =>
    cases step with
    | resumed _ answer => exact ⟨answer, _, rfl, path⟩

/-- The phase tells whether the partition is held, and at which offset. -/
theorem Path.heldAt_iff (path : Path p .running ns b) : HeldAt p x ns ↔ b.offset? = some x := by
  constructor
  · rintro ⟨early, late, rfl, quiet⟩
    obtain ⟨c, d, -, asked, rest⟩ := path.split_cons
    cases rest with
    | cons answered rest =>
      cases answered with
      | paused y =>
        cases asked
        exact rest.offset?_eq rfl quiet
      | markedRunning _ _ mark | markedHeld _ _ _ mark => cases mark
  · -- the last notice has begun the pause, or the partition was held before it
    intro held
    induction ns using List.reverseRecOn generalizing b with
    | nil =>
      cases path
      cases held
    | append_singleton ns n ih =>
      obtain ⟨c, d, first, step, rest⟩ := path.split_cons
      cases rest
      have before : c.offset? = some x → n.releases = false → HeldAt p x (ns ++ [n]) := by
        intro held quiet
        obtain ⟨early, late, rfl, still⟩ := ih first held
        refine ⟨early, late ++ [n], by simp, ?_⟩
        simpa [or_imp, forall_and] using ⟨still, quiet⟩
      cases step with
      | paused y =>
        cases held
        obtain ⟨early, rfl⟩ := first.ends_stopping
        exact ⟨early, [], by simp, by simp⟩
      | kept y op other =>
        refine before held ?_
        cases op <;> first | rfl | exact absurd rfl other
      | sought => exact before held rfl
      | markedHeld y call answer mark =>
        refine before held ?_
        cases call <;> first | rfl | cases mark
      | asked | pausing | refused | revoked | resumed | markedRunning => cases held

/-! ### From one pause to the next -/

/-- A pause at `x` comes to its end: the partition is revoked, or the broker is asked to seek `x`
and at once to resume. Apart from that the broker is asked for neither. -/
def Ends (p : TopicPartition) (x : Offset) (notices : List Notice) : Prop :=
  ∃ quiet ending rest, notices = quiet ++ ending ++ rest ∧
    (ending = [.asked .revoke] ∨ ∃ sought resumed,
      ending = [.called (.seek ⟨p, x⟩) sought, .called (.resume p) resumed]) ∧
    ∀ n ∈ quiet ++ rest, n.isReturn = false

theorem Ends.cons (ends : Ends p x ns) (still : n.isReturn = false) : Ends p x (n :: ns) := by
  obtain ⟨quiet, ending, rest, rfl, how, none⟩ := ends
  exact ⟨n :: quiet, ending, rest, rfl, how, List.forall_mem_cons.mpr ⟨still, none⟩⟩

theorem isReturn_of_isMark {call : BrokerCall} {answer : Answer} (mark : call.isMark p = true) :
    (Notice.called call answer).isReturn = false := by
  cases call <;> first | rfl | cases mark

/-- While the partition is not held, the broker is asked neither to seek nor to resume. -/
theorem Path.isReturn_eq (path : Path p a ns b) (free : a.offset? = none)
    (unpaused : ∀ n ∈ ns, n.isPause = false) : ∀ n ∈ ns, n.isReturn = false := by
  induction path with
  | nil => simp
  | cons step path ih =>
    obtain ⟨here, later⟩ := List.forall_mem_cons.mp unpaused
    rw [List.forall_mem_cons]
    cases step with
    | asked | pausing => exact ⟨rfl, ih rfl later⟩
    | markedRunning _ _ mark => exact ⟨isReturn_of_isMark mark, ih rfl later⟩
    | paused | refused => cases here
    | kept | revoked | sought | resumed | markedHeld => cases free

/-- When the broker is about to be asked for the next pause, the last one has come to its end. -/
theorem Path.ends (path : Path p (.held x) ns b) (free : b.offset? = none)
    (unpaused : ∀ n ∈ ns, n.isPause = false) : Ends p x ns := by
  induction ns with
  | nil =>
    cases path
    cases free
  | cons n ns ih =>
    obtain ⟨-, later⟩ := List.forall_mem_cons.mp unpaused
    cases path with
    | cons step path =>
      cases step with
      | kept => exact (ih path later).cons rfl
      | markedHeld _ _ _ mark => exact (ih path later).cons (isReturn_of_isMark mark)
      | revoked => exact ⟨[], [_], ns, rfl, .inl rfl, path.isReturn_eq rfl later⟩
      | sought _ sought =>
        obtain ⟨resumed, rest, rfl, back⟩ := path.resumes (by rintro rfl; cases free)
        have later := (List.forall_mem_cons.mp later).2
        exact ⟨[], [_, _], rest, rfl, .inr ⟨sought, resumed, rfl⟩, back.isReturn_eq rfl later⟩

end Phase

/-! ## The notices of a run -/

/-- An operation with its calls keeps to the protocol. -/
theorem PartitionState.path_perform (p : TopicPartition) (s : PartitionState) {answers : Answers}
    (h : answers.Composed) (op : StateOp) :
    Phase.Path p (.of s.pausedAt)
      (.asked op :: (s.perform p answers op).calls.map fun call => .called call.1 call.2)
      (.of (s.perform p answers op).state.pausedAt) := by
  cases op with
  | assign reading =>
    cases reading <;> exact (Phase.Step.asking s.pausedAt (by simp) (by simp)).path
  | revoke =>
    obtain ⟨assigned, paused, committed⟩ := s
    cases paused with
    | none => exact (Phase.Step.asked .revoke (by simp)).path
    | some x => exact (Phase.Step.revoked x).path
  | pause offset =>
    obtain ⟨assigned, paused, committed⟩ := s
    cases paused with
    | some x => exact (Phase.Step.kept x (.pause offset) (by simp)).path
    | none =>
      refine .cons (.pausing offset) ?_
      cases answered : answers (.pause p) with
      | done =>
        simp only [perform, pause, answered]
        exact (Phase.Step.paused offset).path
      | failed e =>
        simp only [perform, pause, answered]
        exact (Phase.Step.refused offset e).path
      | crashed text => exact absurd answered (h _ text)
  | resume =>
    rw [perform, resume_calls p s h, resume_state p s h]
    cases paused : s.pausedAt with
    | none => exact (Phase.Step.asked .resume (by simp)).path
    | some x =>
      refine .cons (.kept x .resume (by simp)) (.cons (.sought x _) ?_)
      exact (Phase.Step.resumed x _).path
  | store offset =>
    rw [perform, store_state_pausedAt, store_calls]
    refine .cons (.asking s.pausedAt (by simp) (by simp)) ?_
    split
    · exact .nil _
    · exact (Phase.Step.marking _ _ (by simp [BrokerCall.isMark, BrokerCall.storeTarget?])).path
  | commit =>
    rw [perform, commit_state, commit_calls]
    refine .cons (.asking s.pausedAt (by simp) (by simp)) ?_
    cases s.committed with
    | none => exact .nil _
    | some n =>
      exact (Phase.Step.marking _ _ (by simp [BrokerCall.isMark, BrokerCall.commitTarget?])).path

namespace Manager

variable {p : TopicPartition}

/-- What is heard of the partition while a request is granted. -/
def notices (p : TopicPartition) (m : Manager) (r : Request) : List Notice :=
  (if r.partition = p then [.asked r.op] else []) ++
    (callsAbout p (m.calls r)).map fun call => .called call.1 call.2

/-- What is heard of the partition while some requests are granted, one after the other. -/
def heard (p : TopicPartition) : Manager → List Request → List Notice
  | _, [] => []
  | m, r :: rs => m.notices p r ++ (m.grant r).heard p rs

theorem path_notices (m : Manager) {r : Request} (composed : r.answers.Composed) :
    Phase.Path p (.of (m.state p).pausedAt) (m.notices p r)
      (.of ((m.grant r).state p).pausedAt) := by
  by_cases here : r.partition = p
  · subst here
    rw [notices, if_pos rfl, callsAbout_calls_self, state_grant_self]
    exact PartitionState.path_perform r.partition _ composed r.op
  · rw [notices, if_neg here, callsAbout_calls_of_ne here, state_grant_of_ne here]
    exact .nil _

/-- Whatever is asked for, what is heard of a partition keeps to the protocol. -/
theorem path_heard (m : Manager) {rs : List Request} (composed : ∀ r ∈ rs, r.answers.Composed) :
    Phase.Path p (.of (m.state p).pausedAt) (m.heard p rs)
      (.of ((m.after rs).state p).pausedAt) := by
  induction rs generalizing m with
  | nil => exact .nil _
  | cons r rs ih =>
    obtain ⟨first, later⟩ := List.forall_mem_cons.mp composed
    exact (path_notices m first).append (ih (m.grant r) later)

/-- How the pauses of a partition come about and end while requests are granted to somebody who
knows of no partition at first. -/
structure Paced (p : TopicPartition) (rs : List Request) : Prop where
  /-- A pause is noted exactly as long as the partition is held, at the offset of the pause. -/
  noted : ∀ front x, front <+: rs →
    (((empty.after front).state p).pausedAt = some x ↔ HeldAt p x (empty.heard p front))
  /-- A pause that the broker has made comes to its end before the broker is asked for another. -/
  lasting : ∀ early x between answer late,
    empty.heard p rs = early ++ .asked (.pause x) :: .called (.pause p) .done :: between ++
      .called (.pause p) answer :: late →
    (∀ n ∈ between, n.isPause = false) → Phase.Ends p x between
  /-- The broker is asked to pause only on behalf of somebody, and only while the partition is not
  held. -/
  paused : ∀ early q answer late,
    empty.heard p rs = early ++ .called (.pause q) answer :: late →
    q = p ∧ (∀ x, ¬ HeldAt p x early) ∧ ∃ front x, early = front ++ [.asked (.pause x)]
  /-- The broker is asked to seek only the offset at which the partition is held, and then at once
  to resume. -/
  sought : ∀ early q answer late,
    empty.heard p rs = early ++ .called (.seek q) answer :: late →
    q.partition = p ∧ HeldAt p q.offset early ∧
      ∃ resumed rest, late = .called (.resume p) resumed :: rest
  /-- The broker is asked to resume only after it was asked to seek. -/
  resumed : ∀ early q answer late,
    empty.heard p rs = early ++ .called (.resume q) answer :: late →
    q = p ∧ ∃ front x sought, early = front ++ [.called (.seek ⟨p, x⟩) sought] ∧ HeldAt p x front

/-- Whatever is asked for and whichever calls fail, the pauses of a partition keep their pace. -/
theorem heard_paced (p : TopicPartition) (rs : List Request)
    (composed : ∀ r ∈ rs, r.answers.Composed) : Paced p rs := by
  have path : Phase.Path p .running (empty.heard p rs) _ := path_heard empty composed
  constructor
  case noted =>
    intro front x before
    have path : Phase.Path p .running (empty.heard p front) _ :=
      path_heard empty fun r mem => composed r (before.subset mem)
    rw [path.heldAt_iff, Phase.offset?_of]
  case lasting =>
    intro early x between answer late split unpaused
    rw [split, List.append_assoc] at path
    obtain ⟨b, c, -, asked, path⟩ := path.split_cons
    cases path with
    | cons answered path =>
      cases answered with
      | paused y =>
        cases asked
        obtain ⟨d, e, held, next, -⟩ := path.split_cons
        refine held.ends ?_ unpaused
        cases next with
        | paused | refused => rfl
        | markedRunning _ _ mark | markedHeld _ _ _ mark => cases mark
      | markedRunning _ _ mark | markedHeld _ _ _ mark => cases mark
  case paused =>
    intro early q answer late split
    rw [split] at path
    obtain ⟨b, c, before, next, -⟩ := path.split_cons
    have free : b.offset? = none → ∀ x, ¬ HeldAt p x early := by
      intro free x held
      cases free.symm.trans (before.heldAt_iff.mp held)
    cases next with
    | paused x | refused x =>
      obtain ⟨front, same⟩ := before.ends_stopping
      exact ⟨rfl, free rfl, front, x, same⟩
    | markedRunning _ _ mark | markedHeld _ _ _ mark => cases mark
  case sought =>
    intro early q answer late split
    rw [split] at path
    obtain ⟨b, c, before, next, after⟩ := path.split_cons
    cases next with
    | sought x =>
      obtain ⟨resumed, rest, same, -⟩ := after.resumes (Phase.of_ne_returning _ x)
      exact ⟨rfl, before.heldAt_iff.mpr rfl, resumed, rest, same⟩
    | markedRunning _ _ mark | markedHeld _ _ _ mark => cases mark
  case resumed =>
    intro early q answer late split
    rw [split] at path
    obtain ⟨b, c, before, next, -⟩ := path.split_cons
    cases next with
    | resumed x =>
      obtain ⟨front, sought, same, held⟩ := before.ends_returning
      exact ⟨rfl, front, x, sought, same, held.heldAt_iff.mpr rfl⟩
    | markedRunning _ _ mark | markedHeld _ _ _ mark => cases mark

/-- A broker that fails to pause, to seek and to resume. -/
def immovable : Answers
  | .store _ | .commit _ => .done
  | _ => .failed (.transient "busy")

theorem immovable_composed : immovable.Composed := by
  intro call text
  cases call <;> simp [immovable]

/-- A pause that fails, one that succeeds and is asked for again at another offset, another
partition's pause, a return of which both calls fail, one too many, and a pause that ends by a
revocation. -/
def unsteady (p q : TopicPartition) : List Request :=
  [⟨p, .pause 3, immovable⟩, ⟨p, .pause 4, fun _ => .done⟩, ⟨q, .pause 9, fun _ => .done⟩,
    ⟨p, .pause 8, fun _ => .done⟩, ⟨p, .resume, immovable⟩, ⟨p, .resume, fun _ => .done⟩,
    ⟨p, .pause 5, fun _ => .done⟩, ⟨p, .revoke, immovable⟩, ⟨p, .pause 6, fun _ => .done⟩]

theorem unsteady_paced :
    let p : TopicPartition := ⟨"orders", 0⟩
    let rs := unsteady p ⟨"orders", 1⟩
    Paced p rs ∧
      (empty.heard p rs).filter (fun n => n.isPause || n.isReturn) =
        [.called (.pause p) (.failed (.transient "busy")), .called (.pause p) .done,
          .called (.seek ⟨p, 4⟩) (.failed (.transient "busy")),
          .called (.resume p) (.failed (.transient "busy")), .called (.pause p) .done,
          .called (.pause p) .done] ∧
      ((empty.after rs).state p).pausedAt = some 6 := by
  refine ⟨heard_paced _ _ fun r mem => ?_, by decide, by decide⟩
  simp only [unsteady, List.mem_cons, List.not_mem_nil, or_false] at mem
  rcases mem with rfl | rfl | rfl | rfl | rfl | rfl | rfl | rfl | rfl
  all_goals first | exact immovable_composed | simp [Answers.Composed]

end Manager

end TopicConsumer
