import Mathlib.Data.List.Induction
import Mathlib.Data.List.Nodup
import TopicConsumer.Batch.Compaction

/-!
# What compacting keeps

Of each key the message prevails that no message of the key before it is later than and that every
message of the key behind it is earlier than. `mem_compact` says that these are the messages that
compacting keeps, whatever the batch, and `map_key_compact` that they stand in the order in which
their keys first occur. From there `compact_law` draws the laws of compacting: it keeps the latest
message of each key, and it can be done piece by piece.

Equally late messages of a key are told apart by where they stand, not by their offsets.
`step_foremost` says for which batches the message of the greatest offset is kept all the same, and
that the order of the messages has no part in the choice among such batches.
-/

namespace TopicConsumer.Compaction

variable {xs ys kept : List Message} {m q : Message}

/-! ## One message more -/

theorem compact_concat (xs : List Message) (m : Message) :
    compact (xs ++ [m]) = absorb m (compact xs) := by
  rw [compact, List.foldl_concat, compact]

/-- A message of a new key comes to stand at the end. -/
theorem absorb_of_notMem (new : m.key ∉ kept.map Message.key) : absorb m kept = kept ++ [m] := by
  induction kept with
  | nil => rfl
  | cons k kept ih =>
    rw [List.map_cons, List.mem_cons, not_or] at new
    rw [absorb, if_neg (Ne.symm new.1), ih new.2]
    rfl

/-- A message of a key that has been there stands in the place of the kept one, or is left out. -/
theorem absorb_of_mem (old : m.key ∈ kept.map Message.key) :
    ∃ before k after, kept = before ++ k :: after ∧ k.key = m.key ∧
      absorb m kept =
        before ++ (if k.timestamp.nanos ≤ m.timestamp.nanos then m else k) :: after := by
  induction kept with
  | nil => cases old
  | cons k kept ih =>
    rw [absorb]
    split
    · next same => exact ⟨[], k, kept, rfl, same, rfl⟩
    · next other =>
      have old := (List.mem_cons.mp old).resolve_left (Ne.symm other)
      obtain ⟨before, l, after, rfl, same, eq⟩ := ih old
      exact ⟨k :: before, l, after, rfl, same, by rw [eq]; rfl⟩

section EraseDups

variable {α : Type} [BEq α] [LawfulBEq α] {l : List α} {a : α}

/-- An element that has occurred before does not count again. -/
theorem eraseDups_concat_of_mem (old : a ∈ l) : (l ++ [a]).eraseDups = l.eraseDups := by
  simp [List.eraseDups_append, List.removeAll, old]

theorem eraseDups_concat_of_notMem (new : a ∉ l) : (l ++ [a]).eraseDups = l.eraseDups ++ [a] := by
  simp [List.eraseDups_append, List.removeAll, new, List.eraseDups_cons]

end EraseDups

/-! ## Prevailing messages -/

/-- Of its key, no message before it is later, and every message behind it is earlier. -/
def Prevails (xs : List Message) (m : Message) : Prop :=
  ∃ before after, xs = before ++ m :: after ∧
    (∀ q ∈ before, q.key = m.key → q.timestamp.nanos ≤ m.timestamp.nanos) ∧
    ∀ q ∈ after, q.key = m.key → q.timestamp.nanos < m.timestamp.nanos

namespace Prevails

theorem mem (h : Prevails xs m) : m ∈ xs := by
  obtain ⟨before, after, rfl, -, -⟩ := h
  exact List.mem_append_right _ List.mem_cons_self

theorem le (h : Prevails xs m) (hq : q ∈ xs) (same : q.key = m.key) :
    q.timestamp.nanos ≤ m.timestamp.nanos := by
  obtain ⟨before, after, rfl, early, late⟩ := h
  rcases List.mem_append.mp hq with hq | hq
  · exact early q hq same
  · rcases List.mem_cons.mp hq with rfl | hq
    · exact Int.le_refl _
    · exact Int.le_of_lt (late q hq same)

theorem concat (h : Prevails xs q) (early : m.key = q.key → m.timestamp.nanos < q.timestamp.nanos) :
    Prevails (xs ++ [m]) q := by
  obtain ⟨before, after, rfl, earlier, late⟩ := h
  refine ⟨before, after ++ [m], by simp, earlier, fun k hk same => ?_⟩
  rcases List.mem_append.mp hk with hk | hk
  · exact late k hk same
  · rw [List.mem_singleton.mp hk] at same ⊢
    exact early same

theorem last (late : ∀ q ∈ xs, q.key = m.key → q.timestamp.nanos ≤ m.timestamp.nanos) :
    Prevails (xs ++ [m]) m :=
  ⟨xs, [], rfl, late, by simp⟩

/-- Behind a message that prevails, none of its key prevails. -/
theorem not_behind {before after : List Message} (h : Prevails (before ++ m :: after) q)
    (same : q.key = m.key) (behind : q ∈ after)
    (late : ∀ k ∈ after, k.key = m.key → k.timestamp.nanos < m.timestamp.nanos) : False := by
  have least := h.le (List.mem_append_right before List.mem_cons_self) same.symm
  exact Int.not_lt.mpr least (late q behind same)

/-- One message of a key prevails at most. -/
theorem unique (hm : Prevails xs m) (hq : Prevails xs q) (same : q.key = m.key) : q = m := by
  have hm' := hm
  have hq' := hq
  obtain ⟨before, after, rfl, -, late⟩ := hm
  obtain ⟨before', after', eq, -, late'⟩ := hq
  rcases List.append_eq_append_iff.mp eq with ⟨between, rfl, ends⟩ | ⟨between, rfl, ends⟩
  · cases between with
    | nil => exact (List.cons.inj ends).1.symm
    | cons k between =>
      obtain ⟨rfl, rfl⟩ := List.cons.inj ends
      exact (hq'.not_behind same (List.mem_append_right _ List.mem_cons_self) late).elim
  · cases between with
    | nil => exact (List.cons.inj ends).1
    | cons k between =>
      obtain ⟨rfl, rfl⟩ := List.cons.inj ends
      rw [List.append_assoc] at hm'
      exact (hm'.not_behind same.symm (List.mem_append_right _ List.mem_cons_self) late').elim

end Prevails

/-! ## What is kept -/

/-- `kept` has one message of each key of `xs`, in the order in which the keys first occur, and each
of them prevails. -/
structure Keeps (xs kept : List Message) : Prop where
  distinct : (kept.map Message.key).Nodup
  keys : kept.map Message.key = (xs.map Message.key).eraseDups
  prevails : ∀ m ∈ kept, Prevails xs m

namespace Keeps

theorem mem_keys (keeps : Keeps xs kept) {k : Option String} :
    k ∈ kept.map Message.key ↔ k ∈ xs.map Message.key := by
  rw [keeps.keys, List.mem_eraseDups]

theorem concat_of_notMem (keeps : Keeps xs kept) (new : m.key ∉ kept.map Message.key) :
    Keeps (xs ++ [m]) (absorb m kept) := by
  have unseen : m.key ∉ xs.map Message.key := mt keeps.mem_keys.mpr new
  have other : ∀ q ∈ xs, q.key ≠ m.key := fun q hq same =>
    unseen (same ▸ List.mem_map_of_mem hq)
  rw [absorb_of_notMem new]
  refine ⟨?_, ?_, fun q hq => ?_⟩
  · rw [List.map_append]
    exact List.nodup_append.mpr ⟨keeps.distinct, List.nodup_singleton _, fun k hk l hl same =>
      new (by rw [← List.mem_singleton.mp hl, ← same]; exact hk)⟩
  · simp only [List.map_append, List.map_cons, List.map_nil]
    rw [eraseDups_concat_of_notMem unseen, keeps.keys]
  · rcases List.mem_append.mp hq with hq | hq
    · have prevails := keeps.prevails q hq
      exact prevails.concat fun same => absurd same.symm (other q prevails.mem)
    · rw [List.mem_singleton.mp hq]
      exact .last fun k hk same => absurd same (other k hk)

theorem concat_of_mem (keeps : Keeps xs kept) (old : m.key ∈ kept.map Message.key) :
    Keeps (xs ++ [m]) (absorb m kept) := by
  have seen : m.key ∈ xs.map Message.key := keeps.mem_keys.mp old
  obtain ⟨before, k, after, rfl, same, eq⟩ := absorb_of_mem old
  -- The message takes the place of one of its key, so that the keys stay as they are.
  have place : (if k.timestamp.nanos ≤ m.timestamp.nanos then m else k).key = k.key := by
    split
    · exact same.symm
    · rfl
  have keys : (absorb m (before ++ k :: after)).map Message.key =
      (before ++ k :: after).map Message.key := by
    rw [eq]
    simp [place]
  have distinct := keeps.distinct
  refine ⟨keys ▸ distinct, ?_, fun q hq => ?_⟩
  · rw [keys, keeps.keys, List.map_append, List.map_singleton, eraseDups_concat_of_mem seen]
  · rw [eq] at hq
    rw [List.map_append, List.map_cons, List.nodup_middle, List.nodup_cons] at distinct
    have others : ∀ l, l ∈ before ∨ l ∈ after → m.key ≠ l.key := fun l hl shared => by
      refine distinct.1 (same ▸ shared ▸ ?_)
      rw [List.mem_append]
      exact hl.imp List.mem_map_of_mem List.mem_map_of_mem
    have outside : ∀ l, l ∈ before ∨ l ∈ after → Prevails (xs ++ [m]) l := fun l hl => by
      refine (keeps.prevails l ?_).concat fun shared => absurd shared (others l hl)
      exact List.mem_append.mpr (hl.imp_right (List.mem_cons_of_mem k))
    have first := keeps.prevails k (List.mem_append_right _ List.mem_cons_self)
    rcases List.mem_append.mp hq with hq | hq
    · exact outside q (.inl hq)
    · rcases List.mem_cons.mp hq with rfl | hq
      · split
        · next late =>
          exact .last fun l hl shared => Int.le_trans (first.le hl (shared.trans same.symm)) late
        · next early => exact first.concat fun _ => Int.not_le.mp early
      · exact outside q (.inr hq)

end Keeps

theorem keeps_compact (xs : List Message) : Keeps xs (compact xs) := by
  induction xs using List.reverseRecOn with
  | nil => exact ⟨List.nodup_nil, rfl, by simp [compact]⟩
  | append_singleton xs m ih =>
    rw [compact_concat]
    by_cases old : m.key ∈ (compact xs).map Message.key
    · exact ih.concat_of_mem old
    · exact ih.concat_of_notMem old

theorem map_key_compact (xs : List Message) :
    (compact xs).map Message.key = (xs.map Message.key).eraseDups :=
  (keeps_compact xs).keys

/-- The kept messages are those that prevail. -/
theorem mem_compact : m ∈ compact xs ↔ Prevails xs m := by
  have keeps := keeps_compact xs
  refine ⟨keeps.prevails m, fun h => ?_⟩
  obtain ⟨k, hk, same⟩ := List.mem_map.mp (keeps.mem_keys.mpr (List.mem_map_of_mem h.mem))
  exact (keeps.prevails k hk).unique h same.symm ▸ hk

/-- Of a batch with one message of each key, all are kept as they stand. -/
theorem compact_of_nodup (distinct : (xs.map Message.key).Nodup) : compact xs = xs := by
  induction xs using List.reverseRecOn with
  | nil => rfl
  | append_singleton xs m ih =>
    rw [List.map_append, List.map_singleton, ← List.concat_eq_append, List.nodup_concat] at distinct
    rw [compact_concat, ih distinct.2, absorb_of_notMem distinct.1]

/-! ## The laws of compacting -/

/-- `kept` is a compacted form of `xs`. -/
structure Compacts (xs kept : List Message) : Prop where
  given : ∀ m ∈ kept, m ∈ xs
  /-- There is exactly one message of each key that occurs. -/
  once : ∀ q ∈ xs, kept.countP (·.key = q.key) = 1
  /-- The keys stand in the order in which they first occur. -/
  order : kept.map Message.key = (xs.map Message.key).eraseDups
  /-- As instants, the kept messages are the latest ones of their keys. -/
  latest : ∀ m ∈ kept, ∀ q ∈ xs, q.key = m.key → q.timestamp.nanos ≤ m.timestamp.nanos

theorem Keeps.compacts (keeps : Keeps xs kept) : Compacts xs kept where
  given m hm := (keeps.prevails m hm).mem
  once q hq := by
    have present := keeps.mem_keys.mpr (List.mem_map_of_mem hq)
    have count := List.count_eq_one_of_mem keeps.distinct present
    rw [List.count, List.countP_map] at count
    rw [← count]
    exact List.countP_congr fun m _ => by simp
  order := keeps.keys
  latest m hm q hq := (keeps.prevails m hm).le hq

/-- A batch is compacted to the latest message of each key; compacting again changes nothing, and a
batch that grows may be compacted before it does. -/
theorem compact_law (xs ys : List Message) :
    Compacts xs (compact xs) ∧ compact (compact xs) = compact xs ∧
      compact (xs ++ ys) = compact (compact xs ++ ys) := by
  have again : compact (compact xs) = compact xs := compact_of_nodup (keeps_compact xs).distinct
  refine ⟨(keeps_compact xs).compacts, again, ?_⟩
  calc compact (xs ++ ys)
      = ys.foldl (fun kept m => absorb m kept) (compact xs) := List.foldl_append
    _ = ys.foldl (fun kept m => absorb m kept) (compact (compact xs)) := by rw [again]
    _ = compact (compact xs ++ ys) := List.foldl_append.symm

/-! ## Equally late messages -/

/-- None of its key is later, and none that is equally late has a greater offset. -/
def Foremost (xs : List Message) (m : Message) : Prop :=
  m ∈ xs ∧ ∀ q ∈ xs, q.key = m.key → q.timestamp.nanos < m.timestamp.nanos ∨
    q.timestamp.nanos = m.timestamp.nanos ∧ q.offset ≤ m.offset

instance (xs : List Message) (m : Message) : Decidable (Foremost xs m) :=
  inferInstanceAs (Decidable (_ ∧ _))

/-- Of the latest messages of each key, the one that stands last has the greatest offset. -/
def LastIsGreatest (xs : List Message) : Prop :=
  ∀ m, Prevails xs m → ∀ q ∈ xs, q.key = m.key → q.timestamp.nanos = m.timestamp.nanos →
    q.offset ≤ m.offset

/-- It is so wherever the messages stand by their offsets. -/
theorem lastIsGreatest_of_ascending (ascending : xs.Pairwise fun a b => a.offset ≤ b.offset) :
    LastIsGreatest xs := by
  rintro m ⟨before, after, rfl, -, late⟩ q hq same tied
  rcases List.mem_append.mp hq with hq | hq
  · exact (List.pairwise_append.mp ascending).2.2 q hq m List.mem_cons_self
  · rcases List.mem_cons.mp hq with rfl | hq
    · exact Int.le_refl _
    · exact absurd tied (Int.ne_of_lt (late q hq same))

theorem Prevails.foremost (h : Prevails xs m) (last : LastIsGreatest xs) : Foremost xs m := by
  refine ⟨h.mem, fun q hq same => ?_⟩
  rcases Int.lt_or_eq_of_le (h.le hq same) with earlier | tied
  · exact .inl earlier
  · exact .inr ⟨tied, last m h q hq same tied⟩

/-- One message of a key is foremost at most, if no two messages have the same offset. -/
theorem Foremost.unique (distinct : (xs.map Message.offset).Nodup) (hm : Foremost xs m)
    (hq : Foremost xs q) (same : q.key = m.key) : q = m := by
  refine List.inj_on_of_nodup_map distinct hq.1 hm.1 ?_
  rcases hm.2 q hq.1 same with earlier | ⟨tied, below⟩ <;>
    rcases hq.2 m hm.1 same.symm with later | ⟨tied', above⟩
  · exact absurd earlier (Int.lt_asymm later)
  · exact absurd tied' (Int.ne_of_gt earlier)
  · exact absurd tied (Int.ne_of_gt later)
  · exact Int.le_antisymm below above

theorem Foremost.perm (h : Foremost xs m) (perm : ys.Perm xs) : Foremost ys m :=
  ⟨perm.mem_iff.mpr h.1, fun q hq => h.2 q (perm.mem_iff.mp hq)⟩

/-- The foremost messages are kept exactly where the last one of the latest is the greatest. -/
theorem mem_compact_iff_foremost (distinct : (xs.map Message.offset).Nodup) :
    (∀ m, m ∈ compact xs ↔ Foremost xs m) ↔ LastIsGreatest xs := by
  constructor
  · intro foremost m h q hq same tied
    rcases ((foremost m).mp (mem_compact.mpr h)).2 q hq same with earlier | ⟨-, le⟩
    · exact absurd tied (Int.ne_of_lt earlier)
    · exact le
  · intro last m
    refine ⟨fun hm => (mem_compact.mp hm).foremost last, fun h => ?_⟩
    have seen := (keeps_compact xs).mem_keys.mpr (List.mem_map_of_mem h.1)
    obtain ⟨k, hk, same⟩ := List.mem_map.mp seen
    exact h.unique distinct ((mem_compact.mp hk).foremost last) same ▸ hk

/-- Where this is so of two orders of a batch, the same messages are kept of both. -/
theorem compact_perm (distinct : (xs.map Message.offset).Nodup) (perm : ys.Perm xs)
    (hx : LastIsGreatest xs) (hy : LastIsGreatest ys) : (compact ys).Perm (compact xs) := by
  have nodup : ∀ zs, (compact zs).Nodup := fun zs => .of_map _ (keeps_compact zs).distinct
  have distinct' : (ys.map Message.offset).Nodup := (perm.map _).nodup_iff.mpr distinct
  refine (List.perm_ext_iff_of_nodup (nodup ys) (nodup xs)).mpr fun m => ?_
  rw [(mem_compact_iff_foremost distinct').mpr hy, (mem_compact_iff_foremost distinct).mpr hx]
  exact ⟨fun h => h.perm perm.symm, fun h => h.perm perm⟩

/-- The rest of the chain finds the foremost messages of a batch exactly if, of the latest messages
of each key, the one that stands last has the greatest offset. This is so if the messages stand by
their offsets, and the order of the messages has no part in the choice as far as it is so. -/
theorem step_foremost {A : Dialogue} (next : Next (BatchRoutine A) BatchContext)
    (ctx : BatchContext) (distinct : (ctx.messages.map Message.offset).Nodup) :
    ∃ kept, step next ctx = next.run { ctx with messages := kept } ∧
      ((∀ m, m ∈ kept ↔ Foremost ctx.messages m) ↔ LastIsGreatest ctx.messages) ∧
      ((ctx.messages.Pairwise fun a b => a.offset ≤ b.offset) → LastIsGreatest ctx.messages) ∧
      ∀ messages, messages.Perm ctx.messages → LastIsGreatest ctx.messages →
        LastIsGreatest messages → ∃ same, same.Perm kept ∧
          step next { ctx with messages := messages } = next.run { ctx with messages := same } :=
  ⟨compact ctx.messages, rfl, mem_compact_iff_foremost distinct, lastIsGreatest_of_ascending,
    fun messages perm hx hy => ⟨compact messages, compact_perm distinct perm hx hy, rfl⟩⟩

/-- Nothing is left of the chain. -/
def chainEnd {A : Dialogue} : Next (BatchRoutine A) BatchContext := .ofSteps []

/-- An application that asks nothing. -/
def unasking : Dialogue := ⟨Empty, nofun⟩

/-- A message of the beginning of 1970. -/
def early (key : Option String) (offset : Offset) : Message :=
  { (default : Message) with key := key, offset := offset }

theorem ascending_foremost :
    let messages := [early none 1, early (some "a") 2, early none 3, early (some "a") 4]
    (messages.map Message.offset).Nodup ∧
      ∃ kept, step (A := unasking) chainEnd ⟨messages, []⟩ = chainEnd.run ⟨kept, []⟩ ∧
        ∀ m, m ∈ kept ↔ Foremost messages m := by
  intro messages
  have distinct : (messages.map Message.offset).Nodup := by decide
  obtain ⟨kept, run, foremost, ascending, -⟩ :=
    step_foremost (A := unasking) chainEnd ⟨messages, []⟩ distinct
  exact ⟨distinct, kept, run, foremost.mpr (ascending (by decide))⟩

/-- A step that turns the batch round. -/
def reverseStep {A : Dialogue} : BatchStep A := fun next ctx =>
  next.run { ctx with messages := ctx.messages.reverse }

/-- Behind a step that turns the batch round, the lesser one of two equally late messages is kept;
without it, the greater one is. -/
theorem reversed_not_foremost :
    let ctx : BatchContext := ⟨[early none 1, early none 2], []⟩
    (Pipeline.mk [reverseStep, step] : BatchPipeline unasking).execute ctx =
        pure (.ok (), ⟨[early none 1], []⟩) ∧
      (Pipeline.mk [step] : BatchPipeline unasking).execute ctx =
        pure (.ok (), ⟨[early none 2], []⟩) ∧
      Foremost ctx.messages (early none 2) ∧ ¬ Foremost ctx.messages (early none 1) := by
  intro ctx
  exact ⟨rfl, rfl, by decide, by decide⟩

end TopicConsumer.Compaction
