import Mathlib.Data.List.Nodup
import TopicConsumer.Proofs.Message.Headers
import TopicConsumer.Proofs.Text.Spelling

/-!
# Headers as a roll

A roll is a plain list of headers. It is searched for a name from the front, and a header that is
written is entered after the one that has its name, however that is spelled, has been struck off.
Headers give back what a roll does, whatever is done with them: `run_faithful` says so, and what
is left in them after any operations. Only the order in which headers are listed is left open.
-/

namespace TopicConsumer

open Text

namespace Roll

/-- The first header of this name. -/
def seek (roll : List Header) (name : String) : Option Header :=
  roll.find? fun h => Alike h.name name

/-- The headers of the other names. -/
def strike (roll : List Header) (name : String) : List Header :=
  roll.filter fun h => ¬ Alike h.name name

/-- The roll with a header that takes the place of the one of its name. -/
def enter (roll : List Header) (h : Header) : List Header := h :: strike roll h.name

/-- The roll after an operation, and what it gives back. -/
def perform (roll : List Header) : Headers.Operation → List Header × Headers.Finding
  | .insert name value => (enter roll ⟨name, value⟩, .value ((seek roll name).map Header.value))
  | .erase name => (strike roll name, .value ((seek roll name).map Header.value))
  | .get name => (roll, .value ((seek roll name).map Header.value))
  | .contains name => (roll, .truth (seek roll name).isSome)
  | .size => (roll, .count roll.length)
  | .isEmpty => (roll, .truth roll.isEmpty)
  | .list => (roll, .headers roll)

/-- The roll in which headers are entered one after the other. -/
def ofList (list : List Header) : List Header := list.foldl enter []

theorem mem_strike {roll : List Header} {name : String} {h : Header} :
    h ∈ strike roll name ↔ h ∈ roll ∧ ¬ Alike h.name name := by
  rw [strike, List.mem_filter, decide_eq_true_iff]

theorem nodup_strike {roll : List Header} (distinct : roll.Nodup) (name : String) :
    (strike roll name).Nodup := distinct.filter _

theorem nodup_enter {roll : List Header} (distinct : roll.Nodup) (h : Header) :
    (enter roll h).Nodup :=
  List.nodup_cons.mpr ⟨fun mem => (mem_strike.mp mem).2 (.refl _), nodup_strike distinct _⟩

end Roll

namespace Headers

variable {hs : Headers} {roll : List Header}

/-! ## Many operations -/

section Runs

variable {S : Type} (perform : S → Operation → S × Finding)

/-- What comes of operations that are done one after the other. -/
def after (s : S) (ops : List Operation) : S := ops.foldl (fun s op => (perform s op).1) s

/-- What each of the operations gives back. -/
def findings : S → List Operation → List Finding
  | _, [] => []
  | s, op :: rest => (perform s op).2 :: findings (perform s op).1 rest

end Runs

/-- The operation that writes a header. -/
def Operation.write (h : Header) : Operation := .insert h.name h.value

/-- What the operation leaves under a name, if it is about this name and changes what is there. -/
def Operation.leaves? (name : String) : Operation → Option (Option Header)
  | .insert written value => if Alike name written then some (some ⟨written, value⟩) else none
  | .erase erased => if Alike name erased then some none else none
  | _ => none

/-- The header that was written last under a name, unless it has been taken out since. -/
def lastWritten (ops : List Operation) (name : String) : Option Header :=
  (ops.reverse.findSome? (Operation.leaves? name)).getD none

theorem after_cons {S : Type} (perform : S → Operation → S × Finding) (s : S) (op : Operation)
    (rest : List Operation) : after perform s (op :: rest) = after perform (perform s op).1 rest :=
  rfl

/-- Headers that are written one after the other come of as many operations. -/
theorem after_map_write (list : List Header) (ops : List Operation) :
    after perform empty (list.map .write ++ ops) = after perform (ofList list) ops := by
  rw [after, List.foldl_append, List.foldl_map]
  rfl

/-! ## What is left -/

theorem find?_perform (hs : Headers) (op : Operation) (name : String) :
    (hs.perform op).1.find? name = (op.leaves? name).getD (hs.find? name) := by
  cases op with
  | insert written value =>
    rw [perform, find?_insert, Operation.leaves?]
    simp only [sameName_iff_alike]
    split <;> rfl
  | erase erased =>
    rw [perform, find?_erase, Operation.leaves?]
    simp only [sameName_iff_alike]
    split <;> rfl
  | _ => rfl

theorem find?_after (hs : Headers) (ops : List Operation) (name : String) :
    (after perform hs ops).find? name =
      (ops.reverse.findSome? (Operation.leaves? name)).getD (hs.find? name) := by
  induction ops generalizing hs with
  | nil => rfl
  | cons op rest ih =>
    rw [after_cons, ih, find?_perform, List.reverse_cons, List.findSome?_append,
      List.findSome?_singleton, Option.getD_or]

/-- What is found in headers is what was written last. -/
theorem find?_after_ofList (list : List Header) (ops : List Operation) (name : String) :
    (after perform (ofList list) ops).find? name = lastWritten (list.map .write ++ ops) name := by
  rw [← after_map_write, find?_after]
  rfl

/-- Headers that are sound stay so. -/
theorem Sound.perform (sound : hs.Sound) (op : Operation) : (hs.perform op).1.Sound := by
  cases op with
  | insert name value => exact sound.insert name value
  | erase name => exact sound.erase name
  | _ => exact sound

theorem Sound.after (sound : hs.Sound) (ops : List Operation) :
    (after Headers.perform hs ops).Sound := by
  induction ops generalizing hs with
  | nil => exact sound
  | cons op rest ih => exact ih (sound.perform op)

/-- Sound headers are as many as the names under which there is one. -/
theorem Sound.size_eq (sound : hs.Sound) {names : List String}
    (distinct : names.Pairwise fun a b => ¬ Alike a b)
    (listed : ∀ name, (hs.find? name).isSome ↔ ∃ n ∈ names, Alike n name) :
    hs.size = names.length := by
  have unequal : (names.map foldCase).Nodup :=
    List.pairwise_map.mpr (distinct.imp fun other same => other (sameName_iff_alike.mp same))
  have unequal' : (hs.toList.map fun h => foldCase h.name).Nodup :=
    List.pairwise_map.mpr sound.pairwise
  have perm : (hs.toList.map fun h => foldCase h.name).Perm (names.map foldCase) := by
    refine (List.perm_ext_iff_of_nodup unequal' unequal).mpr fun key => ?_
    simp only [List.mem_map]
    constructor
    · rintro ⟨h, mem, rfl⟩
      have found : (hs.find? h.name).isSome := by rw [sound.mem_toList_iff.mp mem]; rfl
      obtain ⟨n, mem, alike⟩ := (listed h.name).mp found
      exact ⟨n, mem, sameName_iff_alike.mpr alike⟩
    · rintro ⟨n, mem, rfl⟩
      obtain ⟨h, found⟩ := Option.isSome_iff_exists.mp ((listed n).mpr ⟨n, mem, .refl n⟩)
      obtain ⟨mem, same⟩ := sound.find?_eq_some_iff.mp found
      exact ⟨h, mem, same⟩
  simpa [toList, size] using perm.length_eq

/-! ## What is given back -/

/-- The findings are the same, but for the order in which headers are listed. -/
inductive Finding.Agrees : Finding → Finding → Prop
  | same (found : Finding) : Agrees found found
  | headers {list list' : List Header} (perm : list.Perm list') :
      Agrees (.headers list) (.headers list')

theorem Finding.Agrees.of_eq {found found' : Finding} (eq : found = found') :
    found.Agrees found' := eq ▸ .same found

/-- The headers are those that are in the roll. -/
structure Enrolled (hs : Headers) (roll : List Header) : Prop where
  sound : hs.Sound
  perm : hs.toList.Perm roll

theorem Sound.nodup_toList (sound : hs.Sound) : hs.toList.Nodup := by
  refine sound.pairwise.imp fun {h h'} other => ?_
  rintro rfl
  exact other (.refl _)

/-- Headers are in a roll if the roll has what is found under each name. -/
theorem Enrolled.of_find? (sound : hs.Sound) (distinct : roll.Nodup)
    (found : ∀ h : Header, hs.find? h.name = some h ↔ h ∈ roll) : Enrolled hs roll where
  sound := sound
  perm := (List.perm_ext_iff_of_nodup sound.nodup_toList distinct).mpr fun h =>
    sound.mem_toList_iff.trans (found h)

namespace Enrolled

theorem nodup (enrolled : Enrolled hs roll) : roll.Nodup :=
  enrolled.perm.nodup_iff.mp enrolled.sound.nodup_toList

theorem find?_eq_some_iff (enrolled : Enrolled hs roll) (h : Header) :
    hs.find? h.name = some h ↔ h ∈ roll := by
  rw [← enrolled.sound.mem_toList_iff, enrolled.perm.mem_iff]

theorem empty : Enrolled empty [] := ⟨sound_empty, .nil⟩

theorem insert (enrolled : Enrolled hs roll) (name value : String) :
    Enrolled (hs.insert name value) (Roll.enter roll ⟨name, value⟩) := by
  refine .of_find? (enrolled.sound.insert name value) (Roll.nodup_enter enrolled.nodup _) fun h => ?_
  rw [Roll.enter, List.mem_cons, Roll.mem_strike, ← enrolled.find?_eq_some_iff, find?_insert,
    ← sameName_iff_alike]
  split
  · next same =>
    rw [Option.some_inj, or_iff_left fun old => old.2 same, eq_comm]
  · next other =>
    have new : h ≠ ⟨name, value⟩ := by
      rintro rfl
      exact other (.refl _)
    rw [or_iff_right new, and_iff_left other]

theorem erase (enrolled : Enrolled hs roll) (name : String) :
    Enrolled (hs.erase name) (Roll.strike roll name) := by
  refine .of_find? (enrolled.sound.erase name) (Roll.nodup_strike enrolled.nodup _) fun h => ?_
  rw [Roll.mem_strike, ← enrolled.find?_eq_some_iff, find?_erase, ← sameName_iff_alike]
  split
  · next same => simp [same]
  · next other => rw [and_iff_left other]

/-- The roll is searched with the same result. -/
theorem seek_eq (enrolled : Enrolled hs roll) (name : String) :
    Roll.seek roll name = hs.find? name := by
  symm
  cases sought : Roll.seek roll name with
  | none =>
    refine Option.eq_none_iff_forall_ne_some.mpr fun h found => ?_
    obtain ⟨mem, same⟩ := enrolled.sound.find?_eq_some_iff.mp found
    exact List.find?_eq_none.mp sought h (enrolled.perm.mem_iff.mp mem)
      (decide_eq_true (sameName_iff_alike.mp same))
  | some h =>
    have mem := List.mem_of_find?_eq_some sought
    have alike : Alike h.name name := by simpa using List.find?_some sought
    exact enrolled.sound.find?_eq_some_iff.mpr
      ⟨enrolled.perm.mem_iff.mpr mem, sameName_iff_alike.mpr alike⟩

theorem length_eq (enrolled : Enrolled hs roll) : hs.size = roll.length := by
  rw [← enrolled.perm.length_eq, toList, List.length_map, size]

theorem isEmpty_eq (enrolled : Enrolled hs roll) : hs.isEmpty = roll.isEmpty := by
  rw [isEmpty, Bool.eq_iff_iff, List.isEmpty_iff_length_eq_zero, List.isEmpty_iff_length_eq_zero,
    ← enrolled.length_eq, size]

/-- Whatever is done, the headers stay those of the roll and give back what it does. -/
theorem perform (enrolled : Enrolled hs roll) (op : Operation) :
    Enrolled (hs.perform op).1 (Roll.perform roll op).1 ∧
      (hs.perform op).2.Agrees (Roll.perform roll op).2 := by
  have same (name : String) : (Finding.value (hs.get? name)).Agrees
      (.value ((Roll.seek roll name).map Header.value)) := .of_eq (by rw [enrolled.seek_eq, get?])
  cases op with
  | insert name value => exact ⟨enrolled.insert name value, same name⟩
  | erase name => exact ⟨enrolled.erase name, same name⟩
  | get name => exact ⟨enrolled, same name⟩
  | contains name =>
    exact ⟨enrolled, .of_eq (by rw [Headers.perform, Roll.perform, enrolled.seek_eq, contains])⟩
  | size => exact ⟨enrolled, .of_eq (congrArg Finding.count enrolled.length_eq)⟩
  | isEmpty => exact ⟨enrolled, .of_eq (congrArg Finding.truth enrolled.isEmpty_eq)⟩
  | list => exact ⟨enrolled, .headers enrolled.perm⟩

theorem findings (enrolled : Enrolled hs roll) (ops : List Operation) :
    List.Forall₂ Finding.Agrees (findings Headers.perform hs ops)
      (findings Roll.perform roll ops) := by
  induction ops generalizing hs roll with
  | nil => exact .nil
  | cons op rest ih =>
    obtain ⟨next, agrees⟩ := enrolled.perform op
    exact .cons agrees (ih next)

/-- Headers that are written one after the other are entered one after the other. -/
theorem ofList (list : List Header) : Enrolled (ofList list) (Roll.ofList list) := by
  suffices kept : ∀ {hs : Headers} {roll : List Header}, Enrolled hs roll →
      Enrolled (list.foldl (fun acc h => acc.insert h.name h.value) hs)
        (list.foldl Roll.enter roll) from kept empty
  induction list with
  | nil => exact id
  | cons h rest ih => exact fun enrolled => ih (enrolled.insert h.name h.value)

end Enrolled

/-! ## Headers in use -/

/-- How headers fare that were written as in the list and then operated on. -/
structure Faithful (list : List Header) (ops : List Operation) (hs : Headers) : Prop where
  /-- Each operation has given back what it gives back when it is done with the roll. -/
  findings : List.Forall₂ Finding.Agrees (findings perform (ofList list) ops)
    (findings Roll.perform (Roll.ofList list) ops)
  /-- No two headers have the same name. -/
  single : hs.toList.Pairwise fun h h' => ¬ Alike h.name h'.name
  /-- Names with different characters beyond ASCII do not get into each other's way. -/
  apart : ∀ name other value, beyondAscii name ≠ beyondAscii other →
    (hs.insert other value).find? name = hs.find? name ∧
      (hs.erase other).find? name = hs.find? name
  /-- The headers are those that were written last under their names, in this spelling and with
  this value, and have not been taken out since. -/
  last : ∀ h, h ∈ hs.toList ↔ lastWritten (list.map .write ++ ops) h.name = some h
  /-- However the names are listed under which a header is left, each once: there are as many as
  headers. -/
  counted : ∀ names : List String, (names.Pairwise fun a b => ¬ Alike a b) →
    (∀ name, (lastWritten (list.map .write ++ ops) name).isSome ↔ ∃ n ∈ names, Alike n name) →
      hs.size = names.length

theorem run_faithful (list : List Header) (ops : List Operation) :
    Faithful list ops (after perform (ofList list) ops) := by
  have sound := (sound_ofList list).after ops
  constructor
  case findings => exact (Enrolled.ofList list).findings ops
  case single => exact sound.pairwise.imp fun other alike => other (sameName_iff_alike.mpr alike)
  case apart =>
    intro name other value different
    have unlike : ¬ SameName name other := fun same =>
      different (sameName_iff_alike.mp same).beyondAscii_eq
    rw [find?_insert, find?_erase, if_neg unlike, if_neg unlike]
    exact ⟨rfl, rfl⟩
  case last =>
    intro h
    rw [sound.mem_toList_iff, find?_after_ofList]
  case counted =>
    intro names distinct listed
    simp only [← find?_after_ofList] at listed
    exact sound.size_eq distinct listed

/-- Names in two cases, within ASCII and beyond it. -/
example : findings perform (ofList [⟨"X-Type", "created"⟩, ⟨"É", "1"⟩])
      [.insert "x-type" "paid", .get "X-TYPE", .get "é", .erase "é", .size, .list] =
    [.value (some "created"), .value (some "paid"), .value none, .value none, .count 2,
      .headers [⟨"x-type", "paid"⟩, ⟨"É", "1"⟩]] := by
  decide +kernel

end Headers

end TopicConsumer
