import Mathlib.Data.List.Forall2
import TopicConsumer.Text.Fold

/-!
# Spellings of a name

Two texts spell one name if they agree character by character, where a capital letter of ASCII and
the small letter that goes with it count as the same and no other two characters do.
`sameName_iff_alike` says that these are the texts that have the same fold, and
`Alike.beyondAscii_eq` that nothing but letters of ASCII may differ between them.
-/

namespace TopicConsumer.Text

variable {a b : String} {c d : Char}

/-- The first is a capital letter of ASCII, and the second is the same letter written small. -/
def IsCapitalOf (c d : Char) : Prop := 'A' ≤ c ∧ c ≤ 'Z' ∧ d.toNat = c.toNat + 32

/-- The characters are the same, or one letter of ASCII in its two forms. -/
def SameLetter (c d : Char) : Prop := c = d ∨ IsCapitalOf c d ∨ IsCapitalOf d c

/-- The texts spell one name. -/
def Alike (a b : String) : Prop := List.Forall₂ SameLetter a.toList b.toList

/-- The characters of a text that ASCII does not have. -/
def beyondAscii (s : String) : List Char := s.toList.filter (128 ≤ ·.toNat)

theorem isCapitalOf_iff :
    IsCapitalOf c d ↔ 65 ≤ c.toNat ∧ c.toNat ≤ 90 ∧ d.toNat = c.toNat + 32 := Iff.rfl

/-! ## Agreeing folds -/

theorem toNat_toLower (c : Char) :
    c.toLower.toNat = if 65 ≤ c.toNat ∧ c.toNat ≤ 90 then c.toNat + 32 else c.toNat := by
  by_cases capital : 65 ≤ c.toNat ∧ c.toNat ≤ 90
  · have lower : c.toLower = _ := dif_pos (show c.val ≥ 'A'.val ∧ c.val ≤ 'Z'.val from capital)
    rw [if_pos capital, lower]
    change (c.toNat + 32) % 4294967296 = c.toNat + 32
    omega
  · have same : c.toLower = c := dif_neg (show ¬ (c.val ≥ 'A'.val ∧ c.val ≤ 'Z'.val) from capital)
    rw [if_neg capital, same]

/-- Two characters have the same fold just if they are the same letter. -/
theorem toLower_eq_iff : c.toLower = d.toLower ↔ SameLetter c d := by
  simp only [SameLetter, isCapitalOf_iff, ← Char.toNat_inj, toNat_toLower]
  split <;> split <;> omega

theorem sameName_iff_alike : SameName a b ↔ Alike a b := by
  rw [SameName, ← String.toList_inj, toList_foldCase, toList_foldCase, ← List.forall₂_eq_eq_eq,
    List.forall₂_map_left_iff, List.forall₂_map_right_iff]
  exact ⟨fun h => h.imp fun _ _ => toLower_eq_iff.mp, fun h => h.imp fun _ _ => toLower_eq_iff.mpr⟩

instance (a b : String) : Decidable (Alike a b) := decidable_of_iff _ sameName_iff_alike

theorem Alike.refl (a : String) : Alike a a := sameName_iff_alike.mp (.refl a)

/-! ## What may differ -/

/-- Only letters of ASCII have two forms. -/
theorem SameLetter.beyondAscii_iff (same : SameLetter c d) : 128 ≤ c.toNat ↔ 128 ≤ d.toNat := by
  rw [SameLetter, isCapitalOf_iff, isCapitalOf_iff, ← Char.toNat_inj] at same
  omega

theorem SameLetter.eq_of_beyondAscii (same : SameLetter c d) (beyond : 128 ≤ c.toNat) : c = d := by
  rw [SameLetter, isCapitalOf_iff, isCapitalOf_iff] at same
  exact same.resolve_right (by omega)

/-- Two spellings of a name have the same characters beyond ASCII. -/
theorem Alike.beyondAscii_eq (alike : Alike a b) : beyondAscii a = beyondAscii b := by
  unfold Alike at alike
  unfold beyondAscii
  generalize a.toList = cs, b.toList = ds at alike
  induction alike with
  | nil => rfl
  | @cons c d cs ds same _ ih =>
    by_cases beyond : 128 ≤ c.toNat
    · obtain rfl := same.eq_of_beyondAscii beyond
      rw [List.filter_cons_of_pos (by simpa using beyond),
        List.filter_cons_of_pos (by simpa using beyond), ih]
    · have within : ¬ 128 ≤ d.toNat := same.beyondAscii_iff.not.mp beyond
      rw [List.filter_cons_of_neg (by simpa using beyond),
        List.filter_cons_of_neg (by simpa using within), ih]

end TopicConsumer.Text
