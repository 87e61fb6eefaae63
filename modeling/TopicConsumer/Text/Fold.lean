/-!
# Folding the case of a name

Names that are compared "ignoring case" are compared by their fold, in which the twenty-six capital
letters of ASCII are written small and every other character, `É` and `Ω` included, stays as it is.
-/

namespace TopicConsumer.Text

/-- The name with the capital letters of ASCII written small. -/
def foldCase (s : String) : String := String.ofList (s.toList.map Char.toLower)

/-- Two names agree up to ASCII case. -/
def SameName (a b : String) : Prop := foldCase a = foldCase b

instance (a b : String) : Decidable (SameName a b) := inferInstanceAs (Decidable (_ = _))

@[simp] theorem toList_foldCase (s : String) :
    (foldCase s).toList = s.toList.map Char.toLower := by
  simp [foldCase]

theorem SameName.refl (a : String) : SameName a a := rfl

theorem SameName.symm {a b : String} (h : SameName a b) : SameName b a := Eq.symm h

theorem SameName.trans {a b c : String} (h : SameName a b) (h' : SameName b c) : SameName a c :=
  Eq.trans h h'

end TopicConsumer.Text
