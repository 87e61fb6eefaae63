import TopicConsumer.Entries
import TopicConsumer.Message.Headers

/-!
# What headers bear

Headers are sound if each is kept under the fold of its name and no two under the same. Whatever is
written and taken out keeps them so, and what sound headers give for a name is the value of the one
header whose name agrees with it up to ASCII case.
-/

namespace TopicConsumer.Headers

open Text

variable {hs : Headers} {name value : String}

/-- Every header is kept under the fold of its name, and no two under the same. -/
structure Sound (hs : Headers) : Prop where
  folded : ∀ e ∈ hs.entries, e.1 = foldCase e.2.name
  distinct : (hs.entries.map Prod.fst).Nodup

/-- There is a header of this name, up to ASCII case, and it has this value. -/
def Bears (hs : Headers) (name value : String) : Prop :=
  ∃ h ∈ hs.toList, SameName h.name name ∧ h.value = value

/-! ## Writing and taking out -/

theorem replace_eq_setEntry (key : String) (h : Header) (entries : List (String × Header)) :
    replace key h entries = setEntry key h entries := by
  induction entries with
  | nil => rfl
  | cons e rest ih => rw [replace, setEntry, ih]

theorem sound_empty : empty.Sound := ⟨by simp [empty], by simp [empty]⟩

theorem Sound.insert (sound : hs.Sound) (name value : String) : (hs.insert name value).Sound where
  folded e mem := by
    rw [Headers.insert, replace_eq_setEntry] at mem
    rcases mem_setEntry mem with rfl | old
    · rfl
    · exact sound.folded e old
  distinct := by
    rw [Headers.insert, replace_eq_setEntry]
    exact nodup_setEntry sound.distinct

theorem Sound.erase (sound : hs.Sound) (name : String) : (hs.erase name).Sound where
  folded e mem := sound.folded e (List.mem_filter.mp mem).1
  distinct := sound.distinct.sublist (List.filter_sublist.map Prod.fst)

/-- Headers that are written one after the other are sound. -/
theorem sound_ofList (list : List Header) : (ofList list).Sound := by
  suffices kept : ∀ hs : Headers, hs.Sound →
      (list.foldl (fun acc h => acc.insert h.name h.value) hs).Sound from kept empty sound_empty
  induction list with
  | nil => exact fun _ sound => sound
  | cons h rest ih => exact fun hs sound => ih _ (sound.insert h.name h.value)

/-! ## Looking up -/

/-- What was written under a name is found under every spelling of it. -/
theorem find?_insert (hs : Headers) (name value other : String) :
    (hs.insert name value).find? other =
      if SameName other name then some ⟨name, value⟩ else hs.find? other := by
  rw [find?, insert, replace_eq_setEntry]
  split
  · next same => rw [show foldCase other = foldCase name from same, lookup_setEntry_self]
  · next different => rw [lookup_setEntry_of_ne different, find?]

/-- What was taken out under a name is found under no spelling of it. -/
theorem find?_erase (hs : Headers) (name other : String) :
    (hs.erase name).find? other = if SameName other name then none else hs.find? other := by
  have rest : (hs.erase name).entries = hs.entries.filter (·.1 ≠ foldCase name) :=
    List.filter_congr fun e _ => by rw [Bool.eq_iff_iff, bne_iff_ne, decide_eq_true_iff]
  rw [find?, rest]
  split
  · next same => rw [show foldCase other = foldCase name from same, lookup_filter_self]
  · next different => rw [lookup_filter_ne different, find?]

theorem get?_insert (hs : Headers) (name value other : String) :
    (hs.insert name value).get? other =
      if SameName other name then some value else hs.get? other := by
  rw [get?, find?_insert]
  split <;> rfl

/-- What is found under a name is the header of this name. -/
theorem Sound.find?_eq_some_iff (sound : hs.Sound) {h : Header} :
    hs.find? name = some h ↔ h ∈ hs.toList ∧ SameName h.name name := by
  constructor
  · intro found
    have mem := mem_of_lookup found
    have same : foldCase name = foldCase h.name := sound.folded _ mem
    exact ⟨List.mem_map_of_mem mem, same.symm⟩
  · rintro ⟨mem, same⟩
    obtain ⟨⟨key, header⟩, entry, rfl⟩ := List.mem_map.mp mem
    obtain rfl : key = foldCase name := (sound.folded _ entry).trans same
    exact lookup_of_mem sound.distinct entry

/-- What is found under a name is what the header that bears it has. -/
theorem Sound.get?_eq_some_iff (sound : hs.Sound) :
    hs.get? name = some value ↔ hs.Bears name value := by
  simp only [get?, Option.map_eq_some_iff, sound.find?_eq_some_iff, Bears, and_assoc]

/-- Every header is the one that is found under its name. -/
theorem Sound.mem_toList_iff (sound : hs.Sound) {h : Header} :
    h ∈ hs.toList ↔ hs.find? h.name = some h := by
  rw [sound.find?_eq_some_iff]
  exact (and_iff_left (SameName.refl _)).symm

/-- No two headers have the same name. -/
theorem Sound.pairwise (sound : hs.Sound) :
    hs.toList.Pairwise fun h h' => ¬ SameName h.name h'.name := by
  rw [toList, List.pairwise_map]
  refine (List.pairwise_map.mp sound.distinct).imp_of_mem fun {e e'} mem mem' distinct same => ?_
  have folds : foldCase e.2.name = foldCase e'.2.name := same
  exact distinct ((sound.folded e mem).trans (folds.trans (sound.folded e' mem').symm))

end TopicConsumer.Headers
