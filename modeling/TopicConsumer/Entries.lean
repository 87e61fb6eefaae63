/-!
# Entries under keys

Small maps are lists of keys with their values, in the order in which the keys first came.
-/

namespace TopicConsumer

variable {K α : Type} [DecidableEq K]

/-- The entries with another value under a key, which comes at the end if the key is new. -/
def setEntry (key : K) (value : α) : List (K × α) → List (K × α)
  | [] => [(key, value)]
  | (k, old) :: rest =>
    if k = key then (key, value) :: rest else (k, old) :: setEntry key value rest

/-- The entries of a list in which a later value of a key replaces an earlier one. -/
def entriesOf (pairs : List (K × α)) : List (K × α) :=
  pairs.foldl (fun entries (key, value) => setEntry key value entries) []

theorem lookup_setEntry_self (key : K) (value : α) (entries : List (K × α)) :
    (setEntry key value entries).lookup key = some value := by
  induction entries with
  | nil => simp [setEntry]
  | cons e rest ih =>
    obtain ⟨k, old⟩ := e
    by_cases h : k = key
    · simp [setEntry, h]
    · have h' : (key == k) = false := by simp [Ne.symm h]
      simp [setEntry, h, List.lookup_cons, h', ih]

theorem lookup_setEntry_of_ne {key other : K} (h : other ≠ key) (value : α)
    (entries : List (K × α)) :
    (setEntry key value entries).lookup other = entries.lookup other := by
  have h' : (other == key) = false := by simp [h]
  induction entries with
  | nil => simp [setEntry, List.lookup_cons, h']
  | cons e rest ih =>
    obtain ⟨k, old⟩ := e
    by_cases hk : k = key
    · subst hk
      simp [setEntry, List.lookup_cons, h']
    · simp [setEntry, hk, List.lookup_cons, ih]

/-- The entries of other keys are looked up as before. -/
theorem lookup_filter_ne {key other : K} (h : other ≠ key) (entries : List (K × α)) :
    (entries.filter (·.1 ≠ key)).lookup other = entries.lookup other := by
  induction entries with
  | nil => rfl
  | cons e rest ih =>
    obtain ⟨k, old⟩ := e
    by_cases hk : k = key
    · rw [List.filter_cons_of_neg (by simpa using hk), ih, List.lookup_cons,
        beq_false_of_ne (hk ▸ h)]
    · rw [List.filter_cons_of_pos (by simpa using hk), List.lookup_cons, List.lookup_cons, ih]

theorem lookup_filter_self (key : K) (entries : List (K × α)) :
    (entries.filter (·.1 ≠ key)).lookup key = none := by
  rw [List.lookup_eq_none_iff]
  intro e mem
  have other : e.1 ≠ key := by simpa using (List.mem_filter.mp mem).2
  exact bne_iff_ne.mpr other.symm

/-- Of several values of a key the last one counts. -/
theorem lookup_entriesOf (key : K) (pairs : List (K × α)) :
    (entriesOf pairs).lookup key = pairs.reverse.lookup key := by
  have within : ∀ entries : List (K × α),
      (pairs.foldl (fun entries (k, v) => setEntry k v entries) entries).lookup key =
        (pairs.reverse.lookup key).or (entries.lookup key) := by
    induction pairs with
    | nil => exact fun _ => rfl
    | cons pair rest ih =>
      obtain ⟨k, v⟩ := pair
      intro entries
      rw [List.foldl_cons, ih, List.reverse_cons, List.lookup_append, Option.or_assoc]
      congr 1
      by_cases same : key = k
      · rw [same, lookup_setEntry_self, List.lookup_cons_self]
        rfl
      · rw [lookup_setEntry_of_ne same, List.lookup_cons, beq_false_of_ne same]
        rfl
  exact (within []).trans Option.or_none

/-! ## Entries of different keys -/

variable {key : K} {value : α} {entries : List (K × α)}

/-- Where no two entries have the same key, each is found under its own. -/
theorem lookup_of_mem (distinct : (entries.map Prod.fst).Nodup) (mem : (key, value) ∈ entries) :
    entries.lookup key = some value := by
  induction entries with
  | nil => cases mem
  | cons e rest ih =>
    obtain ⟨k, old⟩ := e
    rw [List.map_cons, List.nodup_cons] at distinct
    rcases List.mem_cons.mp mem with same | later
    · cases same
      exact List.lookup_cons_self
    · have other : key ≠ k := by
        rintro rfl
        exact distinct.1 (List.mem_map.mpr ⟨(key, value), later, rfl⟩)
      rw [List.lookup_cons, beq_false_of_ne other]
      exact ih distinct.2 later

/-- Only the entries themselves are found. -/
theorem mem_of_lookup (found : entries.lookup key = some value) : (key, value) ∈ entries := by
  obtain ⟨before, after, rfl, -⟩ := List.lookup_eq_some_iff.mp found
  exact List.mem_append_right _ List.mem_cons_self

/-- Where no two entries have the same key, it does not matter from which end they are searched. -/
theorem lookup_reverse (distinct : (entries.map Prod.fst).Nodup) (key : K) :
    entries.reverse.lookup key = entries.lookup key := by
  have distinct' : (entries.reverse.map Prod.fst).Nodup := by
    rw [List.map_reverse]
    exact (List.reverse_perm _).nodup_iff.mpr distinct
  ext value
  constructor
  · intro found
    exact lookup_of_mem distinct (List.mem_reverse.mp (mem_of_lookup found))
  · intro found
    exact lookup_of_mem distinct' (List.mem_reverse.mpr (mem_of_lookup found))

/-- A value that is set for a key is its only new entry. -/
theorem mem_setEntry {e : K × α} (mem : e ∈ setEntry key value entries) :
    e = (key, value) ∨ e ∈ entries := by
  induction entries with
  | nil => exact .inl (List.mem_singleton.mp mem)
  | cons first rest ih =>
    obtain ⟨k, old⟩ := first
    rw [setEntry] at mem
    split at mem
    · exact (List.mem_cons.mp mem).imp_right (List.mem_cons_of_mem _)
    · rcases List.mem_cons.mp mem with rfl | later
      · exact .inr List.mem_cons_self
      · exact (ih later).imp_right (List.mem_cons_of_mem _)

/-- A new key comes to stand at the end, and the other keys stay where they are. -/
theorem map_fst_setEntry (key : K) (value : α) (entries : List (K × α)) :
    (setEntry key value entries).map Prod.fst =
      if key ∈ entries.map Prod.fst then entries.map Prod.fst
      else entries.map Prod.fst ++ [key] := by
  induction entries with
  | nil => rfl
  | cons first rest ih =>
    obtain ⟨k, old⟩ := first
    by_cases same : k = key
    · simp [setEntry, same]
    · simp only [setEntry, same, if_false, List.map_cons, ih, List.mem_cons, Ne.symm same, false_or]
      split <;> rfl

theorem nodup_setEntry (distinct : (entries.map Prod.fst).Nodup) :
    ((setEntry key value entries).map Prod.fst).Nodup := by
  rw [map_fst_setEntry]
  split
  · exact distinct
  · next new =>
    rw [List.nodup_append]
    refine ⟨distinct, by simp, fun k old k' mem => ?_⟩
    rw [List.mem_singleton.mp mem]
    exact fun same => new (same ▸ old)

theorem nodup_entriesOf (pairs : List (K × α)) : ((entriesOf pairs).map Prod.fst).Nodup := by
  have kept : ∀ entries : List (K × α), (entries.map Prod.fst).Nodup →
      ((pairs.foldl (fun entries (k, v) => setEntry k v entries) entries).map Prod.fst).Nodup := by
    induction pairs with
    | nil => exact fun _ distinct => distinct
    | cons pair rest ih => exact fun _ distinct => ih _ (nodup_setEntry distinct)
  exact kept [] List.nodup_nil

end TopicConsumer
