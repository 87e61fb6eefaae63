import Mathlib.Data.List.Forall2
import TopicConsumer.Proofs.Consumer.Identity

/-!
# From a configuration to a worker

A configuration is accepted just if it names a cluster and a group that are not blank, its numbers
are numbers, its texts are texts, and the batching under each name is in range
(`ConsumerConfig.Acceptable`). `ConsumerConfig.load_exact` says this, and that the batching of an
accepted configuration is what a subscription gets: the numbers that an entry states, and the
defaults for those that it does not state.
-/

namespace TopicConsumer

/-! ## Reading lists -/

section Reading

variable {ε α β : Type}

theorem bind_eq_ok_iff {x : Except ε α} {f : α → Except ε β} {b : β} :
    x >>= f = .ok b ↔ ∃ a, x = .ok a ∧ f a = .ok b := by
  cases x <;> simp [bind, Except.bind]

/-- A list is read item by item. -/
theorem mapM_eq_ok_iff {f : α → Except ε β} {xs : List α} {ys : List β} :
    xs.mapM f = .ok ys ↔ List.Forall₂ (fun x y => f x = .ok y) xs ys := by
  induction xs generalizing ys with
  | nil =>
    rw [List.mapM_nil, List.forall₂_nil_left_iff]
    exact ⟨fun same => (Except.ok.inj same).symm, fun same => same ▸ rfl⟩
  | cons x xs ih =>
    rw [List.mapM_cons, List.forall₂_cons_left_iff]
    simp only [bind_eq_ok_iff, ih]
    constructor
    · rintro ⟨y, first, ys, rest, same⟩
      exact ⟨y, ys, first, rest, (Except.ok.inj same).symm⟩
    · rintro ⟨y, ys, first, rest, rfl⟩
      exact ⟨y, first, ys, rest, rfl⟩

/-- Entries have something that each of them is related to if every single one has. -/
theorem exists_forall₂_iff {R : α → β → Prop} {xs : List (String × α)} :
    (∃ ys, List.Forall₂ (fun (x : String × α) (y : String × β) => x.1 = y.1 ∧ R x.2 y.2) xs ys) ↔
      ∀ x ∈ xs, ∃ b, R x.2 b := by
  induction xs with
  | nil => simp
  | cons x xs ih =>
    rw [List.forall_mem_cons, ← ih]
    constructor
    · rintro ⟨ys, all⟩
      cases all with
      | cons first rest => exact ⟨⟨_, first.2⟩, _, rest⟩
    · rintro ⟨⟨b, first⟩, ys, rest⟩
      exact ⟨(x.1, b) :: ys, .cons ⟨rfl, first⟩ rest⟩

/-- What stands in one list under a key is related to what stands in the other. -/
theorem rel_lookup {R : α → β → Prop} {xs : List (String × α)} {ys : List (String × β)}
    (all : List.Forall₂ (fun x y => x.1 = y.1 ∧ R x.2 y.2) xs ys) (key : String) :
    Option.Rel R (xs.lookup key) (ys.lookup key) := by
  induction all with
  | nil => exact .none
  | @cons x y xs ys first rest ih =>
    obtain ⟨k, a⟩ := x
    obtain ⟨k', b⟩ := y
    obtain ⟨rfl, related⟩ := first
    rw [List.lookup_cons, List.lookup_cons]
    cases key == k with
    | true => exact .some related
    | false => exact ih

end Reading

/-! ## Nothing is reported as missing -/

/-- The reading does not come to the result that nothing stands under some key. -/
def Definite {α : Type} (x : Except LoadError α) : Prop := ∀ k, x ≠ .error (.notFound k)

namespace Definite

variable {α β : Type} {x : Except LoadError α}

theorem ok (a : α) : Definite (.ok a) := nofun

theorem bind {f : α → Except LoadError β} (first : Definite x) (rest : ∀ a, Definite (f a)) :
    Definite (x >>= f) := by
  cases x with
  | ok a => exact rest a
  | error e =>
    intro k same
    cases same
    exact first k rfl

theorem map (definite : Definite x) (f : α → β) : Definite (x.map f) := by
  cases x with
  | ok a => exact ok (f a)
  | error e =>
    intro k same
    cases same
    exact definite k rfl

theorem mapM {f : α → Except LoadError β} (definite : ∀ a, Definite (f a)) (xs : List α) :
    Definite (xs.mapM f) := by
  induction xs with
  | nil => exact ok []
  | cons x xs ih =>
    rw [List.mapM_cons]
    exact (definite x).bind fun y => ih.bind fun ys => ok (y :: ys)

theorem asNatural (key : String) (v : ConfigValue) : Definite (v.asNatural key) := by
  intro k
  cases v with
  | list | table => simp [ConfigValue.asNatural, ConfigValue.mistyped]
  | leaf o s =>
    cases s with
    | integer n =>
      rw [ConfigValue.asNatural]
      split <;> simp [ConfigValue.mistyped]
    | text s =>
      rw [ConfigValue.asNatural]
      cases Scalar.naturalOfText? s <;> simp [ConfigValue.mistyped]
    | null | bool | natural | float => simp [ConfigValue.asNatural, ConfigValue.mistyped]

theorem asText (key : String) (v : ConfigValue) : Definite (v.asText key) := by
  intro k
  cases v with
  | leaf o s => cases s <;> simp [ConfigValue.asText, Scalar.asText?, ConfigValue.mistyped]
  | list | table => simp [ConfigValue.asText, ConfigValue.mistyped]

theorem asEntries {read : ConfigValue → Except LoadError α} (definite : ∀ v, Definite (read v))
    (key : String) (v : ConfigValue) : Definite (v.asEntries key read) := by
  cases v with
  | leaf | list => exact nofun
  | table o entries => exact mapM (fun e => (definite e.2).map (e.1, ·)) entries

theorem ofValue (key : String) (e : ConfigValue) : Definite (BatchSettings.ofValue key e) := by
  have field : ∀ (stated : Option ConfigValue) (default : Nat),
      Definite (stated.elim (.ok default) (ConfigValue.asNatural key)) := by
    intro stated default
    cases stated with
    | none => exact ok default
    | some v => exact asNatural key v
  have fields : ∀ find, Definite (BatchSettings.ofValue.fields key find) := fun find =>
    (field _ _).bind fun _ => (field _ _).bind fun _ => (field _ _).bind fun _ =>
      (field _ _).bind fun _ => (field _ _).bind fun _ => ok _
  cases e with
  | leaf => exact nofun
  | table o entries => exact fields fun name _ => entries.lookup name
  | list o items => exact fields fun _ place => items[place]?

end Definite

/-! ## Settings under plain keys -/

namespace ConfigValue

variable {α : Type} {root : ConfigValue} {key : String}
  {read : String → ConfigValue → Except LoadError α}

/-- The key is a name, and no longer path. -/
def Plain (key : String) : Prop := ConfigPath.ofText? key = some ⟨key, []⟩

instance (key : String) : Decidable (Plain key) :=
  inferInstanceAs (Decidable (ConfigPath.ofText? key = some ⟨key, []⟩))

theorem get_of_plain (plain : Plain key) :
    root.get key read = (root.entry? key).elim (.error (.notFound key)) (read key) := by
  have found : (⟨key, []⟩ : ConfigPath).get? root = root.entry? key := rfl
  simp only [get, lookUp, show ConfigPath.ofText? key = some ⟨key, []⟩ from plain, found]
  cases root.entry? key <;> rfl

theorem getD_of_plain (plain : Plain key) (definite : ∀ v, Definite (read key v)) (default : α) :
    root.getD key read default = (root.entry? key).elim (.ok default) (read key) := by
  rw [getD, get_of_plain plain]
  cases root.entry? key with
  | none => rfl
  | some v =>
    rw [Option.elim_some, Option.elim_some]
    split
    · next missing => exact absurd missing (definite v _)
    · rfl

/-- What is absent can be left out, and what is there can be read. -/
theorem exists_getD_iff (plain : Plain key) (definite : ∀ v, Definite (read key v)) {default : α} :
    (∃ a, root.getD key read default = .ok a) ↔
      ∀ v, root.entry? key = some v → ∃ a, read key v = .ok a := by
  rw [getD_of_plain plain definite]
  cases root.entry? key with
  | none => exact iff_of_true ⟨default, rfl⟩ nofun
  | some v => simp

/-- A table is read entry by entry. -/
theorem asEntries_eq_ok_iff {read : ConfigValue → Except LoadError α} {v : ConfigValue}
    {l : List (String × α)} : asEntries key read v = .ok l ↔ ∃ o entries, v = .table o entries ∧
      List.Forall₂ (fun e x => e.1 = x.1 ∧ read e.2 = .ok x.2) entries l := by
  cases v with
  | leaf | list => simp [asEntries]
  | table o entries =>
    have each : ∀ (e : String × ConfigValue) (x : String × α),
        (read e.2).map (e.1, ·) = .ok x ↔ e.1 = x.1 ∧ read e.2 = .ok x.2 := by
      rintro ⟨name, v⟩ ⟨name', a⟩
      cases read v <;> simp [Except.map]
    rw [asEntries, mapM_eq_ok_iff]
    simp only [each, table.injEq]
    constructor
    · exact fun all => ⟨o, entries, ⟨rfl, rfl⟩, all⟩
    · rintro ⟨_, _, ⟨rfl, rfl⟩, all⟩
      exact all

theorem exists_asEntries_iff {read : ConfigValue → Except LoadError α} {v : ConfigValue} :
    (∃ l, asEntries key read v = .ok l) ↔
      ∃ o entries, v = .table o entries ∧ ∀ e ∈ entries, ∃ a, read e.2 = .ok a := by
  simp only [asEntries_eq_ok_iff, ← exists_forall₂_iff (R := fun e a => read e = .ok a)]
  constructor
  · exact fun ⟨l, o, entries, same, all⟩ => ⟨o, entries, same, l, all⟩
  · exact fun ⟨o, entries, same, l, all⟩ => ⟨l, o, entries, same, all⟩

end ConfigValue

/-! ## Batching in a configuration -/

namespace BatchSettings

variable {key : String} {e : ConfigValue} {b : BatchSettings}

/-- A field has the number that is stated for it, and its default if none is. -/
structure Carries (key : String) (stated : Option ConfigValue) (default n : Nat) : Prop where
  given : ∀ v, stated = some v → v.asNatural key = .ok n
  missing : stated = none → n = default

/-- What an entry states for a field: in a table under its name, in a list at its place. -/
def stated? : ConfigValue → String → Nat → Option ConfigValue
  | .table _ entries, name, _ => entries.lookup name
  | .list _ items, _, place => items[place]?
  | .leaf .., _, _ => none

/-- An entry of a configuration stands for these settings. -/
structure Stands (key : String) (e : ConfigValue) (b : BatchSettings) : Prop where
  /-- It is a table or a list. -/
  grouped : ∀ o s, e ≠ .leaf o s
  batchSize : Carries key (stated? e "batch_size" 0) 1 b.batchSize
  batchTimeout : Carries key (stated? e "batch_timeout" 1) 10000 b.batchTimeout
  queueCapacity : Carries key (stated? e "queue_capacity" 2) 100 b.queueCapacity
  stopTimeout : Carries key (stated? e "stop_timeout" 3) 1000 b.stopTimeout
  maxRetryDelay : Carries key (stated? e "max_retry_delay" 4) 60000 b.maxRetryDelay

theorem elim_eq_ok_iff {stated : Option ConfigValue} {default n : Nat} :
    stated.elim (.ok default) (ConfigValue.asNatural key) = .ok n ↔
      Carries key stated default n := by
  cases stated with
  | none =>
    exact ⟨fun same => ⟨nofun, fun _ => (Except.ok.inj same).symm⟩,
      fun carries => congrArg Except.ok (carries.missing rfl).symm⟩
  | some v =>
    exact ⟨fun read => ⟨fun _ same => Option.some.inj same ▸ read, nofun⟩,
      fun carries => carries.given v rfl⟩

theorem fields_eq_ok_iff {find : String → Nat → Option ConfigValue} :
    ofValue.fields key find = .ok b ↔
      Carries key (find "batch_size" 0) 1 b.batchSize ∧
      Carries key (find "batch_timeout" 1) 10000 b.batchTimeout ∧
      Carries key (find "queue_capacity" 2) 100 b.queueCapacity ∧
      Carries key (find "stop_timeout" 3) 1000 b.stopTimeout ∧
      Carries key (find "max_retry_delay" 4) 60000 b.maxRetryDelay := by
  simp only [ofValue.fields, bind_eq_ok_iff, elim_eq_ok_iff]
  constructor
  · rintro ⟨_, h0, _, h1, _, h2, _, h3, _, h4, same⟩
    cases same
    exact ⟨h0, h1, h2, h3, h4⟩
  · rintro ⟨h0, h1, h2, h3, h4⟩
    exact ⟨_, h0, _, h1, _, h2, _, h3, _, h4, rfl⟩

theorem ofValue_eq_ok_iff : ofValue key e = .ok b ↔ Stands key e b := by
  cases e with
  | leaf o s => exact iff_of_false nofun fun stands => stands.grouped o s rfl
  | table | list =>
    rw [ofValue, fields_eq_ok_iff]
    exact ⟨fun ⟨h0, h1, h2, h3, h4⟩ => ⟨nofun, h0, h1, h2, h3, h4⟩,
      fun ⟨_, h0, h1, h2, h3, h4⟩ => ⟨h0, h1, h2, h3, h4⟩⟩

theorem tooSmall_eq_nil_iff :
    b.tooSmall = [] ↔ 1 ≤ b.batchSize ∧ 1 ≤ b.queueCapacity ∧ 1 ≤ b.maxRetryDelay := by
  simp [tooSmall]
  omega

end BatchSettings

/-! ## Sections of named batching -/

namespace NamedBatching

variable {root : ConfigValue} {section_ : String} {named : NamedBatching}

/-- An entry of a section is accepted as these settings. -/
structure Accepts (section_ : String) (e : ConfigValue) (b : BatchSettings) : Prop where
  stands : BatchSettings.Stands section_ e b
  batchSize : 1 ≤ b.batchSize
  queueCapacity : 1 ≤ b.queueCapacity
  maxRetryDelay : 1 ≤ b.maxRetryDelay

/-- What is loaded from a section: nothing if there is none, and else what its entries stand for. -/
inductive Loaded (root : ConfigValue) (section_ : String) : List (String × BatchSettings) → Prop
  | absent (none : root.entry? section_ = none) : Loaded root section_ []
  | table {o : Option String} {entries : List (String × ConfigValue)}
      {l : List (String × BatchSettings)} (there : root.entry? section_ = some (.table o entries))
      (all : List.Forall₂ (fun e x => e.1 = x.1 ∧ Accepts section_ e.2 x.2) entries l) :
      Loaded root section_ l

theorem outOfRange?_eq_none_iff :
    named.outOfRange? = none ↔ ∀ x ∈ named.entries, x.2.tooSmall = [] := by
  simp [outOfRange?, List.findSome?_eq_none_iff]

/-- The entries are read, and then all of them have to be in range. -/
theorem load_eq_ok_iff_getD : load root section_ = .ok named ↔
    root.getD section_ (fun key => ConfigValue.asEntries key (BatchSettings.ofValue key)) [] =
      .ok named.entries ∧ ∀ x ∈ named.entries, x.2.tooSmall = [] := by
  rw [← outOfRange?_eq_none_iff, load]
  obtain ⟨l⟩ := named
  cases root.getD section_
    (fun key => ConfigValue.asEntries key (BatchSettings.ofValue key)) [] with
  | error e => simp
  | ok entries =>
    cases small : (⟨entries⟩ : NamedBatching).outOfRange? with
    | none =>
      simp only [small, Except.ok.injEq, mk.injEq]
      exact ⟨fun same => ⟨same, same ▸ small⟩, And.left⟩
    | some fault =>
      simp only [small, reduceCtorEq, Except.ok.injEq, false_iff]
      rintro ⟨rfl, fine⟩
      cases small.symm.trans fine

/-- Whatever the name, the sizes under it are in range. -/
theorem tooSmall_get (loaded : load root section_ = .ok named) (name : String) :
    (named.get name).tooSmall = [] := by
  rw [get]
  cases there : named.entries.lookup name with
  | none => rfl
  | some b => exact (load_eq_ok_iff_getD.mp loaded).2 _ (mem_of_lookup there)

theorem load_eq_ok_iff (plain : ConfigValue.Plain section_) :
    load root section_ = .ok named ↔ Loaded root section_ named.entries := by
  have definite : ∀ v,
      Definite (ConfigValue.asEntries section_ (BatchSettings.ofValue section_) v) :=
    .asEntries (.ofValue section_) section_
  -- an entry is read and in range just if it is accepted
  have accepts : ∀ {entries : List (String × ConfigValue)} {l : List (String × BatchSettings)},
      (List.Forall₂ (fun e x => e.1 = x.1 ∧ BatchSettings.ofValue section_ e.2 = .ok x.2)
          entries l ∧ ∀ x ∈ l, x.2.tooSmall = []) ↔
      List.Forall₂ (fun e x => e.1 = x.1 ∧ Accepts section_ e.2 x.2) entries l := by
    intro entries l
    induction l generalizing entries with
    | nil => simp
    | cons x l ih =>
      simp only [List.forall₂_cons_right_iff, List.forall_mem_cons, ← ih,
        BatchSettings.ofValue_eq_ok_iff, BatchSettings.tooSmall_eq_nil_iff]
      constructor
      · rintro ⟨⟨e, entries, ⟨name, stands⟩, rest, rfl⟩, ⟨size, capacity, delay⟩, fine⟩
        exact ⟨e, entries, ⟨name, stands, size, capacity, delay⟩, ⟨rest, fine⟩, rfl⟩
      · rintro ⟨e, entries, ⟨name, stands, size, capacity, delay⟩, ⟨rest, fine⟩, rfl⟩
        exact ⟨⟨e, entries, ⟨name, stands⟩, rest, rfl⟩, ⟨size, capacity, delay⟩, fine⟩
  rw [load_eq_ok_iff_getD, ConfigValue.getD_of_plain plain definite]
  cases there : root.entry? section_ with
  | none =>
    constructor
    · rintro ⟨same, -⟩
      rw [← Except.ok.inj same]
      exact .absent there
    · intro loaded
      generalize named.entries = l at loaded ⊢
      cases loaded with
      | absent => exact ⟨rfl, by simp⟩
      | table found => cases there.symm.trans found
  | some v =>
    rw [Option.elim_some, ConfigValue.asEntries_eq_ok_iff]
    constructor
    · rintro ⟨⟨o, entries, rfl, all⟩, fine⟩
      exact .table there (accepts.mp ⟨all, fine⟩)
    · intro loaded
      generalize named.entries = l at loaded ⊢
      cases loaded with
      | absent none => cases there.symm.trans none
      | table found all =>
        cases there.symm.trans found
        obtain ⟨all, fine⟩ := accepts.mpr all
        exact ⟨⟨_, _, rfl, all⟩, fine⟩

/-- A section can be loaded if it is a table of acceptable entries. -/
theorem exists_loaded_iff : (∃ l, Loaded root section_ l) ↔ ∀ v, root.entry? section_ = some v →
    ∃ o entries, v = .table o entries ∧ ∀ e ∈ entries, ∃ b, Accepts section_ e.2 b := by
  simp only [← exists_forall₂_iff (R := Accepts section_)]
  constructor
  · rintro ⟨l, loaded⟩ v there
    cases loaded with
    | absent none => cases none.symm.trans there
    | table found all =>
      cases found.symm.trans there
      exact ⟨_, _, rfl, l, all⟩
  · intro each
    cases there : root.entry? section_ with
    | none => exact ⟨[], .absent there⟩
    | some v =>
      obtain ⟨o, entries, rfl, l, all⟩ := each v there
      exact ⟨l, .table there all⟩

/-- Under a name there is what the entry of this name stands for, or the defaults. -/
theorem Loaded.get (loaded : Loaded root section_ named.entries) (name : String) :
    ((root.entry? section_).bind fun v => v.entry? name).elim (named.get name = {})
      (Accepts section_ · (named.get name)) := by
  obtain ⟨l⟩ := named
  rw [NamedBatching.get]
  cases loaded with
  | absent none =>
    rw [none]
    rfl
  | @table o entries _ there all =>
    rw [there]
    have related := rel_lookup all name
    dsimp only [Option.bind_some, ConfigValue.entry?]
    generalize entries.lookup name = e at related ⊢
    generalize l.lookup name = b at related ⊢
    cases related with
    | none => rfl
    | some accepted => exact accepted

end NamedBatching

/-! ## The configuration of a consumer -/

namespace ConsumerConfig

open ConsumerSettings (BuildingCall)

variable {root : ConfigValue} {c : ConsumerConfig} {key : String}

/-- A text stands under the key, and it is not blank. -/
def Names (root : ConfigValue) (key text : String) : Prop :=
  ∃ v, root.entry? key = some v ∧ v.asText key = .ok text ∧ Text.trim text ≠ ""

theorem mapError_eq_ok_iff {ε ε' α : Type} {x : Except ε α} {f : ε → ε'} {a : α} :
    x.mapError f = .ok a ↔ x = .ok a := by
  cases x <;> simp [Except.mapError]

theorem requiredText_eq_ok_iff (plain : ConfigValue.Plain key) {text : String} :
    requiredText root key = .ok text ↔ Names root key text := by
  simp only [requiredText, bind_eq_ok_iff, mapError_eq_ok_iff, ConfigValue.get_of_plain plain,
    ← Text.trim_eq_empty_iff, Names]
  cases root.entry? key with
  | none => simp
  | some v =>
    constructor
    · rintro ⟨t, read, there⟩
      split at there
      · cases there
      · next present =>
        cases there
        exact ⟨v, rfl, read, present⟩
    · rintro ⟨_, ⟨⟩, read, present⟩
      exact ⟨text, read, if_neg present⟩

/-- Everything in a configuration is as it has to be. -/
structure Acceptable (root : ConfigValue) : Prop where
  bootstrap : ∃ text, Names root "bootstrap" text
  group : ∃ text, Names root "group" text
  pollTimeout : ∀ v, root.entry? "poll_timeout" = some v →
    ∃ n, v.asNatural "poll_timeout" = .ok n
  subscriptions : ∀ v, root.entry? "subscriptions" = some v → ∃ o entries, v = .table o entries ∧
    ∀ e ∈ entries, ∃ b, NamedBatching.Accepts "subscriptions" e.2 b
  client : ∀ v, root.entry? "cc" = some v → ∃ o entries, v = .table o entries ∧
    ∀ e ∈ entries, ∃ text, e.2.asText "cc" = .ok text

/-- The keys under which a consumer is configured. -/
theorem plain_keys : ∀ key ∈ ["bootstrap", "group", "poll_timeout", "subscriptions", "cc"],
    ConfigValue.Plain key := by
  decide +kernel

/-- The parts of a configuration are loaded one after the other. -/
theorem load_eq_ok_iff : load root = .ok c ↔ Names root "bootstrap" c.bootstrap ∧
    Names root "group" c.group ∧
    root.getD "poll_timeout" ConfigValue.asNatural defaultPollTimeout = .ok c.pollTimeout ∧
    NamedBatching.Loaded root "subscriptions" c.subscriptions.entries ∧
    root.getD "cc" (fun key => ConfigValue.asEntries key (ConfigValue.asText key)) [] =
      .ok c.client := by
  simp only [load, bind_eq_ok_iff, mapError_eq_ok_iff,
    requiredText_eq_ok_iff (plain_keys "bootstrap" (by simp)),
    requiredText_eq_ok_iff (plain_keys "group" (by simp)),
    NamedBatching.load_eq_ok_iff (plain_keys "subscriptions" (by simp))]
  constructor
  · rintro ⟨_, bootstrap, _, group, _, poll, _, named, _, client, same⟩
    cases same
    exact ⟨bootstrap, group, poll, named, client⟩
  · rintro ⟨bootstrap, group, poll, named, client⟩
    exact ⟨_, bootstrap, _, group, _, poll, _, named, _, client, rfl⟩

theorem exists_load_iff : (∃ c, load root = .ok c) ↔ Acceptable root := by
  have poll : (∃ n, root.getD "poll_timeout" ConfigValue.asNatural defaultPollTimeout = .ok n) ↔
      _ :=
    ConfigValue.exists_getD_iff (plain_keys "poll_timeout" (by simp)) (.asNatural "poll_timeout")
  have client : (∃ l, root.getD "cc" (fun key => ConfigValue.asEntries key (ConfigValue.asText key))
      [] = .ok l) ↔ _ :=
    ConfigValue.exists_getD_iff (plain_keys "cc" (by simp)) (.asEntries (.asText "cc") "cc")
  simp only [ConfigValue.exists_asEntries_iff] at client
  constructor
  · rintro ⟨c, loaded⟩
    obtain ⟨bootstrap, group, pollTimeout, named, texts⟩ := load_eq_ok_iff.mp loaded
    exact ⟨⟨_, bootstrap⟩, ⟨_, group⟩, poll.mp ⟨_, pollTimeout⟩,
      NamedBatching.exists_loaded_iff.mp ⟨_, named⟩, client.mp ⟨_, texts⟩⟩
  · rintro ⟨⟨_, bootstrap⟩, ⟨_, group⟩, pollTimeout, named, texts⟩
    obtain ⟨_, pollTimeout⟩ := poll.mpr pollTimeout
    obtain ⟨_, named⟩ := NamedBatching.exists_loaded_iff.mpr named
    obtain ⟨_, texts⟩ := client.mpr texts
    exact ⟨⟨_, _, _, ⟨_⟩, _⟩, load_eq_ok_iff.mpr ⟨bootstrap, group, pollTimeout, named, texts⟩⟩

/-- What becomes of an accepted configuration, whatever else is built on it. -/
structure Reaches (root : ConfigValue) (c : ConsumerConfig) (A : Dialogue) : Prop where
  /-- Nothing is found wrong with the address or the group. -/
  settled : ∀ calls : List (BuildingCall A),
    ((ConsumerSettings.ofConfig c).after calls).validate ≠
        .error (.config (.invalid "'bootstrap'不能为空")) ∧
      ((ConsumerSettings.ofConfig c).after calls).validate ≠
        .error (.config (.invalid "'group'不能为空"))
  /-- A subscription that is batched as a name says gets what the entry of this name states, and the
  defaults for what it does not state or if there is no such entry. Nothing else of it changes. -/
  batched : ∀ (calls : List (BuildingCall A)) (name : String) (sub : Subscription A),
    ∃ b, (((ConsumerSettings.ofConfig c).after calls).subscribeNamed name sub).subscriptions =
        ((ConsumerSettings.ofConfig c).after calls).subscriptions ++ [{ sub with batching := b }] ∧
      ((root.entry? "subscriptions").bind fun v => v.entry? name).elim
        (b = ⟨1, 10000, 100, 1000, 60000⟩) (NamedBatching.Accepts "subscriptions" · b)

theorem reaches_of_load {A : Dialogue} (loaded : load root = .ok c) : Reaches root c A := by
  obtain ⟨⟨-, -, -, bootstrap⟩, ⟨-, -, -, group⟩, -, named, -⟩ := load_eq_ok_iff.mp loaded
  constructor
  case settled =>
    intro calls
    obtain ⟨same, same', -⟩ := (ConsumerSettings.ofConfig (A := A) c).after_kept calls
    apply ConsumerSettings.validate_ne_of_present
    · rw [same]
      exact bootstrap
    · rw [same']
      exact group
  case batched =>
    intro calls name sub
    have names := ((ConsumerSettings.ofConfig (A := A) c).after_kept calls).2.2
    have fits : (c.subscriptions.get name).tooSmall = [] :=
      NamedBatching.tooSmall_get
        ((NamedBatching.load_eq_ok_iff (plain_keys "subscriptions" (by simp))).mpr named) name
    refine ⟨c.subscriptions.get name, ?_, named.get name⟩
    rw [ConsumerSettings.subscribeNamed, names, Subscription.withBatching]
    -- the sizes are in range already, so that they stay as they are
    exact congrArg (fun b => _ ++ [{ sub with batching := b }])
      (BatchSettings.clamped_of_tooSmall_eq_nil fits)

theorem load_exact (root : ConfigValue) :
    ((∃ c, load root = .ok c) ↔ Acceptable root) ∧
      ∀ c, load root = .ok c → ∀ A, Reaches root c A :=
  ⟨exists_load_iff, fun _ loaded _ => reaches_of_load loaded⟩

/-- A configuration with two names: the entry of the first one is a table that states two numbers,
one of them as a text, and that of the second one is a list that states one. -/
def stocked : ConfigValue :=
  .table none [
    ("bootstrap", .leaf none (.text "localhost:9092")),
    ("group", .leaf none (.text "orders")),
    ("subscriptions", .table none [
      ("orders", .table none [
        ("batch_size", .leaf none (.integer 50)), ("batch_timeout", .leaf none (.text "200"))]),
      ("refunds", .list none [.leaf none (.natural 7)])])]

theorem stocked_exact :
    ∃ c, load stocked = .ok c ∧ Acceptable stocked ∧ (∀ A, Reaches stocked c A) ∧
      c.subscriptions.get "orders" = ⟨50, 200, 100, 1000, 60000⟩ ∧
      c.subscriptions.get "refunds" = ⟨7, 10000, 100, 1000, 60000⟩ ∧
      c.subscriptions.get "stock" = ⟨1, 10000, 100, 1000, 60000⟩ := by
  let named : NamedBatching :=
    ⟨[("orders", ⟨50, 200, 100, 1000, 60000⟩), ("refunds", ⟨7, 10000, 100, 1000, 60000⟩)]⟩
  have loaded : load stocked = .ok ⟨"localhost:9092", "orders", 100, named, []⟩ := by
    decide +kernel
  have law := load_exact stocked
  refine ⟨_, loaded, law.1.mp ⟨_, loaded⟩, law.2 _ loaded, ?_⟩
  decide +kernel

end ConsumerConfig

end TopicConsumer
