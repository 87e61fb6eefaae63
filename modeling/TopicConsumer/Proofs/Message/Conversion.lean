import TopicConsumer.Message.Basic
import TopicConsumer.Proofs.Message.Headers
import TopicConsumer.Proofs.Text.Spelling
import TopicConsumer.Proofs.Time.Years

/-!
# From records to messages

What a message has under a name is decoded from one header of its record: of those that have a value
and this name, however it is spelled, the last one. Its time is that of the record, to the
nanosecond, wherever this time has a date that can be written. `toMessage_converts` says so, and
what becomes of the rest of a record.
-/

namespace TopicConsumer.Record

open Text

variable {r : Record} {headers : List (String × Option Bytes)} {name : String}

/-! ## Headers of a record -/

/-- Of the headers that have a value and this name, the last one has this value. -/
def LastValued (headers : List (String × Option Bytes)) (name : String) (value : Bytes) : Prop :=
  ∃ before spelling after, headers = before ++ (spelling, some value) :: after ∧
    Alike spelling name ∧ ∀ e ∈ after, Alike e.1 name → e.2 = none

/-- The value of a header, if it has one and this name. -/
def valueUnder? (name : String) (e : String × Option Bytes) : Option Bytes :=
  if Alike e.1 name then e.2 else none

theorem valueUnder?_eq_some_iff {e : String × Option Bytes} {value : Bytes} :
    valueUnder? name e = some value ↔ Alike e.1 name ∧ e.2 = some value := by
  rw [valueUnder?, Option.ite_none_right_eq_some]

theorem valueUnder?_eq_none_iff {e : String × Option Bytes} :
    valueUnder? name e = none ↔ (Alike e.1 name → e.2 = none) := by
  rw [valueUnder?]
  split
  · next alike => simp only [alike, true_imp_iff]
  · next other => simp only [other, false_imp_iff]

theorem lastValued_iff {value : Bytes} :
    LastValued headers name value ↔ headers.reverse.findSome? (valueUnder? name) = some value := by
  rw [List.findSome?_eq_some_iff]
  constructor
  · rintro ⟨before, spelling, after, rfl, alike, later⟩
    refine ⟨after.reverse, (spelling, some value), before.reverse, by simp,
      valueUnder?_eq_some_iff.mpr ⟨alike, rfl⟩, fun e mem => ?_⟩
    exact valueUnder?_eq_none_iff.mpr (later e (List.mem_reverse.mp mem))
  · rintro ⟨after, ⟨spelling, value'⟩, before, split, found, later⟩
    obtain ⟨alike, rfl⟩ := valueUnder?_eq_some_iff.mp found
    refine ⟨before.reverse, spelling, after.reverse, ?_, alike, fun e mem => ?_⟩
    · simpa using congrArg List.reverse split
    · exact valueUnder?_eq_none_iff.mp (later e (List.mem_reverse.mp mem))

/-- The header of the message, if the header of the record has a value. -/
def decoded? (e : String × Option Bytes) : Option Header :=
  e.2.map fun value => ⟨e.1, decodeLossy value⟩

/-- What is written into headers is found in them as the last value of a name, decoded. -/
theorem get?_foldl_decoded (headers : List (String × Option Bytes)) (hs : Headers) (name : String) :
    ((headers.filterMap decoded?).foldl (fun acc h => acc.insert h.name h.value) hs).get? name =
      ((headers.reverse.findSome? (valueUnder? name)).map decodeLossy).or (hs.get? name) := by
  induction headers generalizing hs with
  | nil => rfl
  | cons e rest ih =>
    obtain ⟨spelling, value⟩ := e
    rw [List.reverse_cons, List.findSome?_append, List.findSome?_singleton]
    cases value with
    | none =>
      have silent : valueUnder? name (spelling, none) = none :=
        valueUnder?_eq_none_iff.mpr fun _ => rfl
      rw [List.filterMap_cons_none rfl, ih, silent, Option.or_none]
    | some value =>
      have decoded : decoded? (spelling, some value) = some ⟨spelling, decodeLossy value⟩ := rfl
      rw [List.filterMap_cons_some decoded, List.foldl_cons, ih, Headers.get?_insert, valueUnder?,
        Option.map_or, Option.or_assoc]
      congr 1
      by_cases alike : Alike spelling name
      · rw [if_pos (sameName_iff_alike.mpr alike).symm, if_pos alike]
        rfl
      · have other : ¬ SameName name spelling := fun same => alike (sameName_iff_alike.mp same.symm)
        rw [if_neg other, if_neg alike]
        rfl

/-- What is found under a name has been decoded from the last value under it. -/
theorem get?_toMessage (r : Record) (name : String) :
    r.toMessage.headers.get? name =
      (r.headers.reverse.findSome? (valueUnder? name)).map decodeLossy :=
  (get?_foldl_decoded r.headers .empty name).trans Option.or_none

theorem get?_toMessage_eq_some_iff {text : String} :
    r.toMessage.headers.get? name = some text ↔
      ∃ value, LastValued r.headers name value ∧ decodeLossy value = text := by
  simp only [get?_toMessage, Option.map_eq_some_iff, lastValued_iff]

theorem get?_toMessage_eq_none_iff :
    r.toMessage.headers.get? name = none ↔ ∀ e ∈ r.headers, Alike e.1 name → e.2 = none := by
  simp only [get?_toMessage, Option.map_eq_none_iff, List.findSome?_eq_none_iff, List.mem_reverse,
    valueUnder?_eq_none_iff]

/-- A header without a value may as well not be there. -/
theorem toMessage_of_valueless {before after : List (String × Option Bytes)}
    (split : r.headers = before ++ (name, none) :: after) :
    r.toMessage = { r with headers := before ++ after }.toMessage := by
  have valued : r.valuedHeaders = { r with headers := before ++ after }.valuedHeaders := by
    simp [valuedHeaders, split]
  rw [toMessage, toMessage, valued]
  rfl

/-! ## The time of a record -/

theorem localNanos_ofMillis (ms : Int) :
    ms * nanosPerMilli + 0 * nanosPerSecond = ms * 1000000 := by
  unfold nanosPerMilli
  omega

/-- Where the date can be written, milliseconds become nanoseconds. -/
theorem ofMillis?_of_inYears {ms : Int} (within : InYears (ms * 1000000)) :
    ∃ time, Timestamp.ofMillis? ms = some time ∧ time.nanos = ms * 1000000 ∧ time.offset = 0 := by
  have fits : RepresentableLocal (ms * nanosPerMilli + 0 * nanosPerSecond) := by
    rw [localNanos_ofMillis]
    exact (representableLocal_iff_inYears _).mpr within
  exact ⟨_, dif_pos fits, rfl, rfl⟩

theorem ofMillis?_of_not_inYears {ms : Int} (outside : ¬ InYears (ms * 1000000)) :
    Timestamp.ofMillis? ms = none := by
  refine dif_neg fun fits => outside ?_
  rw [localNanos_ofMillis] at fits
  exact (representableLocal_iff_inYears _).mp fits

/-- The range of whole numbers of 128 bits. -/
def int128 : NumeralRange :=
  ⟨-170141183460469231731687303715884105728, 170141183460469231731687303715884105727⟩

/-! ## The message of a record -/

/-- What a message has of its record. -/
structure Converts (r : Record) (m : Message) : Prop where
  partition : m.partition = r.partition
  offset : m.offset = r.offset
  key : m.key = r.key.map decodeLossy
  body : m.body = r.payload.getD []
  /-- What is found under a name is the last value under it, decoded. -/
  valued : ∀ name text, m.headers.get? name = some text ↔
    ∃ value, LastValued r.headers name value ∧ decodeLossy value = text
  /-- Nothing is found just if there is no value under the name. -/
  missing : ∀ name, m.headers.get? name = none ↔ ∀ e ∈ r.headers, Alike e.1 name → e.2 = none
  /-- A header without a value neither adds nor removes anything. -/
  valueless : ∀ before name after, r.headers = before ++ (name, none) :: after →
    m = { r with headers := before ++ after }.toMessage
  /-- The time is that of the record, to the nanosecond and in UTC. -/
  exactly : ∀ ms, r.timestamp = some ms → InYears (ms * 1000000) →
    m.timestamp.nanos = ms * 1000000 ∧ m.timestamp.offset = 0
  /-- Without a time, or with one that cannot be written, it is the epoch. -/
  otherwise : (∀ ms, r.timestamp = some ms → ¬ InYears (ms * 1000000)) → m.timestamp = .epoch
  /-- Milliseconds that are told in 64 bits are nanoseconds that can be told in 128 bits. -/
  bounded : ∀ ms, r.timestamp = some ms → NumeralRange.int64.contains ms →
    int128.contains (ms * 1000000)

theorem toMessage_converts (r : Record) : Converts r r.toMessage where
  partition := rfl
  offset := rfl
  key := rfl
  body := rfl
  valued _ _ := get?_toMessage_eq_some_iff
  missing _ := get?_toMessage_eq_none_iff
  valueless _ _ _ := toMessage_of_valueless
  exactly ms timed within := by
    obtain ⟨time, read, nanos, offset⟩ := ofMillis?_of_inYears within
    have eq : r.time = time := by rw [Record.time, timed, Option.bind_some, read]; rfl
    exact ⟨(congrArg Timestamp.nanos eq).trans nanos, (congrArg Timestamp.offset eq).trans offset⟩
  otherwise untimed := by
    have none : r.timestamp.bind Timestamp.ofMillis? = none := by
      rw [Option.bind_eq_none_iff]
      exact fun ms timed => ofMillis?_of_not_inYears (untimed ms timed)
    show r.time = .epoch
    rw [Record.time, none]
    rfl
  bounded ms _ inRange := by
    simp only [NumeralRange.contains, Bool.and_eq_true, decide_eq_true_iff] at inRange ⊢
    have least : -9223372036854775808 ≤ ms := inRange.1
    have greatest : ms ≤ 9223372036854775807 := inRange.2
    simp only [int128]
    omega

end TopicConsumer.Record
