import TopicConsumer.Text.Blank
import TopicConsumer.Text.Fold
import TopicConsumer.Text.Numeral
import TopicConsumer.Time.Rfc3339

/-!
# Message headers

Headers are values under names whose ASCII case does not count. They are kept under the folds of
their names, each with the spelling in which it was last written, in the order in which the names
first came.
-/

namespace TopicConsumer

/-- A name as it was written, and the value under it. -/
structure Header where
  name : String
  value : String
  deriving DecidableEq, Inhabited

/-- Headers under the folds of their names. -/
structure Headers where
  entries : List (String × Header)
  deriving DecidableEq, Inhabited

namespace Headers

open Text

/-- No headers. -/
def empty : Headers := ⟨[]⟩

/-- The entries with the one under `key` replaced, or a new one at the end. -/
def replace (key : String) (h : Header) : List (String × Header) → List (String × Header)
  | [] => [(key, h)]
  | (k, old) :: rest => if k = key then (key, h) :: rest else (k, old) :: replace key h rest

/-- The header under a name. -/
def find? (hs : Headers) (name : String) : Option Header := hs.entries.lookup (foldCase name)

/-- The value under a name. -/
def get? (hs : Headers) (name : String) : Option String := (hs.find? name).map Header.value

/-- Writes a value under a name, in this spelling from now on. -/
def insert (hs : Headers) (name value : String) : Headers :=
  ⟨replace (foldCase name) ⟨name, value⟩ hs.entries⟩

/-- Takes the header of a name out. -/
def erase (hs : Headers) (name : String) : Headers :=
  ⟨hs.entries.filter fun e => e.1 != foldCase name⟩

/-- There is a value under the name. -/
def contains (hs : Headers) (name : String) : Bool := (hs.find? name).isSome

/-- The number of names. -/
def size (hs : Headers) : Nat := hs.entries.length

/-- There are no headers. -/
def isEmpty (hs : Headers) : Bool := hs.entries.isEmpty

/-- The headers, each as it was last written. -/
def toList (hs : Headers) : List Header := hs.entries.map Prod.snd

/-- Writes the headers one after the other. -/
def ofList (hs : List Header) : Headers := hs.foldl (fun acc h => acc.insert h.name h.value) empty

/-! ## Operations -/

/-- What can be done with headers. -/
inductive Operation where
  | insert (name value : String)
  | erase (name : String)
  | get (name : String)
  | contains (name : String)
  | size
  | isEmpty
  | list
  deriving DecidableEq

/-- What an operation gives back. -/
inductive Finding where
  | value (value : Option String)
  | truth (holds : Bool)
  | count (n : Nat)
  | headers (headers : List Header)
  deriving DecidableEq

/-- The headers after an operation, and what it gives back. Writing and taking out give back the
value that was under the name. -/
def perform (hs : Headers) : Operation → Headers × Finding
  | .insert name value => (hs.insert name value, .value (hs.get? name))
  | .erase name => (hs.erase name, .value (hs.get? name))
  | .get name => (hs, .value (hs.get? name))
  | .contains name => (hs, .truth (hs.contains name))
  | .size => (hs, .count hs.size)
  | .isEmpty => (hs, .truth hs.isEmpty)
  | .list => (hs, .headers hs.toList)

/-! ## Reading values -/

/-- The integer under a name, read without the blanks around it. -/
def integer? (hs : Headers) (range : NumeralRange) (name : String) : Option Int :=
  (hs.get? name).bind fun v => range.read? (trim v)

/-- The truth value under a name, read without the blanks around it. -/
def bool? (hs : Headers) (name : String) : Option Bool :=
  (hs.get? name).bind fun v =>
    match trim v with
    | "true" => some true
    | "false" => some false
    | _ => none

/-- The text under a name without the blanks around it. -/
def trimmed? (hs : Headers) (name : String) : Option String := (hs.get? name).map trim

/-- The RFC 3339 date-time under a name, read without the blanks around it. -/
def timestamp? (hs : Headers) (name : String) : Option Timestamp :=
  (hs.get? name).bind fun v => Rfc3339.read? (trim v)

/-! ## Names with a meaning -/

/-- When the message was published, in RFC 3339. -/
def publishedAt : String := "X-PublishedAt"

/-- By how many seconds its handling is to be delayed. -/
def delaySeconds : String := "X-DelaySeconds"

end Headers

end TopicConsumer
