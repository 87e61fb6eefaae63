import TopicConsumer.Config.Value
import TopicConsumer.Text.Numeral

/-!
# Paths into a configuration

A path is a name followed by names behind points and indices in brackets. Indices count from the
front, or from the end if they are negative. `get?` looks up what a path leads to. `set` puts a
value there and makes the tables and lists on the way; a table is merged into the table that it
meets.
-/

namespace TopicConsumer

/-- A step behind the first name of a path. -/
inductive PathStep where
  | key (name : String)
  | index (n : Int)
  deriving DecidableEq

/-- A path into a configuration. -/
structure ConfigPath where
  root : String
  steps : List PathStep
  deriving DecidableEq

namespace ConfigPath

/-- The characters of the names in a path. -/
def isNameChar (c : Char) : Bool := c.isAlphanum || c == '_' || c == '-'

/-- Reads the inside of brackets: a whole number, blanks allowed around it. -/
def index? (cs : List Char) : Option (Int × List Char) :=
  let cs := cs.dropWhile fun c => c == ' ' || c == '\t'
  let (sign, rest) := match cs with
    | '-' :: rest => (['-'], rest)
    | rest => ([], rest)
  let digits := rest.takeWhile Char.isDigit
  match Text.NumeralRange.int64.readChars? (sign ++ digits),
      (rest.dropWhile Char.isDigit).dropWhile fun c => c == ' ' || c == '\t' with
  | some n, ']' :: rest => some (n, rest)
  | _, _ => none

/-- Reads the steps of a path. The fuel is the number of characters. -/
def steps? : Nat → List Char → Option (List PathStep)
  | _, [] => some []
  | 0, _ => none
  | fuel + 1, '.' :: cs =>
    let name := cs.takeWhile isNameChar
    if name.isEmpty then none
    else (steps? fuel (cs.dropWhile isNameChar)).map (.key (String.ofList name) :: ·)
  | fuel + 1, '[' :: cs =>
    (index? cs).bind fun (n, rest) => (steps? fuel rest).map (.index n :: ·)
  | _ + 1, _ => none

/-- The path that a text writes. -/
def ofText? (s : String) : Option ConfigPath :=
  let cs := s.toList
  let name := cs.takeWhile isNameChar
  if name.isEmpty then none
  else (steps? cs.length (cs.dropWhile isNameChar)).map (⟨String.ofList name, ·⟩)

/-- Where an index points in a list, if it does not point in front of it. -/
def absolute (n : Int) (length : Nat) : Option Nat :=
  if 0 ≤ n then some n.toNat
  else if n.natAbs ≤ length then some (length - n.natAbs)
  else none

/-- What one step leads to. -/
def stepInto (v : ConfigValue) : PathStep → Option ConfigValue
  | .key name => v.entry? name
  | .index n =>
    match v with
    | .list _ items => (absolute n items.length).bind (items[·]?)
    | _ => none

/-- What the path leads to. -/
def get? (p : ConfigPath) (root : ConfigValue) : Option ConfigValue :=
  p.steps.foldl (fun v step => v.bind (stepInto · step)) (root.entry? p.root)

end ConfigPath

namespace ConfigValue

/-- Origin and entries of a table; anything else counts as a table without entries. -/
def asTable : ConfigValue → Option String × List (String × ConfigValue)
  | .table origin entries => (origin, entries)
  | _ => (none, [])

/-- The items of a list; anything else counts as a list without items. -/
def asList : ConfigValue → Option String × List ConfigValue
  | .list origin items => (origin, items)
  | _ => (none, [])

mutual

/-- Puts a value in the place of another. A table is put there entry by entry, so that it merges
with the table that it meets, and what is no table gives way to one; anything else replaces what
stood there. -/
def put (target : ConfigValue) : ConfigValue → ConfigValue
  | .table _ incoming =>
    let (origin, entries) := asTable target
    putEntries (.table origin entries) incoming
  | .leaf origin value => .leaf origin value
  | .list origin items => .list origin items

/-- Puts entries into a table. -/
def putEntries (target : ConfigValue) : List (String × ConfigValue) → ConfigValue
  | [] => target
  | (key, value) :: rest =>
    let (origin, entries) := asTable target
    let place := (entries.lookup key).getD unset
    putEntries (.table origin (setEntry key (put place value) entries)) rest

end

end ConfigValue

namespace ConfigPath

/-- A list that has the place of an index, which may need items in front of or behind it, and the
place counted from the front. -/
def widened (items : List ConfigValue) (n : Int) : List ConfigValue × Nat :=
  match absolute n items.length with
  | some place => (items ++ List.replicate (place + 1 - items.length) .unset, place)
  | none => (List.replicate (n.natAbs - items.length) .unset ++ items, 0)

/-- Changes what the steps lead to, making the tables and lists on the way. -/
def modifyAt (change : ConfigValue → ConfigValue) : List PathStep → ConfigValue → ConfigValue
  | [], v => change v
  | .key name :: steps, v =>
    let (origin, entries) := v.asTable
    let place := (entries.lookup name).getD .unset
    .table origin (setEntry name (modifyAt change steps place) entries)
  | .index n :: steps, v =>
    let (origin, items) := v.asList
    let (items, place) := widened items n
    .list origin (items.modify place (modifyAt change steps))

/-- Puts a value where the path leads to. -/
def set (p : ConfigPath) (value root : ConfigValue) : ConfigValue :=
  modifyAt (·.put value) (.key p.root :: p.steps) root

end ConfigPath

end TopicConsumer
