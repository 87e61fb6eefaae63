import TopicConsumer.Config.Toml.Scalar
import TopicConsumer.Config.Value

/-!
# Reading TOML

A document is read into a tree of tables that remembers how each table came about, since this
decides what may be added to it later on: a table under a header cannot be opened by a second header
or be extended by dotted keys, one that dotted keys made cannot get a header, and one that was only
named on the way to another can get one header of its own, unless dotted keys have led through it.
-/

namespace TopicConsumer.Toml

open Text Reader

/-- How a table came about. -/
inductive TableKind where
  /-- It has a header. -/
  | header
  /-- It was named on the way to the table of a header. -/
  | implied
  /-- A dotted key led through it. -/
  | dotted
  deriving DecidableEq

/-- A part of a document. -/
inductive Node where
  | value (v : ConfigValue)
  | table (kind : TableKind) (entries : List (String × Node))
  /-- Tables under headers in double brackets. -/
  | tables (items : List (List (String × Node)))

/-- The entries of a table. -/
abbrev Entries := List (String × Node)

/-- Changes the table that a path leads to. Tables that are missing on the way are made; where there
is a list of tables, the way leads through the last one. -/
def descend (dotted : Bool) (change : TableKind → Entries → Option Entries) :
    List String → TableKind → Entries → Option Entries
  | [], kind, es => change kind es
  | key :: path, _, es =>
    match es.lookup key with
    | none =>
      let kind := if dotted then TableKind.dotted else .implied
      (descend dotted change path kind []).map fun inner => setEntry key (.table kind inner) es
    | some (.value _) => none
    | some (.table kind inner) =>
      if dotted ∧ kind = .header then none
      else
        let kind := if dotted then TableKind.dotted else kind
        (descend dotted change path kind inner).map fun inner =>
          setEntry key (.table kind inner) es
    | some (.tables items) =>
      (descend dotted change path .header (items.getLast?.getD [])).map fun last =>
        setEntry key (.tables (items.dropLast ++ [last])) es

/-- Puts a value under a dotted key of a table. -/
def assign (path : List String) (key : String) (v : ConfigValue) (es : Entries) : Option Entries :=
  descend true (fun kind es =>
    if (!path.isEmpty && kind != .dotted) || (es.lookup key).isSome then none
    else some (setEntry key (.value v) es)) path .header es

/-- Opens the table of a header. -/
def openTable (path : List String) (key : String) (root : Entries) : Option Entries :=
  descend false (fun _ es =>
    match es.lookup key with
    | none => some (setEntry key (.table .header []) es)
    | some (.table .implied inner) => some (setEntry key (.table .header inner) es)
    | some _ => none) path .header root

/-- Opens the next table of a list of tables. -/
def openItem (path : List String) (key : String) (root : Entries) : Option Entries :=
  descend false (fun _ es =>
    match es.lookup key with
    | none => some (setEntry key (.tables [[]]) es)
    | some (.tables items) => some (setEntry key (.tables (items ++ [[]])) es)
    | some _ => none) path .header root

mutual

/-- The value of a part of a document. -/
def Node.toValue (origin : Option String) : Node → ConfigValue
  | .value v => v
  | .table _ es => .table origin (entryValues origin es)
  | .tables items => .list origin (itemValues origin items)

/-- The values of entries. -/
def entryValues (origin : Option String) : List (String × Node) → List (String × ConfigValue)
  | [] => []
  | (key, node) :: rest => (key, node.toValue origin) :: entryValues origin rest

/-- The values of tables in a list. -/
def itemValues (origin : Option String) : List (List (String × Node)) → List ConfigValue
  | [] => []
  | es :: rest => .table origin (entryValues origin es) :: itemValues origin rest

end

/-! ## Keys and values -/

/-- A simple key. -/
def simpleKey (size : Nat) : Reader String := do
  match ← peek? with
  | some '"' =>
    char '"'
    lineTail '"' (size + 1) []
  | some '\'' =>
    char '\''
    lineTail '\'' (size + 1) []
  | _ =>
    let name ← spanning fun c => c.isAlphanum || c == '_' || c == '-'
    if name.isEmpty then failure else pure (String.ofList name)

/-- Keys between points, of which at most `fuel` are read: all but the last one, and the last one.
-/
def dottedKey (size : Nat) : Nat → List String → Reader (List String × String)
  | 0, _ => failure
  | fuel + 1, read => do
    let key ← simpleKey size
    blanks
    if ← accept ['.'] then
      blanks
      dottedKey size fuel (key :: read)
    else pure (read.reverse, key)

/-- A comment up to the end of its line. -/
def comment : Reader Unit := do
  char '#'
  discard (spanning isPlain)

/-- Skips blanks, ends of lines and comments. -/
def gap : Nat → Reader Unit
  | 0 => failure
  | fuel + 1 => do
    blanks
    match ← peek? with
    | some '#' => comment; gap fuel
    | some '\n' | some '\r' => lineEnd; gap fuel
    | _ => pure ()

/-- The items of a list, behind those already read; a comma may stand behind the last one. -/
def listTail (item : Reader ConfigValue) (size : Nat) :
    Nat → List ConfigValue → Reader (List ConfigValue)
  | 0, _ => failure
  | fuel + 1, read => do
    gap (size + 1)
    if ← accept [']'] then return read.reverse
    let v ← item
    gap (size + 1)
    if ← accept [','] then listTail item size fuel (v :: read)
    else
      char ']'
      pure (v :: read).reverse

/-- How many others a value may stand in, and how many parts a key may have. -/
def greatestDepth : Nat := 80

/-- A key with its value. Around the sign between them `space` is skipped. -/
def keyValue (space : Reader Unit) (item : Reader ConfigValue) (size : Nat) :
    Reader ((List String × String) × ConfigValue) := do
  let key ← dottedKey size greatestDepth []
  space
  char '='
  space
  let v ← item
  pure (key, v)

/-- The entries of a table in braces, added to those already read; a comma may stand behind the last
one. -/
def inlineTail (item : Reader ConfigValue) (size : Nat) : Nat → Entries → Reader Entries
  | 0, _ => failure
  | fuel + 1, es => do
    gap (size + 1)
    if ← accept ['\x7d'] then return es
    let ((path, key), v) ← keyValue (gap (size + 1)) item size
    gap (size + 1)
    match assign path key v es with
    | none => failure
    | some es =>
      if ← accept [','] then inlineTail item size fuel es
      else
        char '\x7d'
        pure es

/-- A value that holds no others, in a text of at most `size` characters. -/
def scalar (origin : Option String) (size : Nat) : Reader ConfigValue := do
  match ← peek? with
  | some '"' => return .leaf origin (.text (← string size '"'))
  | some '\'' => return .leaf origin (.text (← string size '\''))
  | _ =>
    let cs ← word
    if cs = "true".toList then return .leaf origin (.bool true)
    if cs = "false".toList then return .leaf origin (.bool false)
    match integer? cs, float? cs, dateTime cs with
    | some n, _, _ => return .leaf origin (.integer n)
    | none, some x, _ => return .leaf origin (.float x)
    | none, none, some (text, []) => return .leaf origin (.text text)
    | _, _, _ => failure

/-- A value that may hold others, so many levels deep at most. -/
def value (origin : Option String) (size : Nat) : Nat → Reader ConfigValue
  | 0 => scalar origin size
  | depth + 1 => do
    if ← accept ['['] then
      return .list origin (← listTail (value origin size depth) size (size + 1) [])
    if ← accept ['\x7b'] then
      return .table origin
        (entryValues origin (← inlineTail (value origin size depth) size (size + 1) []))
    scalar origin size

/-! ## Documents -/

/-- What has been read of a document, and the table of the last header. -/
structure Draft where
  root : Entries
  table : Option (List String × String)

/-- Puts a value into the table of the last header. -/
def Draft.assign? (d : Draft) (path : List String) (key : String) (v : ConfigValue) :
    Option Draft :=
  let table := match d.table with
    | none => []
    | some (path, key) => path ++ [key]
  (descend false (fun _ es => assign path key v es) table .header d.root).map ({ d with root := · })

/-- A header: one pair of brackets opens a table, two pairs the next table of a list. -/
def header (size : Nat) (d : Draft) : Reader Draft := do
  let isItem ← accept ['[', '[']
  if !isItem then char '['
  blanks
  let (path, key) ← dottedKey size greatestDepth []
  chars (if isItem then [']', ']'] else [']'])
  match if isItem then openItem path key d.root else openTable path key d.root with
  | none => failure
  | some root => pure ⟨root, some (path, key)⟩

/-- The lines of a document, added to what has been read. -/
def lines (origin : Option String) (size : Nat) : Nat → Draft → Reader Draft
  | 0, _ => failure
  | fuel + 1, d => do
    blanks
    let d ← match ← peek? with
      | none | some '#' | some '\n' | some '\r' => pure d
      | some '[' => header size d
      | _ =>
        let ((path, key), v) ← keyValue blanks (value origin size greatestDepth) size
        match d.assign? path key v with
        | none => failure
        | some d => pure d
    blanks
    if (← peek?) = some '#' then comment
    if (← peek?).isNone then pure d
    else
      lineEnd
      lines origin size fuel d

/-- The value of a TOML text. -/
def read? (origin : Option String) (s : String) : Option ConfigValue :=
  let size := s.length
  (do
    discard (accept ['\uFEFF'])
    let d ← lines origin size (size + 1) ⟨[], none⟩
    pure (.table origin (entryValues origin d.root)) : Reader ConfigValue).read? s

end TopicConsumer.Toml
