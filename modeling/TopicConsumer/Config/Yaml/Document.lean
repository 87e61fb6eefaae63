import TopicConsumer.Config.Yaml.Scalar

/-!
# Reading YAML

A YAML text holds one document: a value, which stands in blocks told by their columns or in
brackets. A key has to be different from the other keys of its table. An entry without a value is
nothing. A value may be given a name and be named again later on, and it may have a tag, which tells
how a plain scalar is read.
-/

namespace TopicConsumer.Yaml

open Scan

/-- What stands in front of a value. -/
structure Properties where
  name? : Option String := none
  tag? : Option String := none

/-- A character of a name or a tag. -/
def isNameChar (c : Char) : Bool := !isBreak (some c) && !isFlowSign c

/-- What stands in front of a value, if anything does. -/
def properties : Nat → Properties → Scan Properties
  | 0, _ => failure
  | fuel + 1, p => do
    match ← peek? with
    | some '&' =>
      if p.name?.isSome then failure
      skip 1
      let name ← spanning isNameChar
      if name.isEmpty then failure
      blanks
      properties fuel { p with name? := some (String.ofList name) }
    | some '!' =>
      if p.tag?.isSome then failure
      let tag ← spanning isNameChar
      if !isBreak (← peek?) then failure
      blanks
      properties fuel { p with tag? := some (String.ofList tag) }
    | _ => return p

/-- The mark of the tags of the standard. -/
def standardMark : String := "!!"

/-- The value of a plain scalar with what stands in front of it. -/
def plainScalar? (p : Properties) (cs : List Char) : Option Scalar :=
  let s := String.ofList cs
  match p.tag? with
  | none => plainValue? s
  | some tag =>
    if standardMark.toList.isPrefixOf tag.toList then
      taggedValue? (String.ofList (tag.toList.drop standardMark.length)) s
    else some (.text s)

/-- Gives a value its name. -/
def naming (p : Properties) (v : ConfigValue) : Scan ConfigValue := do
  match p.name? with
  | none => return v
  | some name =>
    modify fun place => { place with named := (name, v) :: place.named }
    return v

/-- The value of a name. -/
def alias_ : Scan ConfigValue := do
  skip 1
  let name ← spanning isNameChar
  match (← get).named.lookup (String.ofList name) with
  | some v => return v
  | none => failure

/-- The text of a key. -/
def keyText? : Scalar → Option String
  | .text s => some s
  | .integer n => some (toString n)
  | .bool b => some (if b then "true" else "false")
  | _ => none

/-- An entry of a table: the key as it was read, its text, and the value. -/
structure Entry where
  key : Scalar
  text : String
  value : ConfigValue

/-- Adds an entry to those already read, the last one first. No key may come twice. -/
def addEntry (key : Scalar) (text : String) (value : ConfigValue) (entries : List Entry) :
    Scan (List Entry) :=
  if entries.any (·.key = key) then failure else return ⟨key, text, value⟩ :: entries

/-- The table of entries, the last one first. -/
def tableOf (origin : Option String) (entries : List Entry) : ConfigValue :=
  .table origin (entriesOf (entries.reverse.map fun e => (e.text, e.value)))

/-- A key and its text. Of a number with a fraction the spelling is kept. -/
def keyOf? (p : Properties) (isPlain : Bool) (cs : List Char) : Option (Scalar × String) := do
  if !isPlain then return (.text (String.ofList cs), String.ofList cs)
  let s ← plainScalar? p cs
  match s with
  | .float _ => return (s, String.ofList cs)
  | s => return (s, ← keyText? s)

/-! ## Within brackets -/

/-- A quoted or plain scalar within brackets or in front of a colon: whether it is plain, and its
characters. -/
def flowScalar (size : Nat) : Scan (Bool × List Char) := do
  match ← peek? with
  | some '"' | some '\'' => return (false, (← quoted size).toList)
  | _ =>
    if !(← plainBegins true) then failure
    let line ← plainLine true
    return (true, ← plainTail true (-1) size line)

/-- A colon is next that stands behind a key. One may stand directly behind a quoted key. -/
def colonAhead (quotedKey : Bool) : Scan Bool := do
  match ← rest with
  | ':' :: rest => return quotedKey || isBreak rest.head? || rest.head?.any isFlowSign
  | _ => return false

mutual

/-- A value within brackets. -/
def flow (origin : Option String) (size : Nat) : Nat → Scan ConfigValue
  | 0 => failure
  | fuel + 1 => do
    let p ← properties size {}
    gap false size
    let v ← match ← peek? with
      | some '[' => do
        skip 1
        pure (.list origin (← flowItems origin size fuel []))
      | some '\x7b' => do
        skip 1
        pure (tableOf origin (← flowEntries origin size fuel []))
      | some '*' => alias_
      | some '"' | some '\'' => do pure (.leaf origin (.text (← quoted size)))
      | _ => do
        if ← plainBegins true then
          let (_, cs) ← flowScalar size
          match plainScalar? p cs with
          | some s => pure (.leaf origin s)
          | none => failure
        else pure (.leaf origin .null)
    naming p v

/-- The rest of a list within brackets, behind the items already read. -/
def flowItems (origin : Option String) (size : Nat) : Nat → List ConfigValue →
    Scan (List ConfigValue)
  | 0, _ => failure
  | fuel + 1, items => do
    gap false size
    if ← accept ']' then return items.reverse
    let before ← get
    let isQuoted := (← peek?) == some '"' || (← peek?) == some '\''
    let v ← flow origin size fuel
    gap false size
    let v ←
      if ← colonAhead isQuoted then do
        set before
        let entries ← flowEntry origin size fuel []
        pure (tableOf origin entries)
      else pure v
    gap false size
    if ← accept ',' then flowItems origin size fuel (v :: items)
    else if ← accept ']' then return (v :: items).reverse
    else failure

/-- An entry within brackets, added to those already read. -/
def flowEntry (origin : Option String) (size : Nat) : Nat → List Entry → Scan (List Entry)
  | 0, _ => failure
  | fuel + 1, entries => do
    let p ← properties size {}
    let (isPlain, cs) ← flowScalar size
    let some (key, text) := keyOf? p isPlain cs | failure
    gap false size
    if ← colonAhead !isPlain then
      skip 1
      gap false size
      addEntry key text (← flow origin size fuel) entries
    else addEntry key text (.leaf origin .null) entries

/-- The rest of a table within brackets, behind the entries already read. -/
def flowEntries (origin : Option String) (size : Nat) : Nat → List Entry → Scan (List Entry)
  | 0, _ => failure
  | fuel + 1, entries => do
    gap false size
    if ← accept '\x7d' then return entries
    let entries ← flowEntry origin size fuel entries
    gap false size
    if ← accept ',' then flowEntries origin size fuel entries
    else if ← accept '\x7d' then return entries
    else failure

end

/-! ## In blocks -/

/-- An item of a block list is next. -/
def itemAhead : Scan Bool := do
  match ← rest with
  | '-' :: rest => return isBreak rest.head?
  | _ => return false

/-- The key that is next, if one is: a scalar in one line with a colon behind it. -/
def key? (size : Nat) : Scan (Option (Scalar × String)) := do
  let before ← get
  let p ← properties size {}
  let found : Scan (Scalar × String) := do
    let isPlain := (← peek?) != some '"' && (← peek?) != some '\''
    let cs ←
      if isPlain then do
        if !(← plainBegins false) then failure
        plainLine false
      else pure (← quoted size).toList
    blanks
    match ← rest with
    | ':' :: rest => if !isBreak rest.head? then failure
    | _ => failure
    skip 1
    match keyOf? p isPlain cs with
    | some key => return key
    | none => failure
  match found (← get) with
  | some (key, place) =>
    -- The key and its colon stand in one line.
    if before.rest.length ≤ place.rest.length + (before.rest.takeWhile (· != '\n')).length then
      set place
      return some key
    else
      set before
      return none
  | none =>
    set before
    return none

mutual

/-- What stands behind a column, from the next line on or from here. -/
def blockNode (origin : Option String) (size : Nat) : Nat → Int → Scan ConfigValue
  | 0, _ => failure
  | fuel + 1, parent => do
    gap true size
    let column ← column
    if (← documentEnds) || (column : Int) ≤ parent then return .leaf origin .null
    else if ← itemAhead then return .list origin (← blockItems origin size fuel column [])
    else
      match ← key? size with
      | some (key, text) =>
        let v ← entryValue origin size fuel column
        let entries ← blockEntries origin size fuel column [⟨key, text, v⟩]
        return tableOf origin entries
      | none => inlineNode origin size fuel parent

/-- The items of a list whose dashes stand at a column, behind those already read. -/
def blockItems (origin : Option String) (size : Nat) : Nat → Nat → List ConfigValue →
    Scan (List ConfigValue)
  | 0, _, _ => failure
  | fuel + 1, column, items => do
    skip 1
    let v ← blockNode origin size fuel column
    gap true size
    let here ← Scan.column
    if !(← documentEnds) && here = column && (← itemAhead) then
      blockItems origin size fuel column (v :: items)
    else if !(← documentEnds) && column < here then failure
    else return (v :: items).reverse

/-- The entries of a table whose keys stand at a column, behind those already read. -/
def blockEntries (origin : Option String) (size : Nat) : Nat → Nat → List Entry →
    Scan (List Entry)
  | 0, _, _ => failure
  | fuel + 1, column, entries => do
    gap true size
    let here ← Scan.column
    if (← documentEnds) || here < column then return entries
    else if column < here then failure
    else
      let some (key, text) ← key? size | failure
      let v ← entryValue origin size fuel column
      blockEntries origin size fuel column (← addEntry key text v entries)

/-- The value behind a key at a column. A list may stand at the column of the key. -/
def entryValue (origin : Option String) (size : Nat) : Nat → Nat → Scan ConfigValue
  | 0, _ => failure
  | fuel + 1, column => do
    if ← lineEnds then
      gap true size
      let here ← Scan.column
      if !(← documentEnds) && here = column && (← itemAhead) then
        return .list origin (← blockItems origin size fuel column [])
      else blockNode origin size fuel column
    else if ← itemAhead then failure
    else inlineNode origin size fuel column

/-- A value that begins in this line and is no block of its own, within what stands at a column. -/
def inlineNode (origin : Option String) (size : Nat) : Nat → Int → Scan ConfigValue
  | 0, _ => failure
  | fuel + 1, parent => do
    let p ← properties size {}
    let alone ← if p.name?.isSome || p.tag?.isSome then lineEnds else pure false
    if alone then
      return ← naming p (← entryAfter origin size fuel parent)
    let v ← match ← peek? with
      | some '|' | some '>' => do pure (.leaf origin (.text (← block parent size)))
      | some '[' | some '\x7b' => flow origin size fuel
      | some '*' => alias_
      | some '"' | some '\'' => do pure (.leaf origin (.text (← quoted size)))
      | _ => do
        if !(← plainBegins false) then failure
        let line ← plainLine false
        match plainScalar? p (← plainTail false parent size line) with
        | some s => pure (.leaf origin s)
        | none => failure
    if (← Scan.column) ≠ 0 then
      if !(← lineEnds) then failure
    naming p v

/-- The value in the lines behind properties. -/
def entryAfter (origin : Option String) (size : Nat) : Nat → Int → Scan ConfigValue
  | 0, _ => failure
  | fuel + 1, parent =>
    if 0 ≤ parent then entryValue origin size fuel parent.toNat
    else blockNode origin size fuel parent

end

/-- Skips what stands in front of the document, and tells whether the text holds one. -/
def preamble (size : Nat) : Nat → Scan Bool
  | 0 => failure
  | fuel + 1 => do
    gap true size
    if (← peek?) == some '%' ∧ (← column) = 0 then
      discard (spanning (· != '\n'))
      preamble size fuel
    else if isMark '-' (← get) then
      skip 3
      return true
    else return (← peek?).isSome

/-- Skips what stands behind the document: marks of its end. -/
def postamble (size : Nat) : Nat → Scan Unit
  | 0 => failure
  | fuel + 1 => do
    gap true size
    if isMark '.' (← get) then
      skip 3
      if !(← lineEnds) then failure
      postamble size fuel
    else if (← peek?).isSome then failure

/-- The text with one character at the end of each line. -/
def evenLines : List Char → List Char
  | '\r' :: '\n' :: rest => '\n' :: evenLines rest
  | '\r' :: rest => '\n' :: evenLines rest
  | c :: rest => c :: evenLines rest
  | [] => []

/-- The value of a YAML text. One without a document is an empty table. -/
def read? (origin : Option String) (s : String) : Option ConfigValue :=
  let cs := evenLines s.toList
  let size := 4 * cs.length + 16
  let document : Scan ConfigValue := do
    if !(← preamble size size) then return .table origin []
    let v ← blockNode origin size size (-1)
    postamble size size
    return v
  (document ⟨cs, 0, []⟩).map Prod.fst

end TopicConsumer.Yaml
