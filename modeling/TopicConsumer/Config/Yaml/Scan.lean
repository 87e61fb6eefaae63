import TopicConsumer.Config.Value

/-!
# Places in a YAML text

In YAML the column at which something stands tells what it belongs to. A scan reads a text from the
front and keeps count of the columns; it also remembers the values that have been given a name.
-/

namespace TopicConsumer.Yaml

/-- How far a text has been read. -/
structure Place where
  /-- What is left of the text. -/
  rest : List Char
  /-- How many characters of the line stand in front of it. -/
  column : Nat
  /-- The values that have a name. -/
  named : List (String × ConfigValue)

/-- Takes a value off the front of a text. -/
abbrev Scan := StateT Place Option

namespace Scan

/-- What is left of the text. -/
def rest : Scan (List Char) := do return (← get).rest

/-- The column of what is next. -/
def column : Scan Nat := do return (← get).column

/-- The next character, which stays where it is. -/
def peek? : Scan (Option Char) := do return (← rest).head?

/-- The next character. -/
def next : Scan Char := fun p =>
  match p.rest with
  | [] => none
  | c :: rest => some (c, { p with rest, column := if c = '\n' then 0 else p.column + 1 })

/-- Skips so many characters, none of which ends a line. -/
def skip (n : Nat) : Scan Unit :=
  modify fun p => { p with rest := p.rest.drop n, column := p.column + n }

/-- All characters up to the first one that does not satisfy the condition. The end of a line does
not satisfy it. -/
def spanning (p : Char → Bool) : Scan (List Char) := do
  let cs := (← rest).takeWhile p
  skip cs.length
  return cs

/-- Takes a character if it is next, and tells whether it was. -/
def accept (c : Char) : Scan Bool := do
  if (← peek?) == some c then
    skip 1
    return true
  else return false

/-! ## Blanks -/

/-- A blank within a line. -/
def isBlankInLine (c : Char) : Bool := c == ' ' || c == '\t'

/-- A blank, or the end of a line or of the text, is what may stand behind a sign. -/
def isBreak (c? : Option Char) : Bool := c?.all fun c => isBlankInLine c || c == '\n'

/-- Skips blanks within a line. -/
def blanks : Scan Unit := discard (spanning isBlankInLine)

/-- Skips what may stand at the end of a line, and tells whether the line ends there. -/
def lineEnds : Scan Bool := do
  let before ← rest
  blanks
  let blank := (← rest).length < before.length || (← column) == 0
  if blank && (← peek?) == some '#' then discard (spanning (· != '\n'))
  return (← peek?).all (· == '\n')

/-- Skips the ends of lines, the comments and the blanks up to what is next. In a block no tab
stands in front of it. -/
def gap (inBlock : Bool) : Nat → Scan Unit
  | 0 => failure
  | fuel + 1 => do
    let atStart := (← column) == 0
    let before ← rest
    if ← lineEnds then
      if (← peek?).isSome then
        discard next
        gap inBlock fuel
    else if inBlock && atStart && (before.takeWhile isBlankInLine).contains '\t' then failure

/-- A line begins, and with it a mark of three characters. -/
def isMark (mark : Char) (p : Place) : Bool :=
  p.column == 0 && p.rest.take 3 == List.replicate 3 mark && isBreak (p.rest.drop 3).head?

/-- A document ends here. -/
def documentEnds : Scan Bool := do
  let p ← get
  return p.rest.isEmpty || isMark '-' p || isMark '.' p

end Scan

end TopicConsumer.Yaml
