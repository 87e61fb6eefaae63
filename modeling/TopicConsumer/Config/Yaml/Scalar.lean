import TopicConsumer.Config.Yaml.Scan
import TopicConsumer.Text.Numeral
import TopicConsumer.Text.Reader

/-!
# Scalars of YAML

A plain scalar is a number, a truth value or nothing if it reads like one, and a text otherwise;
quoted scalars and blocks are texts. Where a scalar goes on in the next line, the end of the line
counts as a blank, and of several ends of lines all but the first one are kept. A block of lines
keeps them all, unless it is folded in the same way.
-/

namespace TopicConsumer.Yaml

open Text Scan

/-! ## Plain scalars -/

/-- A whole number in 64 bits with digits of a base. -/
def based? (base : Nat) (cs : List Char) : Option Int :=
  let (negative, digits) := match cs with
    | '-' :: cs => (true, cs)
    | '+' :: cs => (false, cs)
    | cs => (false, cs)
  (inBase? base digits).bind fun n =>
    NumeralRange.int64.check? (if negative then -(n : Int) else n)

/-- The whole number that a scalar reads like. -/
def integer? : List Char → Option Int
  | '0' :: 'x' :: cs => based? 16 cs
  | '0' :: 'o' :: cs => based? 8 cs
  | '+' :: cs => (NumeralRange.int64.readChars? cs).or (NumeralRange.int64.readChars? ('+' :: cs))
  | cs => NumeralRange.int64.readChars? cs

/-- The number with a fraction or an exponent that a scalar reads like. -/
def fraction? (cs : List Char) : Option Binary64 := do
  let (negative, cs) := match cs with
    | '-' :: cs => (true, cs)
    | '+' :: cs => (false, cs)
    | cs => (false, cs)
  let isMark (c : Char) : Bool := c == 'e' || c == 'E'
  let mantissa := cs.takeWhile (!isMark ·)
  let places := (mantissa.dropWhile (· != '.')).drop 1
  let n ← digits? (mantissa.takeWhile (· != '.') ++ places)
  let exponent ← match cs.dropWhile (!isMark ·) with
    | [] => some 0
    | _ :: '-' :: cs => (digits? cs).map fun n => -(n : Int)
    | _ :: '+' :: cs => (digits? cs).map Int.ofNat
    | _ :: cs => (digits? cs).map Int.ofNat
  return .ofDecimal negative n (exponent - places.length)

/-- The spellings of infinity and of what is no number. -/
def unboundedNames : List String :=
  [".inf", ".Inf", ".INF", "+.inf", "+.Inf", "+.INF", "-.inf", "-.Inf", "-.INF", ".nan", ".NaN",
    ".NAN"]

/-- The value of a plain scalar. Numbers without bounds are not read. -/
def plainValue? (s : String) : Option Scalar :=
  if s = "" ∨ s = "~" ∨ s = "null" then some .null
  else if s = "true" then some (.bool true)
  else if s = "false" then some (.bool false)
  else if unboundedNames.contains s then none
  else
    match integer? s.toList, fraction? s.toList with
    | some n, _ => some (.integer n)
    | none, some x => some (.float x)
    | none, none => some (.text s)

/-- The value of a plain scalar with a tag of the standard. -/
def taggedValue? (tag s : String) : Option Scalar :=
  match tag with
  | "bool" => some (if s = "true" then .bool true else if s = "false" then .bool false else .null)
  | "int" => some ((NumeralRange.int64.read? s).elim .null .integer)
  | "float" => if unboundedNames.contains s then none
      else some ((fraction? s.toList).elim .null .float)
  | "null" => some .null
  | _ => some (.text s)

/-- A character that ends a plain scalar within brackets. -/
def isFlowSign (c : Char) : Bool := [',', '[', ']', '\x7b', '\x7d'].contains c

/-- How many characters of a line belong to a plain scalar. `blank` tells that a blank stands in
front of them. -/
def plainLength (inFlow blank : Bool) : List Char → Nat
  | [] => 0
  | c :: rest =>
    if c = '\n' ∨ (c = '#' ∧ blank) ∨ (inFlow ∧ isFlowSign c) then 0
    else if c = ':' ∧ (isBreak rest.head? ∨ (inFlow ∧ rest.head?.any isFlowSign)) then 0
    else plainLength inFlow (isBlankInLine c) rest + 1

/-- The part of a plain scalar that stands in one line. -/
def plainLine (inFlow : Bool) : Scan (List Char) := do
  let cs := (← rest).take (plainLength inFlow true (← rest))
  let cs := (cs.reverse.dropWhile isBlankInLine).reverse
  skip cs.length
  return cs

/-- What stands for so many ends of lines within a scalar. -/
def folded (ends : Nat) : List Char := if ends = 1 then [' '] else List.replicate (ends - 1) '\n'

/-- Skips the ends of lines and the blanks up to what is next, and counts the ends. -/
def lineEndings : Nat → Nat → Scan Nat
  | 0, n => return n
  | fuel + 1, n => do
    blanks
    if (← peek?) == some '\n' then
      discard next
      lineEndings fuel (n + 1)
    else return n

/-- The rest of a plain scalar, whose later lines begin behind a column. -/
def plainTail (inFlow : Bool) (parent : Int) : Nat → List Char → Scan (List Char)
  | 0, _ => failure
  | fuel + 1, read => do
    let before ← get
    let ends ← lineEndings (fuel + 1) 0
    if ends = 0 ∨ (← documentEnds) ∨ (← column : Int) ≤ parent ∨ (← peek?) == some '#' then
      set before
      return read
    let line ← plainLine inFlow
    if line.isEmpty then
      set before
      return read
    plainTail inFlow parent fuel (read ++ folded ends ++ line)

/-- Whether a plain scalar may begin here. -/
def plainBegins (inFlow : Bool) : Scan Bool := do
  match ← rest with
  | [] => return false
  | c :: rest =>
    let goesOn := !isBreak rest.head? && !(inFlow && rest.head?.any isFlowSign)
    if c = '-' ∨ c = '?' ∨ c = ':' then return goesOn
    else
      let signs := ['#', '&', '*', '!', '|', '>', '\'', '"', '%', '@', '\x60']
      return !isBreak (some c) && !isFlowSign c && !signs.contains c

/-! ## Quoted scalars -/

/-- The character of so many hexadecimal digits. -/
def codePoint (digits : Nat) : Scan Char := do
  let cs := (← rest).take digits
  skip digits
  match if cs.length = digits then (inBase? 16 cs).bind scalar? else none with
  | some c => return c
  | none => failure

/-- What stands behind a backslash. -/
def escape : Scan Char := do
  match ← next with
  | '0' => return '\x00'
  | 'a' => return '\x07'
  | 'b' => return '\x08'
  | 't' | '\t' => return '\t'
  | 'n' => return '\n'
  | 'v' => return '\x0b'
  | 'f' => return '\x0c'
  | 'r' => return '\r'
  | 'e' => return '\x1b'
  | ' ' => return ' '
  | '"' => return '"'
  | '/' => return '/'
  | '\\' => return '\\'
  | 'N' => return '\u0085'
  | '_' => return '\u00A0'
  | 'L' => return '\u2028'
  | 'P' => return '\u2029'
  | 'x' => codePoint 2
  | 'u' => codePoint 4
  | 'U' => codePoint 8
  | _ => failure

/-- The rest of a quoted scalar, behind what has been read of it in reverse. Only double quotes
admit escapes; a single quote is written twice. -/
def quotedTail (quote : Char) : Nat → List Char → Scan (List Char)
  | 0, _ => failure
  | fuel + 1, read => do
    if ← documentEnds then failure
    let c ← next
    if c = quote then
      let twice ← if quote = '\'' then accept quote else pure false
      if twice then quotedTail quote fuel (c :: read)
      else return read.reverse
    else if c = '\\' ∧ quote = '"' then
      if (← peek?) == some '\n' then
        discard next
        let ends ← lineEndings (fuel + 1) 0
        quotedTail quote fuel (List.replicate ends '\n' ++ read)
      else quotedTail quote fuel ((← escape) :: read)
    else if c = '\n' then
      let ends ← lineEndings (fuel + 1) 1
      quotedTail quote fuel ((folded ends).reverse ++ read.dropWhile isBlankInLine)
    else quotedTail quote fuel (c :: read)

/-- A quoted scalar, its opening quote included. -/
def quoted (size : Nat) : Scan String := do
  return String.ofList (← quotedTail (← next) size [])

/-! ## Blocks of lines -/

/-- What becomes of the ends of lines at the end of a block. -/
inductive Chomping where
  | strip
  | clip
  | keep
  deriving DecidableEq

/-- The head of a block: how deep it is indented, if that is said, and what becomes of its end. -/
def blockHead : Nat → Option Nat → Chomping → Scan (Option Nat × Chomping)
  | 0, _, _ => failure
  | fuel + 1, depth, chomping => do
    match ← peek? with
    | some '+' => skip 1; blockHead fuel depth .keep
    | some '-' => skip 1; blockHead fuel depth .strip
    | some c =>
      if '1' ≤ c ∧ c ≤ '9' ∧ depth.isNone then
        skip 1
        blockHead fuel (some (c.toNat - '0'.toNat)) chomping
      else if isBreak (some c) then return (depth, chomping)
      else failure
    | none => return (depth, chomping)

/-- What has been read of a block. -/
structure BlockText where
  text : List Char := []
  /-- The line that was read last has an end. -/
  ended : Bool := false
  /-- The empty lines behind that line. -/
  empty : Nat := 0
  /-- That line is indented more deeply than the block. -/
  indented : Bool := false

namespace BlockText

/-- Adds a line that is not empty. Between two lines that are not indented more deeply a folded
block keeps the ends of empty lines alone. -/
def add (folds : Bool) (b : BlockText) (line : List Char) : BlockText :=
  let indented := line.head?.any isBlankInLine
  let ends := b.empty + if b.ended then 1 else 0
  let between :=
    if folds && b.ended && !b.indented && !indented then folded ends
    else List.replicate ends '\n'
  ⟨b.text ++ between ++ line, false, 0, indented⟩

/-- The text with what is left of its end. -/
def chomped (chomping : Chomping) (b : BlockText) : List Char :=
  let ends := if b.ended then 1 else 0
  match chomping with
  | .strip => b.text
  | .clip => b.text ++ List.replicate ends '\n'
  | .keep => b.text ++ List.replicate (ends + b.empty) '\n'

end BlockText

/-- The rest of a block of the given depth. -/
def blockTail (folds : Bool) (depth : Nat) : Nat → BlockText → Scan BlockText
  | 0, _ => failure
  | fuel + 1, b => do
    let line := (← rest).takeWhile (· != '\n')
    let isEmpty := line.all (· == ' ') && line.length ≤ depth
    if !isEmpty && !((line.take depth).all (· == ' ')) then return b
    skip line.length
    let b := if isEmpty then b else b.add folds (line.drop depth)
    if (← peek?).isNone then return b
    discard next
    blockTail folds depth fuel
      (if isEmpty then { b with empty := b.empty + 1 } else { b with ended := true })

/-- How deep the first line that is not empty is indented, or an empty one before it. -/
def firstDepth : Nat → List Char → Nat → Nat
  | 0, _, depth => depth
  | fuel + 1, cs, depth =>
    let spaces := cs.takeWhile (· == ' ')
    let depth := max depth spaces.length
    match cs.drop spaces.length with
    | '\n' :: cs => firstDepth fuel cs depth
    | _ => depth

/-- A block of lines, its sign included, within what stands at a column. -/
def block (parent : Int) (size : Nat) : Scan String := do
  let folds := (← next) == '>'
  let (depth?, chomping) ← blockHead size none .clip
  if !(← lineEnds) then failure
  if (← peek?).isSome then discard next
  let body ← rest
  let depth := match depth? with
    | some depth => (max parent 0).toNat + depth
    | none => max (firstDepth size body 0) (parent + 1).toNat
  let b ← blockTail folds depth size {}
  let here := indentationOf (← rest)
  if (here : Int) > parent ∧ here < depth ∧ !(← documentEnds) then failure
  return String.ofList (b.chomped chomping)
where
  /-- The spaces in front of what is next. -/
  indentationOf (cs : List Char) : Nat := (cs.takeWhile (· == ' ')).length

end TopicConsumer.Yaml
