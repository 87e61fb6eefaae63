import TopicConsumer.Config.Value
import TopicConsumer.Text.Numeral
import TopicConsumer.Text.Printable
import TopicConsumer.Text.Reader

/-!
# Reading RON

RON writes values as a program would. A structure, with or without a name in front of its
parentheses, is a table under the names of its fields, a tuple is a list, a name alone is nothing,
and `Some` stands for what is in its parentheses. Keys of maps are texts or characters; of repeated
keys the last one counts.
-/

namespace TopicConsumer.Ron

open Text Reader

/-- A blank. -/
def isSpace (c : Char) : Bool :=
  let n := c.toNat
  (9 ≤ n && n ≤ 13) || n == 0x20 || n == 0x85 || n == 0x200E || n == 0x200F || n == 0x2028 ||
    n == 0x2029

/-- The rest of a comment between strokes and stars, in which comments may stand. -/
def blockEnd (depth : Nat) : List Char → Option (List Char)
  | '/' :: '*' :: rest => blockEnd (depth + 1) rest
  | '*' :: '/' :: rest => if depth = 0 then some rest else blockEnd (depth - 1) rest
  | _ :: rest => blockEnd depth rest
  | [] => none

/-- Skips blanks and comments. -/
def gap : Nat → Reader Unit
  | 0 => failure
  | fuel + 1 => do
    discard (spanning isSpace)
    if ← accept ['/', '/'] then
      discard (spanning (· != '\n'))
      gap fuel
    else if ← accept ['/', '*'] then
      (fun cs => (blockEnd 0 cs).map ((), ·))
      gap fuel
    else pure ()

/-! ## Names and texts -/

/-- A character of a name. Behind ASCII all characters count that can be seen. -/
def isNameChar (c : Char) : Bool :=
  c.isAlphanum || c == '_' || (0x7F < c.toNat && isPrintable c && !isSpace c)

/-- The name that is next, or nothing. -/
def name : Reader (List Char) := fun cs =>
  if cs.head?.any Char.isDigit then some ([], cs)
  else some (cs.takeWhile isNameChar, cs.dropWhile isNameChar)

/-- The character of a number in hexadecimal digits. -/
def hexChar (digits : List Char) : Reader Char :=
  match (inBase? 16 digits).bind scalar? with
  | some c => pure c
  | none => failure

/-- What stands behind a backslash. -/
def escape : Reader Char := do
  match ← next with
  | '\'' => pure '\''
  | '"' => pure '"'
  | '\\' => pure '\\'
  | 'n' => pure '\n'
  | 'r' => pure '\r'
  | 't' => pure '\t'
  | '0' => pure '\x00'
  | 'x' => do
    let a ← next
    hexChar [a, ← next]
  | 'u' => do
    char '\x7b'
    let digits ← spanning fun c => (hexDigit? c).isSome
    if 6 < digits.length then failure
    char '\x7d'
    hexChar digits
  | _ => failure

/-- The rest of a text between quotes, behind what has been read of it in reverse. -/
def textTail : Nat → List Char → Reader String
  | 0, _ => failure
  | fuel + 1, read => do
    let c ← next
    if c = '"' then pure (String.ofList read.reverse)
    else if c = '\\' then textTail fuel ((← escape) :: read)
    else textTail fuel (c :: read)

/-- The rest of a text that ends with given characters and in which nothing is escaped. -/
def rawTail (close : List Char) : Nat → List Char → Reader String
  | 0, _ => failure
  | fuel + 1, read => do
    if ← accept close then pure (String.ofList read.reverse)
    else rawTail close fuel ((← next) :: read)

/-- A character between single quotes, behind the opening one. -/
def charTail : Reader String := do
  let c ← next
  let c ← if c = '\\' then escape else pure c
  char '\''
  pure (String.singleton c)

/-! ## Numbers -/

/-- The digits without the underscores between them. -/
def ungrouped? (cs : List Char) : Option (List Char) :=
  if cs.head? == some '_' then none else some (cs.filter (· != '_'))

/-- A whole number, which has to fit into 64 bits, with a sign or without. -/
def whole (negative : Bool) (n : Nat) : Reader Scalar :=
  let n : Int := if negative then -n else n
  if NumeralRange.int64.contains n then pure (.integer n)
  else if NumeralRange.nat64.contains n then pure (.natural n.toNat)
  else failure

/-- A character of a whole number. -/
def isWholeChar (c : Char) : Bool := (hexDigit? c).isSome || c == '_'

/-- The base in which a whole number is written. -/
def base : Reader Nat := do
  if ← accept ['0', 'x'] then return 16
  if ← accept ['0', 'o'] then return 8
  if ← accept ['0', 'b'] then return 2
  return 10

/-- The digits of a whole number and their base. -/
def basedDigits : Reader (Nat × List Char) := do pure (← base, ← spanning isWholeChar)

/-- The value of a number with a fraction or an exponent. -/
def fraction? (negative : Bool) (cs : List Char) : Option Binary64 := do
  let isMark (c : Char) : Bool := c == 'e' || c == 'E'
  let mantissa := cs.takeWhile (!isMark ·)
  let places := (mantissa.dropWhile (· != '.')).drop 1
  let n ← digits? (mantissa.takeWhile (· != '.') ++ places)
  let exponent ← match cs.dropWhile (!isMark ·) with
    | [] => some 0
    | _ :: '-' :: cs => (digits? cs).map fun n => -(n : Int)
    | _ :: '+' :: cs => (digits? cs).map Int.ofNat
    | _ :: cs => (digits? cs).map Int.ofNat
  pure (.ofDecimal negative n (exponent - places.length))

/-- A character of a number with a fraction or an exponent. -/
def isFractionChar (c : Char) : Bool := c.isDigit || ['e', 'E', '.', '+', '-', '_'].contains c

/-- The number that is next has a fraction, or a sign in its exponent. -/
def hasFraction : Reader Bool := fun cs =>
  some ((cs.takeWhile isWholeChar).length < (cs.takeWhile isFractionChar).length, cs)

/-- A number. -/
def number : Reader Scalar := do
  let negative ← accept ['-']
  if !negative then discard (accept ['+'])
  if ← accept "inf".toList then return .float (.infinite negative)
  if ← accept "NaN".toList then return .float .nan
  if ← hasFraction then
    let cs ← spanning isFractionChar
    match (ungrouped? cs).bind (fraction? negative) with
    | some x => pure (.float x)
    | none => failure
  else
    let (base, digits) ← basedDigits
    match (ungrouped? digits).bind (inBase? base) with
    | some n => whole negative n
    | none => failure

/-! ## Values -/

/-- Items between commas up to a closing character, behind those already read; a comma may stand
behind the last one. -/
def itemsTail {α : Type} (item : Reader α) (close : Char) (size : Nat) :
    Nat → List α → Reader (List α)
  | 0, _ => failure
  | fuel + 1, read => do
    gap size
    if ← accept [close] then return read.reverse
    let a ← item
    gap size
    if ← accept [','] then itemsTail item close size fuel (a :: read)
    else
      char close
      pure (a :: read).reverse

/-- Whether a name with a colon is next. -/
def fieldAhead (size : Nat) : Reader Bool := fun cs =>
  let ahead : Reader Bool := do
    let n ← name
    gap size
    pure (!n.isEmpty && (← peek?) == some ':')
  some ((ahead cs).any Prod.fst, cs)

/-- An entry of a table. -/
def entry (size : Nat) (key : Reader String) (value : Reader ConfigValue) :
    Reader (String × ConfigValue) := do
  let k ← key
  gap size
  char ':'
  gap size
  pure (k, ← value)

/-- The name of a field. -/
def field : Reader String := do
  let n ← name
  if n.isEmpty then failure
  pure (String.ofList n)

/-- The key of a map. -/
def key (size : Nat) : Reader String := do
  if ← accept ['"'] then textTail size []
  else
    char '\''
    charTail

/-- The rest of what stands in parentheses. -/
def parenthesized (origin : Option String) (size : Nat) (value : Reader ConfigValue) :
    Reader ConfigValue := do
  gap size
  if ← fieldAhead size then
    return .table origin (entriesOf (← itemsTail (entry size field value) ')' size size []))
  else return .list origin (← itemsTail value ')' size size [])

/-- A value in a text of fewer than `size` characters. -/
def value (origin : Option String) (size : Nat) : Nat → Reader ConfigValue
  | 0 => failure
  | depth + 1 => do
    if ← accept ['(', ')'] then return .leaf origin .null
    if ← accept ['('] then return ← parenthesized origin size (value origin size depth)
    if ← accept ['['] then
      return .list origin (← itemsTail (value origin size depth) ']' size size [])
    if ← accept ['\x7b'] then
      let item := entry size (key size) (value origin size depth)
      return .table origin (entriesOf (← itemsTail item '\x7d' size size []))
    if ← accept ['"'] then return .leaf origin (.text (← textTail size []))
    if ← accept ['\''] then return .leaf origin (.text (← charTail))
    let n ← name
    match String.ofList n with
    | "" => return .leaf origin (← number)
    | "true" => return .leaf origin (.bool true)
    | "false" => return .leaf origin (.bool false)
    | "None" => return .leaf origin .null
    | "inf" => return .leaf origin (.float (.infinite false))
    | "NaN" => return .leaf origin (.float .nan)
    | "Some" =>
      gap size
      char '('
      gap size
      let v ← value origin size depth
      gap size
      discard (accept [','])
      gap size
      char ')'
      return v
    | other =>
      let hashes ← spanning (· == '#')
      let isRaw ← if other = "r" then accept ['"'] else pure false
      if isRaw then
        return .leaf origin (.text (← rawTail ('"' :: hashes) size []))
      if !hashes.isEmpty then failure
      gap size
      if ← accept ['('] then parenthesized origin size (value origin size depth)
      else return .leaf origin .null

/-- The extensions that a text may switch on. None of them changes what is read here. -/
def extensions : List String :=
  ["unwrap_newtypes", "implicit_some", "unwrap_variant_newtypes", "explicit_struct_names"]

/-- The name of an extension. -/
def extension : Reader Unit := do
  let n ← name
  if !extensions.contains (String.ofList n) then failure

/-- Skips texts with blanks and comments behind each of them. -/
def signs (size : Nat) : List String → Reader Unit
  | [] => pure ()
  | sign :: rest => do
    chars sign.toList
    gap size
    signs size rest

/-- Skips what stands in front of the value: attributes that switch extensions on. -/
def attributes (size : Nat) : Nat → Reader Unit
  | 0 => failure
  | fuel + 1 => do
    gap size
    if (← peek?) = some '#' then
      signs size ["#", "!", "[", "enable", "("]
      let switched ← itemsTail extension ')' size size []
      if switched.isEmpty then failure
      gap size
      char ']'
      attributes size fuel

/-- How many levels deep a value may be. -/
def greatestDepth : Nat := 129

/-- The value of a RON text. -/
def read? (origin : Option String) (s : String) : Option ConfigValue :=
  let size := s.length + 1
  (do
    attributes size size
    let v ← value origin size greatestDepth
    gap size
    pure v : Reader ConfigValue).read? s

end TopicConsumer.Ron
