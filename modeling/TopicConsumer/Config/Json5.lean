import TopicConsumer.Config.Value
import TopicConsumer.Text.Numeral
import TopicConsumer.Text.Printable
import TopicConsumer.Text.Reader

/-!
# Reading JSON5

JSON5 is JSON with comments, commas behind the last item, names as keys, strings in single quotes
that may go on in the next line, and numbers that may be hexadecimal, signed, infinite, or without
digits on one side of the point. A whole number without an exponent has to fit into 64 bits. Of
repeated keys the last one counts.
-/

namespace TopicConsumer.Json5

open Text Reader

/-- The end of a line. -/
def isLineEnd (c : Char) : Bool := c == '\n' || c == '\r' || c == '\u2028' || c == '\u2029'

/-- A blank. -/
def isSpace (c : Char) : Bool :=
  let n := c.toNat
  isLineEnd c || (9 ≤ n && n ≤ 12) || n == 0x20 || n == 0xA0 || n == 0x1680 ||
    (0x2000 ≤ n && n ≤ 0x200A) || n == 0x202F || n == 0x205F || n == 0x3000 || n == 0xFEFF

/-- The rest of a comment that ends with a star and a stroke. -/
def blockEnd : List Char → Option (List Char)
  | '*' :: '/' :: rest => some rest
  | _ :: rest => blockEnd rest
  | [] => none

/-- Skips blanks and comments. -/
def gap : Nat → Reader Unit
  | 0 => failure
  | fuel + 1 => do
    discard (spanning isSpace)
    if ← accept ['/', '/'] then
      discard (spanning (!isLineEnd ·))
      gap fuel
    else if ← accept ['/', '*'] then
      (fun cs => (blockEnd cs).map ((), ·))
      gap fuel
    else pure ()

/-- A number in so many hexadecimal digits. -/
def hexNumber (digits : Nat) : Reader Nat := fun cs =>
  if (cs.take digits).length = digits then
    (inBase? 16 (cs.take digits)).map (·, cs.drop digits)
  else none

/-- The character of a code unit of sixteen bits, or of it and the one behind it. -/
def unitChar (unit : Nat) : Reader Char := do
  if 0xD800 ≤ unit ∧ unit ≤ 0xDBFF then
    chars ['\\', 'u']
    let low ← hexNumber 4
    if low < 0xDC00 ∨ 0xDFFF < low then failure
    pure (Char.ofNat (0x10000 + (unit - 0xD800) * 0x400 + (low - 0xDC00)))
  else
    match scalar? unit with
    | some c => pure c
    | none => failure

/-- What a backslash and what is behind it stand for in a string. -/
def escape : Reader (List Char) := do
  match ← next with
  | 'b' => pure ['\x08']
  | 'f' => pure ['\x0c']
  | 'n' => pure ['\n']
  | 'r' => pure ['\r']
  | 't' => pure ['\t']
  | 'v' => pure ['\x0b']
  | '0' => if (← peek?).any Char.isDigit then failure else pure ['\x00']
  | 'x' => do pure [Char.ofNat (← hexNumber 2)]
  | 'u' => do pure [← unitChar (← hexNumber 4)]
  | '\r' => do
    discard (accept ['\n'])
    pure []
  | c => if c.isDigit then failure else pure (if isLineEnd c then [] else [c])

/-- The rest of a string behind what has been read of it, which is kept in reverse. -/
def stringTail (quote : Char) : Nat → List Char → Reader String
  | 0, _ => failure
  | fuel + 1, read => do
    let c ← next
    if c = quote then pure (String.ofList read.reverse)
    else if c = '\\' then stringTail quote fuel ((← escape).reverse ++ read)
    else if c = '\n' ∨ c = '\r' then failure
    else stringTail quote fuel (c :: read)

/-- A character of a name. Behind ASCII all characters count that can be seen. -/
def isNameChar (c : Char) : Bool :=
  c.isAlphanum || c == '$' || c == '_' || (0x7F < c.toNat && isPrintable c && !isSpace c)

/-- A name. -/
def name : Reader String := do
  let cs ← spanning isNameChar
  match cs with
  | [] => failure
  | c :: _ => if c.isDigit then failure else pure (String.ofList cs)

/-- A key. -/
def key (size : Nat) : Reader String := do
  if ← accept ['"'] then stringTail '"' size []
  else if ← accept ['\''] then stringTail '\'' size []
  else name

/-- The digits in front of a point: none, a single zero, or digits without a zero in front. -/
def wholeDigits : Reader (List Char) := do
  let digits ← spanning Char.isDigit
  match digits with
  | '0' :: _ :: _ => failure
  | digits => pure digits

/-- The exponent of a number, if it has one. -/
def exponent : Reader (Option Int) := do
  match ← peek? with
  | some 'e' | some 'E' =>
    let _ ← next
    let negative ← accept ['-']
    if !negative then discard (accept ['+'])
    match digits? (← spanning Char.isDigit) with
    | none => failure
    | some n => pure (some (if negative then -(n : Int) else n))
  | _ => pure none

/-- A whole number, which has to fit into 64 bits. -/
def integer (negative : Bool) (n : Nat) : Reader Scalar :=
  match NumeralRange.int64.check? (if negative then -(n : Int) else n) with
  | some n => pure (.integer n)
  | none => failure

/-- Accepts what stands in front of hexadecimal digits. -/
def hexMark : Reader Bool := do
  if ← accept ['0', 'x'] then return true
  accept ['0', 'X']

/-- A number. -/
def number : Reader Scalar := do
  let negative ← accept ['-']
  if !negative then discard (accept ['+'])
  if ← accept "Infinity".toList then return .float (.infinite negative)
  if ← accept "NaN".toList then return .float .nan
  if ← hexMark then
    let digits ← spanning fun c => (hexDigit? c).isSome
    match inBase? 16 digits with
    | some n => return ← integer negative n
    | none => failure
  let whole ← wholeDigits
  let fraction? ← if ← accept ['.'] then some <$> spanning Char.isDigit else pure none
  let exponent? ← exponent
  match digits? (whole ++ fraction?.getD []), fraction?, exponent? with
  | some n, none, none => integer negative n
  | some n, _, _ =>
    let places : Int := (fraction?.getD []).length
    pure (.float (.ofDecimal negative n (exponent?.getD 0 - places)))
  | none, _, _ => failure

/-- Items between commas up to a closing character, behind those already read; a comma may stand
behind the last one. -/
def itemsTail {α : Type} (item : Reader α) (close : Char) (size : Nat) :
    Nat → List α → Reader (List α)
  | 0, _ => failure
  | fuel + 1, read => do
    gap size
    if ← accept [close] then return read.reverse
    let a ← item
    gap size
    if ← accept [','] then itemsTail item close size fuel (a :: read)
    else
      char close
      pure (a :: read).reverse

/-- A value in a text of fewer than `size` characters. -/
def value (origin : Option String) (size : Nat) : Nat → Reader ConfigValue
  | 0 => failure
  | depth + 1 => do
    if ← accept ['['] then
      return .list origin (← itemsTail (value origin size depth) ']' size size [])
    if ← accept ['\x7b'] then
      let entries ← itemsTail (entry (value origin size depth)) '\x7d' size size []
      return .table origin (entriesOf entries)
    if ← accept ['"'] then return .leaf origin (.text (← stringTail '"' size []))
    if ← accept ['\''] then return .leaf origin (.text (← stringTail '\'' size []))
    if ← accept "null".toList then return .leaf origin .null
    if ← accept "true".toList then return .leaf origin (.bool true)
    if ← accept "false".toList then return .leaf origin (.bool false)
    return .leaf origin (← number)
where
  /-- A key with its value. -/
  entry (value : Reader ConfigValue) : Reader (String × ConfigValue) := do
    let k ← key size
    gap size
    char ':'
    gap size
    let v ← value
    pure (k, v)

/-- The value of a JSON5 text. -/
def read? (origin : Option String) (s : String) : Option ConfigValue :=
  let size := s.length + 1
  (do
    gap size
    let v ← value origin size size
    gap size
    pure v : Reader ConfigValue).read? s

end TopicConsumer.Json5
