import TopicConsumer.Number.Binary64
import TopicConsumer.Text.Numeral
import TopicConsumer.Text.Reader
import TopicConsumer.Time.Calendar

/-!
# Scalars of TOML

Strings, numbers and dates as TOML 1.1 writes them. A string may be quoted singly or doubly and may
run over several lines, whose ends are kept as they are. Digits may be grouped by single
underscores. A date is kept as its text in one spelling, and a time of day needs no seconds.
-/

namespace TopicConsumer.Toml

open Text Reader

/-- A blank within a line. -/
def isBlankInLine (c : Char) : Bool := c == ' ' || c == '\t'

/-- A character that may stand unescaped in a line. -/
def isPlain (c : Char) : Bool := (' ' ≤ c && c != '\x7f') || c == '\t'

/-- Skips blanks within a line. -/
def blanks : Reader Unit := discard (spanning isBlankInLine)

/-- The end of a line. -/
def lineEnd : Reader Unit := do
  discard (accept ['\r'])
  char '\n'

/-! ## Strings -/

/-- A code point in so many hexadecimal digits. -/
def codePoint : Nat → List Char → Reader Char
  | 0, digits =>
    match (inBase? 16 digits.reverse).bind scalar? with
    | some c => pure c
    | none => failure
  | n + 1, digits => do codePoint n ((← next) :: digits)

/-- The character that stands behind a backslash. -/
def escape : Reader Char := do
  match ← next with
  | 'b' => pure '\x08'
  | 't' => pure '\t'
  | 'n' => pure '\n'
  | 'f' => pure '\x0c'
  | 'r' => pure '\r'
  | 'e' => pure '\x1b'
  | '"' => pure '"'
  | '\\' => pure '\\'
  | 'x' => codePoint 2 []
  | 'u' => codePoint 4 []
  | 'U' => codePoint 8 []
  | _ => failure

/-- The rest of a string on one line. Only double quotes admit escapes. -/
def lineTail (quote : Char) : Nat → List Char → Reader String
  | 0, _ => failure
  | fuel + 1, read => do
    let c ← next
    if c = quote then pure (String.ofList read.reverse)
    else if c = '\\' ∧ quote = '"' then lineTail quote fuel ((← escape) :: read)
    else if isPlain c then lineTail quote fuel (c :: read)
    else failure

/-- Whether a line ends behind a backslash, with nothing but blanks in between. -/
def foldsLine : Reader Bool := fun cs =>
  match cs.dropWhile isBlankInLine with
  | '\n' :: _ | '\r' :: '\n' :: _ => some (true, cs)
  | _ => some (false, cs)

/-- Skips blanks and ends of lines. -/
def margin : Nat → Reader Unit
  | 0 => failure
  | fuel + 1 => do
    blanks
    if ← accept ['\n'] then margin fuel
    else if ← accept ['\r', '\n'] then margin fuel
    else pure ()

/-- Takes two quotes at most, and tells how many there were. -/
def moreQuotes (quote : Char) : Reader Nat := do
  if !(← accept [quote]) then return 0
  if ← accept [quote] then return 2
  return 1

/-- The rest of a string over several lines, which ends with three quotes. One or two quotes
directly in front of them belong to the text. -/
def blockTail (quote : Char) : Nat → List Char → Reader String
  | 0, _ => failure
  | fuel + 1, read => do
    if ← accept [quote, quote, quote] then
      let more ← moreQuotes quote
      return String.ofList (List.replicate more quote ++ read).reverse
    let c ← next
    if c = '\\' ∧ quote = '"' then
      if ← foldsLine then
        margin (fuel + 1)
        blockTail quote fuel read
      else blockTail quote fuel ((← escape) :: read)
    else if c = '\r' then
      char '\n'
      blockTail quote fuel ('\n' :: '\r' :: read)
    else if isPlain c || c = '\n' then blockTail quote fuel (c :: read)
    else failure

/-- A string of a text of at most `size` characters. -/
def string (size : Nat) (quote : Char) : Reader String := do
  if ← accept [quote, quote, quote] then
    if !(← accept ['\n']) then discard (accept ['\r', '\n'])
    blockTail quote (size + 1) []
  else
    char quote
    lineTail quote (size + 1) []

/-! ## Numbers -/

/-- The digits of a run in which single underscores may stand between digits. -/
def ungrouped? (isDigit : Char → Bool) : List Char → Option (List Char)
  | [] => none
  | [c] => if isDigit c then some [c] else none
  | c :: '_' :: rest => if isDigit c then (ungrouped? isDigit rest).map (c :: ·) else none
  | c :: rest => if isDigit c then (ungrouped? isDigit rest).map (c :: ·) else none

/-- The digits of a whole number without zeros in front. -/
def wholeDigits? (cs : List Char) : Option (List Char) :=
  match ungrouped? Char.isDigit cs with
  | some ('0' :: _ :: _) => none
  | other => other

/-- Splits a sign off: whether it is a minus, and the rest. -/
def signed : List Char → Bool × List Char
  | '-' :: cs => (true, cs)
  | '+' :: cs => (false, cs)
  | cs => (false, cs)

/-- The value of digits in a base. -/
def based? (base : Nat) (cs : List Char) : Option Nat :=
  (ungrouped? (fun c => (hexDigit? c).any (· < base)) cs).bind (inBase? base)

/-- The value of a whole number in 64 bits. -/
def integer? (word : List Char) : Option Int :=
  let value? : Option Int := match word with
    | '0' :: 'x' :: cs => (based? 16 cs).map Int.ofNat
    | '0' :: 'o' :: cs => (based? 8 cs).map Int.ofNat
    | '0' :: 'b' :: cs => (based? 2 cs).map Int.ofNat
    | _ =>
      let (negative, cs) := signed word
      ((wholeDigits? cs).bind (inBase? 10)).map fun n => if negative then -(n : Int) else n
  value?.bind NumeralRange.int64.check?

/-- The value of an exponent. -/
def exponent? (cs : List Char) : Option Int :=
  let (negative, cs) := signed cs
  ((ungrouped? Char.isDigit cs).bind (inBase? 10)).map fun n => if negative then -(n : Int) else n

/-- The value of a floating point number, which has a fraction, an exponent or a name. -/
def float? (word : List Char) : Option Binary64 :=
  let (negative, cs) := signed word
  match cs with
  | ['i', 'n', 'f'] => some (.infinite negative)
  | ['n', 'a', 'n'] => some .nan
  | _ =>
    let isMark (c : Char) : Bool := c == 'e' || c == 'E'
    let mantissa := cs.takeWhile (!isMark ·)
    let whole := mantissa.takeWhile (· != '.')
    let fraction? := match mantissa.dropWhile (· != '.') with
      | [] => some []
      | _ :: cs => ungrouped? Char.isDigit cs
    let exponent? := match cs.dropWhile (!isMark ·) with
      | [] => some 0
      | _ :: cs => exponent? cs
    if whole.length = cs.length then none
    else
      match wholeDigits? whole, fraction?, exponent? with
      | some digits, some fraction, some exponent =>
        (inBase? 10 (digits ++ fraction)).bind fun n =>
          let x := Binary64.ofDecimal negative n (exponent - fraction.length)
          if x.isInfinite then none else some x
      | _, _, _ => none

/-! ## Dates -/

/-- A number of exactly so many digits. -/
def number (digits : Nat) : Reader Nat := fun cs =>
  (if (cs.take digits).length = digits then Text.digits? (cs.take digits) else none).map
    (·, cs.drop digits)

/-- A number of two digits that is at most `greatest`. -/
def two (greatest : Nat) : Reader Nat := do
  let n ← number 2
  if n ≤ greatest then pure n else failure

/-- A number in two digits. -/
def twoDigits (n : Nat) : String := if n < 10 then "0" ++ Nat.repr n else Nat.repr n

/-- A date that the calendar has, as text. -/
def date : Reader String := fun cs =>
  (do
    let year ← number 4
    char '-'
    let month ← number 2
    char '-'
    let day ← number 2
    if (Date.mk year month day).isValid then pure (String.ofList (cs.take 10)) else failure :
    Reader String) cs

/-- The fraction of a second, as text: of its digits nine are kept, without zeros at the end, but
one digit at least. -/
def fraction : Reader String := do
  let digits ← spanning Char.isDigit
  if digits = [] then failure
  let kept := ((digits.take 9).reverse.dropWhile (· == '0')).reverse
  pure ("." ++ String.ofList (if kept = [] then ['0'] else kept))

/-- A time of day, as text. The seconds, which may have a fraction, may be left out. -/
def time : Reader String := do
  let hour ← two 23
  char ':'
  let minute ← two 59
  let start := twoDigits hour ++ ":" ++ twoDigits minute
  if !(← accept [':']) then return start
  let second ← two 60
  let rest ← if ← accept ['.'] then fraction else pure ""
  pure (start ++ ":" ++ twoDigits second ++ rest)

/-- An offset from UTC, as text. -/
def offset : Reader String := do
  match ← next with
  | 'Z' | 'z' => pure "Z"
  | sign =>
    if sign ≠ '+' ∧ sign ≠ '-' then failure
    let hours ← two 23
    char ':'
    let minutes ← two 59
    let sign := if hours = 0 ∧ minutes = 0 then '+' else sign
    pure (String.ofList [sign] ++ twoDigits hours ++ ":" ++ twoDigits minutes)

/-- A date, a time, or a date with a time, which may have an offset. -/
def dateTime : Reader String := fun cs =>
  (do
    let d ← date
    match ← peek? with
    | none => pure d
    | some c =>
      if c ≠ 'T' ∧ c ≠ 't' ∧ c ≠ ' ' then failure
      let _ ← next
      let t ← time
      let o ← if (← peek?).isSome then offset else pure ""
      pure (d ++ "T" ++ t ++ o) : Reader String) cs <|> time cs

/-- A character of a word. -/
def isWordChar (c : Char) : Bool :=
  c.isAlphanum || c == '_' || c == '+' || c == '-' || c == '.' || c == ':'

/-- A word. Behind a date, a blank and a word that begins with a digit belong to it. -/
def word : Reader (List Char) := do
  let cs ← spanning isWordChar
  if (date cs).any (·.2.isEmpty) then
    fun
    | ' ' :: c :: rest =>
      if c.isDigit then
        some (cs ++ ' ' :: (c :: rest).takeWhile isWordChar, (c :: rest).dropWhile isWordChar)
      else some (cs, ' ' :: c :: rest)
    | rest => some (cs, rest)
  else pure cs

end TopicConsumer.Toml
