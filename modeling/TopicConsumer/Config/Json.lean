import TopicConsumer.Config.Value
import TopicConsumer.Text.Numeral
import TopicConsumer.Text.Reader

/-!
# Reading JSON

A JSON text is read as a configuration value. A number without fraction and exponent that fits into
64 bits is a whole number; any other number, and minus zero, is a floating point number. Of a
floating point number the digits that fit into 64 bits are read and multiplied or divided by a power
of ten, so that the last place may be off. Of repeated keys the last one counts. Values stand in
less than 128 others.
-/

namespace TopicConsumer.Json

open Text Reader

/-- Skips what may stand between tokens. -/
def blanks : Reader Unit :=
  discard (spanning fun c => c == ' ' || c == '\n' || c == '\t' || c == '\r')

/-- The character that a letter behind a backslash stands for. -/
def escaped? : Char → Option Char
  | '"' => some '"'
  | '\\' => some '\\'
  | '/' => some '/'
  | 'b' => some '\x08'
  | 'f' => some '\x0c'
  | 'n' => some '\n'
  | 'r' => some '\r'
  | 't' => some '\t'
  | _ => none

/-- The code point of two surrogates. -/
def joined (high low : Nat) : Nat := 0x10000 + (high - 0xD800) * 0x400 + (low - 0xDC00)

/-- The rest of a string behind what has been read of it, which is kept in reverse. -/
def stringTail (read : List Char) : List Char → Option (String × List Char)
  | '"' :: rest => some (String.ofList read.reverse, rest)
  | '\\' :: 'u' :: a :: b :: c :: d :: rest =>
    match inBase? 16 [a, b, c, d] with
    | none => none
    | some unit =>
      if 0xD800 ≤ unit ∧ unit ≤ 0xDBFF then
        match rest with
        | '\\' :: 'u' :: e :: f :: g :: h :: rest =>
          match inBase? 16 [e, f, g, h] with
          | none => none
          | some low =>
            if 0xDC00 ≤ low ∧ low ≤ 0xDFFF then
              stringTail (Char.ofNat (joined unit low) :: read) rest
            else none
        | _ => none
      else
        match scalar? unit with
        | none => none
        | some c => stringTail (c :: read) rest
  | '\\' :: c :: rest =>
    match escaped? c with
    | none => none
    | some c => stringTail (c :: read) rest
  | c :: rest => if c < ' ' then none else stringTail (c :: read) rest
  | [] => none

/-- A string, its opening quote included. -/
def string : Reader String := do
  char '"'
  stringTail []

/-! ## Numbers -/

/-- Digits taken into 64 bits as far as they fit, and how many were left over. -/
def significand (start : Nat) (digits : List Char) : Nat × Nat :=
  match digits with
  | [] => (start, 0)
  | c :: rest =>
    let next := start * 10 + (c.toNat - '0'.toNat)
    if Nat.pow 2 64 ≤ next then (start, digits.length) else significand next rest

/-- The significand times a power of ten. What is out of range is no number. -/
def float? (negative : Bool) (significand : Nat) (exponent : Int) : Option Binary64 :=
  (scaledBy (Binary64.ofNat significand) exponent 8).map fun x => if negative then x.neg else x
where
  /-- Multiplies or divides by the power of ten, in steps of at most `10 ^ 308`. -/
  scaledBy (x : Binary64) (exponent : Int) : Nat → Option Binary64
    | 0 => none
    | fuel + 1 =>
      if exponent.natAbs ≤ 308 then
        if 0 ≤ exponent then
          let y := x.mul (.ofNat (Nat.pow 10 exponent.natAbs))
          if y.isInfinite then none else some y
        else some (x.div (.ofNat (Nat.pow 10 exponent.natAbs)))
      else if x = .finite false 0 Binary64.leastExponent then some x
      else if 0 ≤ exponent then none
      else if exponent < -1500 then some (.finite false 0 Binary64.leastExponent)
      else scaledBy (x.div (.ofNat (Nat.pow 10 308))) (exponent + 308) fuel

/-- The digits in front of a fraction: a single zero, or digits without a zero in front. -/
def wholeDigits : Reader (List Char) := do
  let digits ← spanning Char.isDigit
  match digits with
  | [] => failure
  | '0' :: _ :: _ => failure
  | digits => pure digits

/-- The exponent behind a number, and zero if there is none. One that does not fit into 32 bits is
cut off far out of range. -/
def exponent : Reader (Option Int) := do
  match ← peek? with
  | some 'e' | some 'E' =>
    let _ ← next
    let sign : Int := if ← accept ['-'] then -1 else 1
    if sign = 1 then discard (accept ['+'])
    match digits? (← spanning Char.isDigit) with
    | none => failure
    | some n => pure (some (sign * (min n (Nat.pow 2 31) : Nat)))
  | _ => pure none

/-- A number. -/
def number (origin : Option String) : Reader ConfigValue := do
  let negative ← accept ['-']
  let digits ← wholeDigits
  let (whole, left) := significand 0 digits
  let fraction? ← if ← accept ['.'] then some <$> spanning Char.isDigit else pure none
  if fraction? = some [] then failure
  let exponent? ← exponent
  if fraction? = none ∧ exponent? = none ∧ left = 0 then
    if !negative then
      if whole < Nat.pow 2 63 then return .leaf origin (.integer whole)
      else return .leaf origin (.natural whole)
    else if 0 < whole ∧ whole ≤ Nat.pow 2 63 then return .leaf origin (.integer (-whole))
  let fraction := fraction?.getD []
  let (all, dropped) := significand whole fraction
  let places : Int := left - (fraction.length - dropped : Nat)
  match float? negative all (places + exponent?.getD 0) with
  | none => failure
  | some x => pure (.leaf origin (.float x))

/-! ## Values -/

/-- Items between commas up to a closing character, behind those already read. -/
def separated {α : Type} (item : Reader α) (close : Char) : Nat → List α → Reader (List α)
  | 0, _ => failure
  | fuel + 1, read => do
    let a ← item
    blanks
    if ← accept [close] then pure (a :: read).reverse
    else
      char ','
      separated item close fuel (a :: read)

/-- Items between commas, behind the opening character. -/
def enclosed {α : Type} (item : Reader α) (close : Char) (size : Nat) : Reader (List α) := do
  blanks
  if ← accept [close] then pure [] else separated item close size []

/-- An entry of an object. -/
def entry (value : Reader ConfigValue) : Reader (String × ConfigValue) := do
  blanks
  let key ← string
  blanks
  char ':'
  let v ← value
  pure (key, v)

/-- A value that stands in so many others at most, in a text of at most `size` characters. -/
def value (origin : Option String) (size : Nat) : Nat → Reader ConfigValue
  | 0 => failure
  | depth + 1 => do
    blanks
    match ← peek? with
    | some 'n' =>
      chars "null".toList
      pure (.leaf origin .null)
    | some 't' =>
      chars "true".toList
      pure (.leaf origin (.bool true))
    | some 'f' =>
      chars "false".toList
      pure (.leaf origin (.bool false))
    | some '"' => return .leaf origin (.text (← string))
    | some '[' =>
      if depth = 0 then failure
      let _ ← next
      return .list origin (← enclosed (value origin size depth) ']' size)
    | some '\x7b' =>
      if depth = 0 then failure
      let _ ← next
      let entries ← enclosed (entry (value origin size depth)) '\x7d' size
      return .table origin (entriesOf entries)
    | _ => number origin

/-- The value of a JSON text. -/
def read? (origin : Option String) (s : String) : Option ConfigValue :=
  (do let v ← value origin s.length 128; blanks; pure v : Reader ConfigValue).read? s

end TopicConsumer.Json
