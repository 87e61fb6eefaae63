import TopicConsumer.Broker.Property
import TopicConsumer.Number.SixDigits
import TopicConsumer.Text.Fold
import TopicConsumer.Text.Numeral
import TopicConsumer.Text.Reader

/-!
# Values of properties

What the client library has against a value of a property. It skips the blanks in front of a value,
and it compares names without regard to case. Of a number it reads as much as makes a number and
nothing behind that.
-/

namespace TopicConsumer.ClientProperty

/-- The blanks that are skipped. -/
def isBlank (c : Char) : Bool := c == ' ' || ('\t' ≤ c && c ≤ '\r')

/-- A value without the blanks in front of it. -/
def trimmed (value : String) : String := String.ofList (value.toList.dropWhile isBlank)

/-! ## Numbers -/

/-- A sign, if there is one, and what follows it. -/
def signed : List Char → Bool × List Char
  | '-' :: cs => (true, cs)
  | '+' :: cs => (false, cs)
  | cs => (false, cs)

/-- The base in which digits are read, and the digits with what follows them: sixteen behind `0x`,
eight behind another zero, and ten otherwise. -/
def baseOf : List Char → Nat × List Char
  | '0' :: x :: d :: cs =>
    if (x = 'x' ∨ x = 'X') ∧ (Text.hexDigit? d).isSome then (16, d :: cs)
    else (8, '0' :: x :: d :: cs)
  | '0' :: cs => (8, '0' :: cs)
  | cs => (10, cs)

/-- The number that a text begins with, among those of 64 bits the nearest, and of that the lower 32
bits. -/
def leadingNumber? (s : String) : Option Int :=
  let (negative, cs) := signed (trimmed s).toList
  let (base, cs) := baseOf cs
  (Text.inBase? base (cs.takeWhile fun c => (Text.hexDigit? c).any (· < base))).map fun n =>
    let n : Int := if negative then -n else n
    let n := max Text.NumeralRange.int64.least (min n Text.NumeralRange.int64.greatest)
    n.bmod (Nat.pow 2 32)

/-- The digits at the beginning of a text, and what follows them. -/
def leadingDigits (cs : List Char) : List Char × List Char :=
  cs.span fun c => (Text.digit? c).isSome

/-- The exponent at the beginning of a text, nothing if there is none. -/
def leadingExponent : List Char → Int
  | c :: cs =>
    let (negative, cs) := signed cs
    let n : Int := ((Text.digits? (leadingDigits cs).1).getD 0 : Nat)
    if c = 'e' ∨ c = 'E' then if negative then -n else n else 0
  | [] => 0

/-- The number with a fraction and an exponent that a text begins with. -/
def leadingDecimal? (s : String) : Option Binary64 :=
  let (negative, cs) := signed (trimmed s).toList
  let (whole, cs) := leadingDigits cs
  let (fraction, cs) := match cs with
    | '.' :: rest => leadingDigits rest
    | rest => ([], rest)
  match Text.digits? (whole ++ fraction) with
  | some mantissa =>
    some (.ofDecimal negative mantissa (leadingExponent cs - fraction.length))
  | none =>
    let name := (cs.take 3).map Char.toLower
    if name = ['i', 'n', 'f'] then some (.infinite negative)
    else if name = ['n', 'a', 'n'] then some .nan
    else none

/-- The number lies outside a range that begins at zero or above. What is no number lies in it. -/
def isOutside (least greatest : Nat) : Binary64 → Bool
  | .nan => false
  | .infinite _ => true
  | .finite negative m e =>
    let (n, d) := Binary64.ratio m e
    if negative then 0 < n || 0 < least else n < least * d || greatest * d < n

/-! ## Other values -/

/-- The value of a flag. -/
def flagOf? (value : String) : Option Bool :=
  let value := Text.foldCase value
  if value = "true" ∨ value = "t" ∨ value = "1" then some true
  else if value = "false" ∨ value = "f" ∨ value = "0" then some false
  else none

/-- The names between the commas of a value, without a sign in front of them. Nothing stands behind
a comma at the end. -/
def flagNames (value : String) : List String :=
  ((value.splitOn ",").map fun name =>
    let name := (trimmed name).toList
    String.ofList (match name with
      | '+' :: rest | '-' :: rest => rest
      | name => name)).filter (· ≠ "")

/-- The texts that versions of brokers which are too old begin with. -/
def oldVersions : List String := ["0.7.", "0.6."]

/-! ## Complaints -/

/-- The name between quotes. -/
def quoted (p : ClientProperty) : String := "\"" ++ p.name ++ "\""

/-- The complaint about a value that is none of the property. -/
def invalid (p : ClientProperty) (value : String) : String :=
  "Invalid value \"" ++ value ++ "\" for configuration property " ++ p.quoted

/-- The complaint about a value that is empty. -/
def empty (p : ClientProperty) (kind : String) : String :=
  kind ++ " property " ++ p.quoted ++ " cannot be set to empty value"

/-- The complaint about a number. -/
def outside (p : ClientProperty) (value least greatest : String) : String :=
  "Configuration property " ++ p.quoted ++ " value " ++ value ++ " is outside allowed range " ++
    least ++ ".." ++ greatest ++ "\n"

/-- The complaint about a value that is to be one of some names. -/
def choiceComplaint? (p : ClientProperty) (choices : List Choice) (value : String) :
    Option String :=
  let name := trimmed value
  if value = "" then some (p.empty "Configuration")
  else if name = "" then none
  else
    match choices.find? fun c => Text.foldCase c.name == Text.foldCase name with
    | none => some (p.invalid name)
    | some c => c.missing.map fun reason =>
      "Unsupported value \"" ++ name ++ "\" for configuration property " ++ p.quoted ++ ": " ++
        reason

/-- What is wrong with a value. -/
def valueComplaint? (p : ClientProperty) (value : String) : Option String :=
  -- The value has to pass a test.
  let passing (test : String → Bool) : Option String :=
    if value = "" then some (p.invalid "(null)")
    else if test (trimmed value) then none
    else some (p.invalid (trimmed value))
  match p.values with
  | .text => none
  | .word => passing fun s => !s.toList.contains ',' && !s.toList.contains ' '
  | .oneOf texts => passing texts.contains
  | .version => passing fun s => !oldVersions.any fun old => old.toList.isPrefixOf s.toList
  | .flag =>
    if value = "" then some (p.empty "Bool configuration")
    else if (flagOf? value).isSome then none
    else some ("Expected bool value for " ++ p.quoted ++ ": true or false")
  | .number least greatest names =>
    if value = "" then some (p.empty "Integer configuration")
    else
      match (leadingNumber? value).or (names.lookup (Text.foldCase value)) with
      | none => some ("Invalid value for configuration property " ++ p.quoted)
      | some n =>
        if least ≤ n ∧ n ≤ greatest then none
        else some (p.outside (toString n) (toString least) (toString greatest))
  | .decimal least greatest =>
    if value = "" then some (p.empty "Float configuration")
    else
      match leadingDecimal? value with
      | none => some ("Invalid value for configuration property " ++ p.quoted)
      | some x =>
        if isOutside least greatest x then
          some (p.outside x.shortText (toString least) (toString greatest))
        else none
  | .choice choices => p.choiceComplaint? choices value
  | .flags names =>
    if value = "" then some (p.empty "Configuration")
    else
      ((flagNames value).find? fun name => !names.contains (Text.foldCase name)).map p.invalid
  | .code => some ("Property " ++ p.quoted ++ " must be set through dedicated .._set_..() function")
  | .internal => some ("Internal property " ++ p.quoted ++ " not settable")

/-- Why a property cannot be set to a value. -/
def complaint? (p : ClientProperty) (value : String) : Option String :=
  match p.missing with
  | some reason =>
    some ("Configuration property " ++ p.quoted ++ " not supported in this build: " ++ reason)
  | none => p.valueComplaint? value

end TopicConsumer.ClientProperty
