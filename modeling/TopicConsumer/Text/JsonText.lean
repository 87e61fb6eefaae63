/-!
# Writing JSON

Texts in compact JSON. Quotes, backslashes and control characters are escaped, everything else
stands as it is.
-/

namespace TopicConsumer.JsonText

/-- A digit of a code point in hexadecimal. -/
def hexDigit (n : Nat) : Char := Nat.digitChar (n % 16)

/-- A character inside a string. -/
def escaped (c : Char) : List Char :=
  match c with
  | '"' => ['\\', '"']
  | '\\' => ['\\', '\\']
  | '\x08' => ['\\', 'b']
  | '\x0c' => ['\\', 'f']
  | '\n' => ['\\', 'n']
  | '\r' => ['\\', 'r']
  | '\t' => ['\\', 't']
  | c =>
    if c < ' ' then ['\\', 'u', '0', '0', hexDigit (c.toNat / 16), hexDigit c.toNat] else [c]

/-- A string. -/
def string (s : String) : String := String.ofList ('"' :: s.toList.flatMap escaped ++ ['"'])

/-- A whole number. -/
def int (n : Int) : String := toString n

/-- A truth value. -/
def bool (b : Bool) : String := toString b

/-- A value, or null. -/
def option {α : Type} (write : α → String) : Option α → String
  | some a => write a
  | none => "null"

/-- A list of written items. -/
def list (items : List String) : String := "[" ++ ",".intercalate items ++ "]"

/-- An object of written values. -/
def object (entries : List (String × String)) : String :=
  "\x7b" ++ ",".intercalate (entries.map fun (key, value) => string key ++ ":" ++ value) ++ "\x7d"

end TopicConsumer.JsonText
