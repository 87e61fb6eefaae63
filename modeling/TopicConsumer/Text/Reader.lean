/-!
# Readers

A reader takes a value off the front of a list of characters, or fails. Readers form a monad, in
which a later reader goes on where an earlier one stopped.
-/

namespace TopicConsumer.Text

/-- Takes a value off the front of the characters. -/
abbrev Reader := StateT (List Char) Option

namespace Reader

/-- The next character, which stays where it is. -/
def peek? : Reader (Option Char) := fun cs => some (cs.head?, cs)

/-- The next character. -/
def next : Reader Char
  | [] => none
  | c :: cs => some (c, cs)

/-- The next character, which has to satisfy a condition. -/
def satisfying (p : Char → Bool) : Reader Char
  | [] => none
  | c :: cs => if p c then some (c, cs) else none

/-- The given character. -/
def char (expected : Char) : Reader Unit
  | [] => none
  | c :: cs => if c = expected then some ((), cs) else none

/-- The given characters. -/
def chars (expected : List Char) : Reader Unit := fun cs =>
  if expected.isPrefixOf cs then some ((), cs.drop expected.length) else none

/-- Takes the given characters if they are next, and tells whether they were. -/
def accept (expected : List Char) : Reader Bool := fun cs =>
  if expected.isPrefixOf cs then some (true, cs.drop expected.length) else some (false, cs)

/-- All characters up to the first one that does not satisfy the condition. -/
def spanning (p : Char → Bool) : Reader (List Char) := fun cs =>
  some (cs.takeWhile p, cs.dropWhile p)

/-- Succeeds at the end of the characters. -/
def atEnd : Reader Unit
  | [] => some ((), [])
  | _ :: _ => none

/-- The value of a whole text. -/
def read? {α : Type} (r : Reader α) (s : String) : Option α :=
  match r s.toList with
  | some (a, []) => some a
  | _ => none

end Reader

/-- The value of a hexadecimal digit. -/
def hexDigit? (c : Char) : Option Nat :=
  if '0' ≤ c ∧ c ≤ '9' then some (c.toNat - '0'.toNat)
  else if 'a' ≤ c ∧ c ≤ 'f' then some (c.toNat - 'a'.toNat + 10)
  else if 'A' ≤ c ∧ c ≤ 'F' then some (c.toNat - 'A'.toNat + 10)
  else none

/-- The value of a nonempty run of digits in a base of at most sixteen. -/
def inBase? (base : Nat) (cs : List Char) : Option Nat :=
  if cs.isEmpty then none
  else cs.foldlM (fun acc c => (hexDigit? c).bind fun d =>
    if d < base then some (acc * base + d) else none) 0

/-- The character of a code point, if it is one. -/
def scalar? (n : Nat) : Option Char := if n.isValidChar then some (Char.ofNat n) else none

end TopicConsumer.Text
