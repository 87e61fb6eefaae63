/-!
# Reading numerals

A numeral is a run of the ten ASCII digits with an optional sign in front. Nothing else may stand in
it: no blank, no separator, no exponent. A numeral without a minus is read against an upper bound; a
minus is admitted only where negative values are in range, so `-0` is no unsigned numeral.
-/

namespace TopicConsumer.Text

/-- The value of an ASCII digit. -/
def digit? (c : Char) : Option Nat :=
  if '0' ≤ c ∧ c ≤ '9' then some (c.toNat - '0'.toNat) else none

/-- The value of the digits read after `acc`. -/
def digitsFrom? (acc : Nat) : List Char → Option Nat
  | [] => some acc
  | c :: cs => (digit? c).bind fun d => digitsFrom? (acc * 10 + d) cs

/-- The value of a nonempty run of digits. -/
def digits? : List Char → Option Nat
  | [] => none
  | cs => digitsFrom? 0 cs

/-- The range of values that a numeral may have. -/
structure NumeralRange where
  least : Int
  greatest : Int

namespace NumeralRange

def int32 : NumeralRange := ⟨-2147483648, 2147483647⟩
def int64 : NumeralRange := ⟨-9223372036854775808, 9223372036854775807⟩
def nat8 : NumeralRange := ⟨0, 255⟩
def nat64 : NumeralRange := ⟨0, 18446744073709551615⟩

/-- The value lies in the range. -/
def contains (r : NumeralRange) (n : Int) : Bool := r.least ≤ n && n ≤ r.greatest

/-- The value itself if the range has it. -/
def check? (r : NumeralRange) (n : Int) : Option Int := if r.contains n then some n else none

/-- The value of a numeral whose value is in the range. -/
def readChars? (r : NumeralRange) : List Char → Option Int
  | '+' :: cs => (digits? cs).bind fun n => r.check? n
  | '-' :: cs => if r.least < 0 then (digits? cs).bind fun n => r.check? (-n) else none
  | cs => (digits? cs).bind fun n => r.check? n

/-- The value of a numeral whose value is in the range. -/
def read? (r : NumeralRange) (s : String) : Option Int := r.readChars? s.toList

end NumeralRange

end TopicConsumer.Text
