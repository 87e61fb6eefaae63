import TopicConsumer.Number.Binary64

/-!
# Numbers in six digits

A number is rounded to six significant digits, a tie going to the even digit, and zeros at the end
of a fraction are left out. Numbers of a million and more, and those below a ten-thousandth, are
written with an exponent of at least two digits.
-/

namespace TopicConsumer.Binary64

/-- The six digits of a positive quotient, with the power of ten that the first one counts. -/
def sixDigits (num den : Nat) : Nat × Int :=
  let first := decimalExponent num den
  let (n, d) :=
    if first < 5 then (num * Nat.pow 10 (5 - first).toNat, den)
    else (num, den * Nat.pow 10 (first - 5).toNat)
  let q := nearestQuotient n d
  if q = Nat.pow 10 6 then (q / 10, first + 1) else (q, first)

/-- A power of ten as it stands behind the digits. -/
def exponentText (exponent : Int) : String :=
  let places := toString exponent.natAbs
  (if exponent < 0 then "e-" else "e+") ++ (if places.length < 2 then "0" else "") ++ places

/-- The number in six digits at most. -/
def shortText : Binary64 → String
  | .nan => "nan"
  | .infinite negative => if negative then "-inf" else "inf"
  | .finite negative m e =>
    let magnitude :=
      if m = 0 then "0"
      else
        let (n, d) := ratio m e
        let (digits, first) := sixDigits n d
        if first < -4 ∨ 6 ≤ first then positional digits (-5) ++ exponentText first
        else positional digits (first - 5)
    (if negative then "-" else "") ++ magnitude

end TopicConsumer.Binary64
