/-!
# Binary floating point in 64 bits

A finite number is a mantissa of at most 53 bits times a power of two of at least `2 ^ -1074`.
Everything here is exact arithmetic on natural numbers: `ofRatio` rounds a quotient to the nearest
number, a tie going to the even mantissa, and `digits` finds the fewest decimal digits that read
back as the number.
-/

namespace TopicConsumer

/-- A floating point number of 64 bits. -/
inductive Binary64 where
  | nan
  | infinite (negative : Bool)
  /-- The mantissa times two to the exponent, with a sign. -/
  | finite (negative : Bool) (mantissa : Nat) (exponent : Int)
  deriving DecidableEq, Inhabited

namespace Binary64

/-- The least exponent. -/
def leastExponent : Int := -1074

/-- The greatest exponent of a mantissa of 53 bits. -/
def greatestExponent : Int := 971

/-- The natural quotient that is nearest to `num / den`, a tie going to the even one. -/
def nearestQuotient (num den : Nat) : Nat :=
  let q := num / den
  let r := num % den
  if 2 * r < den then q else if den < 2 * r then q + 1 else q + q % 2

/-- Numerator and denominator of `num / den` divided by two to the exponent. -/
def scaled (num den : Nat) (exponent : Int) : Nat × Nat :=
  if exponent < 0 then (num * Nat.pow 2 (-exponent).toNat, den)
  else (num, den * Nat.pow 2 exponent.toNat)

/-- The number with the given mantissa, which may have one bit too many after rounding. -/
def normal (negative : Bool) (mantissa : Nat) (exponent : Int) : Binary64 :=
  let (m, e) :=
    if mantissa = Nat.pow 2 53 then (Nat.pow 2 52, exponent + 1) else (mantissa, exponent)
  if greatestExponent < e then .infinite negative else .finite negative m e

/-- The number nearest to `num / den`, where `den` is positive. -/
def ofRatio (negative : Bool) (num den : Nat) : Binary64 :=
  if num = 0 then .finite negative 0 leastExponent
  else
    let guess : Int := (num.log2 : Int) - (den.log2 : Int) - 52
    let (n, d) := scaled num den guess
    let exponent := max leastExponent (if n / d < Nat.pow 2 52 then guess - 1 else guess)
    let (n, d) := scaled num den exponent
    normal negative (nearestQuotient n d) exponent

/-- The number nearest to `n`. -/
def ofNat (n : Nat) : Binary64 := ofRatio false n 1

/-- The number nearest to `mantissa * 10 ^ exponent`. What is far out of range is not computed. -/
def ofDecimal (negative : Bool) (mantissa : Nat) (exponent : Int) : Binary64 :=
  let places : Int := (Nat.toDigits 10 mantissa).length + exponent
  if mantissa = 0 ∨ places < -400 then .finite negative 0 leastExponent
  else if 400 < places then .infinite negative
  else if exponent < 0 then ofRatio negative mantissa (Nat.pow 10 (-exponent).toNat)
  else ofRatio negative (mantissa * Nat.pow 10 exponent.toNat) 1

/-- Numerator and denominator of the magnitude of a finite number. -/
def ratio (mantissa : Nat) (exponent : Int) : Nat × Nat :=
  if exponent < 0 then (mantissa, Nat.pow 2 (-exponent).toNat)
  else (mantissa * Nat.pow 2 exponent.toNat, 1)

/-- The product, rounded. -/
def mul : Binary64 → Binary64 → Binary64
  | .finite s m e, .finite s' m' e' =>
    let (n, d) := ratio m e
    let (n', d') := ratio m' e'
    ofRatio (s != s') (n * n') (d * d')
  | .infinite s, .finite s' _ _ | .finite s _ _, .infinite s' | .infinite s, .infinite s' =>
    .infinite (s != s')
  | _, _ => .nan

/-- The quotient of finite numbers, rounded. -/
def div : Binary64 → Binary64 → Binary64
  | .finite s m e, .finite s' m' e' =>
    let (n, d) := ratio m e
    let (n', d') := ratio m' e'
    if n' = 0 then .nan else ofRatio (s != s') (n * d') (d * n')
  | _, _ => .nan

/-- The number with its sign turned. -/
def neg : Binary64 → Binary64
  | .nan => .nan
  | .infinite s => .infinite !s
  | .finite s m e => .finite (!s) m e

/-- The number is infinite. -/
def isInfinite : Binary64 → Bool
  | .infinite _ => true
  | _ => false

/-- The number is finite. -/
def isFinite : Binary64 → Bool
  | .finite .. => true
  | _ => false

/-- The nearest natural number up to `greatest`, a half going away from zero; there is none below
zero, and none for what is no number. -/
def toNat (greatest : Nat) : Binary64 → Nat
  | .nan => 0
  | .infinite negative => if negative then 0 else greatest
  | .finite negative m e =>
    if negative then 0
    else
      let (n, d) := ratio m e
      min greatest ((2 * n + d) / (2 * d))

/-! ## The fewest digits -/

/-- The exponent `k` with `10 ^ k ≤ num / den < 10 ^ (k + 1)`, found from a guess that is off by at
most one. -/
def decimalExponent (num den : Nat) : Int :=
  let guess : Int := (Nat.toDigits 10 num).length - (Nat.toDigits 10 den).length
  let atLeast (k : Int) : Bool :=
    if k < 0 then den ≤ num * Nat.pow 10 (-k).toNat else den * Nat.pow 10 k.toNat ≤ num
  if atLeast (guess + 1) then guess + 1 else if atLeast guess then guess else guess - 1

/-- A positive number with the ends of the interval of the reals that round to it, all over the same
denominator. -/
structure Interval where
  low : Nat
  value : Nat
  high : Nat
  den : Nat
  /-- The ends round to the number too. -/
  closed : Bool

/-- The interval of a positive number. -/
def interval (m : Nat) (e : Int) : Interval :=
  let (n, d) := ratio 1 e
  let below := if m = Nat.pow 2 52 ∧ leastExponent < e then 1 else 2
  ⟨(4 * m - below) * n, 4 * m * n, (4 * m + 2) * n, 4 * d, m % 2 = 0⟩

/-- The decimal `digits * 10 ^ exponent` lies in the interval. -/
def Interval.contains (i : Interval) (digits : Nat) (exponent : Int) : Bool :=
  let (x, scale) :=
    if exponent < 0 then (digits * i.den, Nat.pow 10 (-exponent).toNat)
    else (digits * i.den * Nat.pow 10 exponent.toNat, 1)
  if i.closed then i.low * scale ≤ x && x ≤ i.high * scale
  else i.low * scale < x && x < i.high * scale

/-- Of the two decimals with unit `10 ^ exponent` on either side of the value the one that reads
back as the value; if both do, the nearer one, and of two equally near ones the greater. -/
def Interval.candidate? (i : Interval) (exponent : Int) : Option Nat :=
  let (n, d) :=
    if exponent < 0 then (i.value * Nat.pow 10 (-exponent).toNat, i.den)
    else (i.value, i.den * Nat.pow 10 exponent.toNat)
  let down := n / d
  let near := if 2 * (n % d) < d then down else down + 1
  let far := if near = down then down + 1 else down
  if i.contains near exponent then some near
  else if i.contains far exponent then some far
  else none

/-- Seventeen digits always suffice; the first unit at which a decimal reads back is taken. -/
def Interval.shortest (i : Interval) (exponent : Int) : Nat → Nat × Int
  | 0 => ((i.candidate? exponent).getD 0, exponent)
  | more + 1 =>
    match i.candidate? exponent with
    | some digits => (digits, exponent)
    | none => i.shortest (exponent - 1) more

/-- The digits of a positive number and the power of ten that the last one counts. -/
def digits (m : Nat) (e : Int) : Nat × Int :=
  let i := interval m e
  i.shortest (decimalExponent i.value i.den) 17

/-- A magnitude without an exponent: all its places are written out. -/
def positional (digits : Nat) (exponent : Int) : String :=
  let trimmed := (Nat.repr digits).toList.reverse.dropWhile (· == '0') |>.reverse
  let places := (Nat.repr digits).toList
  if digits = 0 then "0"
  else if 0 ≤ exponent then String.ofList (places ++ List.replicate exponent.toNat '0')
  else
    let point : Int := places.length + exponent
    let shown := trimmed
    if point ≤ 0 then String.ofList (['0', '.'] ++ List.replicate (-point).toNat '0' ++ shown)
    else
      let whole := places.take point.toNat
      let fraction := shown.drop point.toNat
      String.ofList (if fraction.isEmpty then whole else whole ++ '.' :: fraction)

/-- The number in the fewest digits that read back, without an exponent. -/
def text : Binary64 → String
  | .nan => "NaN"
  | .infinite negative => if negative then "-inf" else "inf"
  | .finite negative m e =>
    let (d, k) := if m = 0 then (0, 0) else digits m e
    (if negative then "-" else "") ++ positional d k

end Binary64

end TopicConsumer
