import TopicConsumer.Text.Utf8
import TopicConsumer.Time.Timestamp

/-!
# Reading RFC 3339

A date-time is `YYYY-MM-DD`, one separating byte of any kind, `hh:mm:ss`, a fraction of a second of
any length if there is one, and `Z` or an offset `±hh:mm`. Digits after the ninth of a fraction are
dropped. Second 60 is read only at the very end, in UTC, of the last day of a month, where it stands
for the last nanosecond before it.
-/

namespace TopicConsumer.Rfc3339

/-- A reader takes a value off the front of the bytes. -/
abbrev Reader (α : Type) := List UInt8 → Option (α × List UInt8)

/-- The value of a digit. -/
def digit : Reader Nat
  | [] => none
  | b :: rest => if 48 ≤ b ∧ b ≤ 57 then some (b.toNat - 48, rest) else none

/-- The value of exactly `n` digits. -/
def digits : Nat → Nat → Reader Nat
  | 0, acc, rest => some (acc, rest)
  | n + 1, acc, rest => (digit rest).bind fun (d, rest) => digits n (acc * 10 + d) rest

/-- The value of exactly `n` digits. -/
def number (n : Nat) : Reader Nat := digits n 0

/-- A number of two digits that is at most `greatest`. -/
def two (greatest : Nat) : Reader Nat := fun rest =>
  (number 2 rest).filter (·.1 ≤ greatest)

/-- The given byte. -/
def byte (expected : UInt8) : Reader Unit
  | [] => none
  | b :: rest => if b = expected then some ((), rest) else none

/-- Any byte at all. -/
def anyByte : Reader Unit
  | [] => none
  | _ :: rest => some ((), rest)

/-- The value in nanoseconds of the digits of a fraction, the next of which counts `unit`. -/
def fractionFrom (unit acc : Nat) : List UInt8 → Nat × List UInt8
  | [] => (acc, [])
  | b :: rest =>
    if 48 ≤ b ∧ b ≤ 57 then fractionFrom (unit / 10) (acc + unit * (b.toNat - 48)) rest
    else (acc, b :: rest)

/-- The fraction of a second in nanoseconds: a point and at least one digit, or nothing. -/
def fraction : Reader Nat
  | 46 :: rest => (digit rest).map fun (d, rest) => fractionFrom 10000000 (d * 100000000) rest
  | rest => some (0, rest)

/-- The offset in seconds: `Z` in either case, or a sign, hours and minutes. -/
def offset : Reader Int
  | 90 :: rest | 122 :: rest => some (0, rest)
  | 43 :: rest => signed 1 rest
  | 45 :: rest => signed (-1) rest
  | _ => none
where
  /-- Hours and minutes of an offset with the given sign. -/
  signed (sign : Int) : Reader Int := fun rest => do
    let (hours, rest) ← two 23 rest
    let (_, rest) ← byte 58 rest
    let (minutes, rest) ← two 59 rest
    pure (sign * (hours * 3600 + minutes * 60 : Nat), rest)

/-- What a date-time says, before it is checked against the calendar. -/
structure Fields where
  date : Date
  hour : Nat
  minute : Nat
  second : Nat
  nano : Nat
  offset : Int

/-- The fields of a date-time and what stands behind it. -/
def fields : Reader Fields := fun rest => do
  let (year, rest) ← number 4 rest
  let (_, rest) ← byte 45 rest
  let (month, rest) ← number 2 rest
  let (_, rest) ← byte 45 rest
  let (day, rest) ← number 2 rest
  let (_, rest) ← anyByte rest
  let (hour, rest) ← number 2 rest
  let (_, rest) ← byte 58 rest
  let (minute, rest) ← number 2 rest
  let (_, rest) ← byte 58 rest
  let (second, rest) ← number 2 rest
  let (nano, rest) ← fraction rest
  let (offset, rest) ← offset rest
  pure (⟨⟨year, month, day⟩, hour, minute, second, nano, offset⟩, rest)

/-- The instant of fields whose second is at most 59. -/
def Fields.nanos (f : Fields) : Int :=
  (f.date.toDays * 86400 + (f.hour * 3600 + f.minute * 60 + f.second : Nat) - f.offset) *
    nanosPerSecond + f.nano

/-- The instant, one nanosecond before a month ends in UTC. -/
def endsMonth (nanos : Int) : Bool :=
  (nanos + 1) % nanosPerDay == 0 && (Date.ofDays ((nanos + 1) / nanosPerDay)).day == 1

/-- The timestamp of the fields, if the calendar and the clock have them. -/
def Fields.timestamp? (f : Fields) : Option Timestamp :=
  let f' := if f.second = 60 then { f with second := 59, nano := 999999999 } else f
  if f'.date.isValid && f'.hour < 24 && f'.minute < 60 && f'.second < 60 &&
      (f.second != 60 || endsMonth f'.nanos) then
    Timestamp.at? f'.nanos f'.offset
  else none

/-- The timestamp that a text states. -/
def read? (s : String) : Option Timestamp :=
  match fields (Text.encode s) with
  | some (f, []) => f.timestamp?
  | _ => none

end TopicConsumer.Rfc3339
