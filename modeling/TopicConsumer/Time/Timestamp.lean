import TopicConsumer.Time.Calendar

/-!
# Instants with a UTC offset

A timestamp is an instant, counted in nanoseconds from the beginning of 1970 in UTC, together with
the offset of the place in whose local time it is written. Its local date lies in the years -9999 to
9999; the instant itself may lie a day outside them. Timestamps are ordered by their instants alone.
-/

namespace TopicConsumer

/-- Nanoseconds in a second. -/
def nanosPerSecond : Int := 1000000000

/-- Nanoseconds in a millisecond. -/
def nanosPerMilli : Int := 1000000

/-- Nanoseconds in a day. -/
def nanosPerDay : Int := 86400 * nanosPerSecond

/-- The first local nanosecond that can be written: year -9999 begins. -/
def firstLocalNano : Int := -4371587 * nanosPerDay

/-- The last local nanosecond that can be written: year 9999 ends. -/
def lastLocalNano : Int := 2932897 * nanosPerDay - 1

/-- Counted in local nanoseconds, the date is one that can be written. -/
def RepresentableLocal (n : Int) : Prop := firstLocalNano ≤ n ∧ n ≤ lastLocalNano

instance (n : Int) : Decidable (RepresentableLocal n) := inferInstanceAs (Decidable (_ ∧ _))

/-- An instant in the local time of a UTC offset given in seconds. -/
structure Timestamp where
  /-- Nanoseconds since the beginning of 1970 in UTC. -/
  nanos : Int
  /-- Seconds by which local time is ahead of UTC. -/
  offset : Int
  representable : RepresentableLocal (nanos + offset * nanosPerSecond)
  deriving DecidableEq

namespace Timestamp

/-- The local clock, in nanoseconds. -/
def localNanos (t : Timestamp) : Int := t.nanos + t.offset * nanosPerSecond

/-- The instant in the local time of `offset`, if its local date can be written. -/
def at? (nanos offset : Int) : Option Timestamp :=
  if h : RepresentableLocal (nanos + offset * nanosPerSecond) then some ⟨nanos, offset, h⟩ else none

/-- The beginning of 1970 in UTC. -/
def epoch : Timestamp := ⟨0, 0, by decide⟩

instance : Inhabited Timestamp := ⟨epoch⟩

/-- The instant in UTC, if its date can be written. -/
def ofNanos? (nanos : Int) : Option Timestamp := at? nanos 0

/-- Milliseconds after the epoch, in UTC, if the date can be written. -/
def ofMillis? (ms : Int) : Option Timestamp := ofNanos? (ms * nanosPerMilli)

/-- The timestamp so many seconds later in the same local time, if its date can be written. -/
def addSeconds? (t : Timestamp) (seconds : Int) : Option Timestamp :=
  at? (t.nanos + seconds * nanosPerSecond) t.offset

/-- Nanoseconds from `t` to `u`, negative when `u` is the earlier instant. -/
def nanosTo (t u : Timestamp) : Int := u.nanos - t.nanos

/-- What is said of an instant whose date in UTC can be written, but not that in local time. -/
def unwritable : String := "local datetime out of valid range"

@[simp] theorem at?_eq_some_iff {n o : Int} {t : Timestamp} :
    at? n o = some t ↔ t.nanos = n ∧ t.offset = o := by
  unfold at?
  split
  · next h =>
    constructor
    · rintro ⟨⟩; exact ⟨rfl, rfl⟩
    · rintro ⟨rfl, rfl⟩; rfl
  · next h =>
    constructor
    · rintro ⟨⟩
    · rintro ⟨rfl, rfl⟩; exact absurd t.representable h

/-! ## Writing a timestamp -/

/-- A number in decimal with zeros in front up to the given width. -/
def padded (width n : Nat) : String :=
  let digits := (Nat.repr n).toList
  String.ofList (List.replicate (width - digits.length) '0' ++ digits)

/-- The fraction of a second without its trailing zeros, of which one is kept if nothing else is. -/
def fractionText (nanos : Nat) : String :=
  let digits := (padded 9 nanos).toList.reverse.dropWhile (· == '0')
  if digits.isEmpty then "0" else String.ofList digits.reverse

/-- Date, clock and offset: the year has at least four digits, the hour none in front, and the
offset is written to the second. -/
def text (t : Timestamp) : String :=
  let localTime := t.localNanos
  let days := localTime.fdiv nanosPerDay
  let rest := (localTime - days * nanosPerDay).toNat
  let date := Date.ofDays days
  let second := rest / 1000000000
  let year := (if date.year < 0 then "-" else "") ++ padded 4 date.year.natAbs
  let clock := toString (second / 3600) ++ ":" ++ padded 2 (second / 60 % 60) ++ ":" ++
    padded 2 (second % 60) ++ "." ++ fractionText (rest % 1000000000)
  let ahead := t.offset.natAbs
  let offset := (if t.offset < 0 then "-" else "+") ++ padded 2 (ahead / 3600) ++ ":" ++
    padded 2 (ahead / 60 % 60) ++ ":" ++ padded 2 (ahead % 60)
  year ++ "-" ++ padded 2 date.month ++ "-" ++ padded 2 date.day ++ " " ++ clock ++ " " ++ offset

end Timestamp

/-- What a look at a clock leads to. -/
inductive ClockReading where
  | shown (instant : Timestamp)
  /-- The clock has crashed with a text. -/
  | crashed (text : String)
  deriving DecidableEq

end TopicConsumer
