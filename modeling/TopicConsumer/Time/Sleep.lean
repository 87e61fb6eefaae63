/-!
# The end of a sleep

Waits are measured in whole milliseconds. However long a sleep is meant to be, it lasts no more than
thirty years of 365 days.
-/

namespace TopicConsumer

/-- The milliseconds that a sleep lasts at most. -/
def longestSleep : Nat := 30 * 365 * 24 * 60 * 60 * 1000

/-- When a sleep of so many milliseconds ends that begins now. -/
def sleepEnd (now ms : Nat) : Nat := now + min ms longestSleep

theorem le_sleepEnd (now ms : Nat) : now ≤ sleepEnd now ms := Nat.le_add_right _ _

end TopicConsumer
