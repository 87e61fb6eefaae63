/-!
# Pauses between attempts

After its `n`-th failure in a row a batch is tried again after ten to the `n` milliseconds, but no
longer than a given maximum, and a random jitter on top that keeps partitions from retrying in step.
-/

namespace TopicConsumer.Retry

/-- A jitter lies between 3 and 29 milliseconds. -/
structure Jitter where
  millis : Nat
  least : 3 ≤ millis
  most : millis < 30

/-- The least jitter. -/
def Jitter.smallest : Jitter := ⟨3, by decide, by decide⟩

/-- Ten to the number of failures, at most `maximum`. Twenty failures exceed every maximum that
fits into 64 bits, so that greater powers need not be formed. -/
def backoff (failures maximum : Nat) : Nat :=
  if failures < 20 then min (Nat.pow 10 failures) maximum else maximum

/-- The pause after so many failures. -/
def pause (failures maximum : Nat) (jitter : Jitter) : Nat :=
  backoff failures maximum + jitter.millis

/-- Failures are counted in 32 bits, and the count stays at the greatest number. -/
def countFailure (failures : Nat) : Nat := min (failures + 1) 4294967295

/-- Not forming the great powers changes nothing for a maximum of 64 bits. -/
theorem backoff_eq_min {failures maximum : Nat} (h : maximum < Nat.pow 2 64) :
    backoff failures maximum = min (Nat.pow 10 failures) maximum := by
  unfold backoff
  split
  · rfl
  · next h' =>
    have least : Nat.pow 2 64 ≤ Nat.pow 10 20 := by decide
    have power : Nat.pow 10 20 ≤ Nat.pow 10 failures :=
      Nat.pow_le_pow_right (by decide) (Nat.le_of_not_lt h')
    exact (Nat.min_eq_right (Nat.le_of_lt (Nat.lt_of_lt_of_le h (Nat.le_trans least power)))).symm

end TopicConsumer.Retry
