/-!
# How a partition is batched

The numbers by which the records of a partition are put into batches, queued and retried. All times
are milliseconds.
-/

namespace TopicConsumer

/-- The numbers that govern the worker of a partition. -/
structure BatchSettings where
  /-- The greatest number of messages in a batch. -/
  batchSize : Nat := 1
  /-- How long a batch waits for further messages after its first one. -/
  batchTimeout : Nat := 10000
  /-- How many admitted records may be unfinished at the same time. -/
  queueCapacity : Nat := 100
  /-- How long closing waits for the queue to drain. -/
  stopTimeout : Nat := 1000
  /-- The longest pause before a batch is tried again, not counting the jitter. -/
  maxRetryDelay : Nat := 60000
  deriving DecidableEq, Inhabited

namespace BatchSettings

/-- The fields that have to be at least 1 and are not, in alphabetical order. -/
def tooSmall (s : BatchSettings) : List String :=
  (if s.batchSize < 1 then ["batch_size"] else []) ++
    (if s.maxRetryDelay < 1 then ["max_retry_delay"] else []) ++
    (if s.queueCapacity < 1 then ["queue_capacity"] else [])

/-- Sizes of at least one, as a worker needs them. -/
def clamped (s : BatchSettings) : BatchSettings :=
  { s with batchSize := max s.batchSize 1, queueCapacity := max s.queueCapacity 1 }

theorem clamped_of_tooSmall_eq_nil {s : BatchSettings} (h : s.tooSmall = []) : s.clamped = s := by
  unfold tooSmall at h
  simp only [List.append_eq_nil_iff, ite_eq_right_iff, List.cons_ne_self, imp_false] at h
  obtain ⟨⟨h1, _⟩, h3⟩ := h
  simp [clamped, Nat.max_eq_left (Nat.le_of_not_lt h1), Nat.max_eq_left (Nat.le_of_not_lt h3)]

end BatchSettings

end TopicConsumer
