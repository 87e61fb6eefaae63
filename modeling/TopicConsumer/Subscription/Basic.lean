import TopicConsumer.Batch.Context
import TopicConsumer.Subscription.BatchSettings

/-!
# Subscriptions

A subscription names topics and says how the records of their partitions are batched, how a record
becomes a message, and who handles the batches.
-/

namespace TopicConsumer

/-- Makes a message of a record. -/
abbrev Converter := Record → Message

/-- Topics and what is done with their records. -/
structure Subscription (A : Dialogue) where
  topics : List String
  handler : Handler A
  batching : BatchSettings := {}
  convert : Converter := Record.toMessage

namespace Subscription

variable {A : Dialogue}

/-- The subscription with other batching, in which sizes of zero count as one. -/
def withBatching (s : Subscription A) (b : BatchSettings) : Subscription A :=
  { s with batching := b.clamped }

end Subscription

end TopicConsumer
