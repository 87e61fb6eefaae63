import TopicConsumer.Batch.Context

/-!
# Compaction by key

Compacting a batch keeps one message of each key: the one with the latest time and, among equally
late ones, the one that stands last. Messages without a key count as messages of one key. The kept
messages stand in the order in which their keys first occur.
-/

namespace TopicConsumer.Compaction

/-- Puts a message in the place of the kept message of its key, unless that one is later; a message
of a new key comes to stand at the end. No key is kept twice, so that the first message found here
is the one to which an index by key would lead. -/
def absorb (m : Message) : List Message → List Message
  | [] => [m]
  | kept :: rest =>
    if kept.key = m.key then
      (if kept.timestamp.nanos ≤ m.timestamp.nanos then m else kept) :: rest
    else kept :: absorb m rest

/-- The messages that are kept of a batch. -/
def compact (messages : List Message) : List Message :=
  messages.foldl (fun kept m => absorb m kept) []

/-- The step that compacts the batch before the rest of the chain. -/
def step {A : Dialogue} : BatchStep A := fun next ctx =>
  next.run { ctx with messages := compact ctx.messages }

end TopicConsumer.Compaction
