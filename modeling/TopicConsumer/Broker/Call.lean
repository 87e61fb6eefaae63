import TopicConsumer.Broker.Error
import TopicConsumer.Message.Partition

/-!
# Calls of a broker

The calls by which a consumer acts on single partitions of its broker, and how the broker answers
them: it does what was asked, fails with an error, or crashes the task that called it.
-/

namespace TopicConsumer

/-- A call about one partition. -/
inductive BrokerCall where
  /-- Stop delivering the partition. -/
  | pause (partition : TopicPartition)
  /-- Deliver the partition again. -/
  | resume (partition : TopicPartition)
  /-- Deliver from this position on. -/
  | seek (position : Position)
  /-- Remember the position, for a commit later on. -/
  | store (position : Position)
  /-- Commit the position. -/
  | commit (position : Position)
  deriving DecidableEq

namespace BrokerCall

/-- The partition that the call is about. -/
def partition : BrokerCall → TopicPartition
  | .pause p | .resume p => p
  | .seek q | .store q | .commit q => q.partition

/-- What the call does, in one word. -/
def verb : BrokerCall → String
  | .pause _ => "pause"
  | .resume _ => "resume"
  | .seek _ => "seek"
  | .store _ => "store"
  | .commit _ => "commit"

/-- The partition or the position in words. -/
def subject : BrokerCall → String
  | .pause p | .resume p => p.text
  | .seek q | .store q | .commit q => q.text

/-- The call in words. -/
def text (c : BrokerCall) : String := c.verb ++ " " ++ c.subject

end BrokerCall

/-- How the broker answers a call. -/
inductive Answer where
  | done
  | failed (error : BrokerError)
  | crashed (text : String)
  deriving DecidableEq

/-- The answer to each call that may be made. -/
abbrev Answers := BrokerCall → Answer

end TopicConsumer
