/-!
# Errors of a broker

An error of the broker either drops the consumer, which somebody then has to decide about, or it is
reported and the work goes on. Fatal errors and unknown partitions drop the consumer.
-/

namespace TopicConsumer

/-- Why a call of the broker failed. -/
inductive BrokerError where
  /-- The client cannot be used any more. -/
  | fatal (text : String)
  /-- The topic or the partition does not exist. -/
  | unknownPartition (text : String)
  /-- The consumer is no longer a member of its group. -/
  | notMember (text : String)
  /-- Anything that may pass. -/
  | transient (text : String)
  deriving DecidableEq

namespace BrokerError

/-- The wording of the error. -/
def message : BrokerError → String
  | .fatal text => "Kafka致命错误：" ++ text
  | .unknownPartition text => "未知主题或分区：" ++ text
  | .notMember text => "消费者已不在消费组中：" ++ text
  | .transient text => "Kafka错误：" ++ text

instance : ToString BrokerError := ⟨message⟩

/-- The name of the kind of the error. -/
def kind : BrokerError → String
  | .fatal _ => "Fatal"
  | .unknownPartition _ => "UnknownPartition"
  | .notMember _ => "NotMember"
  | .transient _ => "Transient"

/-- The error drops the consumer. -/
def dropsConsumer : BrokerError → Bool
  | .fatal _ | .unknownPartition _ => true
  | .notMember _ | .transient _ => false

end BrokerError

end TopicConsumer
