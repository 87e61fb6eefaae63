import TopicConsumer.Broker.ClientError
import TopicConsumer.Log
import TopicConsumer.Message.Partition

/-!
# What a client tells on its own

A client tells of the changes of its partitions, before and after they are made, and of errors that
no call has caused. All of that is logged.
-/

namespace TopicConsumer

/-- A change of the partitions that a client has. -/
inductive Rebalance where
  | assign (partitions : List TopicPartition)
  | revoke (partitions : List TopicPartition)
  | failed (error : ClientError)

namespace Rebalance

/-- What is logged before the change. -/
def linesBefore : Rebalance → List LogLine
  | .assign _ => []
  | .revoke ps => [.info s!"撤销 {ps.length} 个分区"]
  | .failed e => [.error s!"再均衡错误：{e}"]

/-- What is logged after the change. -/
def linesAfter : Rebalance → List LogLine
  | .assign ps => [.info s!"分配 {ps.length} 个分区"]
  | .revoke _ | .failed _ => []

end Rebalance

/-- What is logged of an error that the client reports on its own. -/
def ClientError.reported (e : ClientError) (reason : String) : LogLine :=
  if e.isFatal then .error s!"Kafka客户端致命错误：{e}，{reason}"
  else .warn s!"Kafka客户端错误：{e}，{reason}"

end TopicConsumer
