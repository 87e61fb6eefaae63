import TopicConsumer.Broker.Call
import TopicConsumer.Broker.ClientSettings
import TopicConsumer.Broker.TopicPattern
import TopicConsumer.Entries
import TopicConsumer.Log
import TopicConsumer.Message.Partition

/-!
# A client without brokers

A client of the library that has not been told of any broker never sees a partition. It can be
subscribed, paused and resumed, and its polls find nothing; what needs a partition or a group fails
with an error that says what is missing.

Of the settings of a client the name of the group and whether offsets are stored automatically
decide how it answers. Beyond them it remembers what it has heard of: a seek tells it of a topic,
and whatever else is done to a partition of such a topic tells it of the partition. A partition that
it has heard of is not unknown any more, but nothing is delivered from it either.
-/

namespace TopicConsumer

/-- A client that knows of no broker. -/
structure OfflineClient where
  /-- The settings, the last value of each name. -/
  settings : List (String × String)
  /-- Somebody listens to its rebalances. -/
  hasListener : Bool
  /-- The topics that it has heard of. -/
  topics : List String
  /-- The partitions that it has heard of. -/
  partitions : List TopicPartition
  deriving DecidableEq

namespace OfflineClient

/-- The value of a setting. -/
def setting? (c : OfflineClient) (name : String) : Option String := c.settings.lookup name

/-- A client of the given settings, of which the last one of each name counts. -/
def create (settings : List (String × String)) : Except ClientError OfflineClient :=
  let settings := entriesOf settings
  match ClientSettings.refusalOfAll? settings with
  | some e => .error e
  | none => .ok ⟨settings, false, [], []⟩

/-- The name of the client in its log. -/
def name (c : OfflineClient) : String := (c.setting? "client.id").getD "rill"

/-- The client belongs to a group. -/
def hasGroup (c : OfflineClient) : Bool := (c.setting? "group.id").isSome

/-- Offsets are stored automatically, and may not be stored otherwise. -/
def storesByItself (c : OfflineClient) : Bool :=
  ((c.setting? "enable.auto.offset.store").bind ClientProperty.flagOf?).getD true

/-- The client after it has heard of a partition, if it has heard of the topic. -/
def hear (c : OfflineClient) (p : TopicPartition) : OfflineClient :=
  if c.topics.contains p.topic then { c with partitions := c.partitions.insert p } else c

/-! ## Topics -/

/-- A topic that may be subscribed to; one that begins with `^` is a pattern. -/
def isSubscribable (topic : String) : Bool :=
  match topic.toList with
  | [] => false
  | '^' :: _ => TopicPattern.isValid topic
  | _ => true

/-- What a crash says where a topic holds a NUL: where the first one is, and the bytes. -/
def nulCrash? (topic : String) : Option String :=
  let bytes := Text.encode topic
  if bytes.contains 0 then
    some s!"Topic name is not UTF-8: NulError({bytes.idxOf 0}, {bytes.map UInt8.toNat})"
  else none

/-- The answer to a call that is handed some topics. -/
def handing (topics : List String) (answer : Answer) : Answer :=
  (topics.findSome? nulCrash?).elim answer .crashed

/-- The bytes that a topic has at most. -/
def longestTopic : Nat := 512

/-- What a crash says where a topic is too long. -/
def lengthCrash : String := "called `Option::unwrap()` on a `None` value"

/-! ## Calls -/

/-- The answer of a call that fails. -/
def failing (e : ClientError) : Answer := .failed e.toBrokerError

/-- The error of a client without a group. -/
def noGroup : ClientError := .worded .subscription "Local: Unknown group"

/-- Subscribes to topics: some topics, each of them once. -/
def subscribe (c : OfflineClient) (topics : List String) : Answer :=
  handing topics <|
    if !c.hasGroup then failing noGroup
    else if topics.isEmpty || !topics.all isSubscribable ||
        topics.eraseDups.length < topics.length then
      failing (.worded .subscription "Local: Invalid argument or configuration")
    else .done

/-- Stop delivering partitions, or deliver them again. -/
def pauseOrResume (c : OfflineClient) (ps : List TopicPartition) : OfflineClient × Answer :=
  (ps.foldl hear c, handing (ps.map TopicPartition.topic) .done)

/-- Deliver from a position on. -/
def seek (c : OfflineClient) (position : Position) : OfflineClient × Answer :=
  let p := position.partition
  if ClientSettings.holdsNul p.topic then (c, failing .holdsNul)
  else if longestTopic < p.topic.utf8ByteSize then (c, .crashed lengthCrash)
  else
    let reason :=
      if position.offset < 0 then "Local: Unrepresentable offset"
      else if c.partitions.contains p then "Local: Erroneous state"
      else "Local: Unknown partition"
    ({ c with topics := c.topics.insert p.topic }, failing (.worded .seeking reason))

/-- The answer to a call that is handed positions: an offset is not negative. The positions are
looked at in turn. -/
def handingPositions : List Position → Answer → Answer
  | [], answer => answer
  | q :: rest, answer =>
    handing [q.partition.topic] <|
      if q.offset < 0 then failing (.coded .partitionOffset .invalidArgument)
      else handingPositions rest answer

/-- Remember a position. -/
def store (c : OfflineClient) (position : Position) : OfflineClient × Answer :=
  let p := position.partition
  let refused := handingPositions [position] <|
    if c.storesByItself then failing (.coded .offsetStore .invalidArgument) else .done
  if refused ≠ .done then (c, refused)
  else if c.topics.contains p.topic then
    (c.hear p, failing (.coded .offsetStore .erroneousState))
  else (c, failing (.coded .offsetStore .unknownPartition))

/-- Commit positions. -/
def commit (c : OfflineClient) (positions : List Position) : Answer :=
  handingPositions positions <|
    if !c.hasGroup then failing (.coded .commit .unknownGroup)
    else failing (.coded .commit .noOffset)

/-- Names somebody who listens to the rebalances. Only the first one counts. -/
def listen (c : OfflineClient) : OfflineClient × List LogLine :=
  ({ c with hasListener := true },
    if c.hasListener then [.warn "再均衡监听已注册，忽略重复注册"] else [])

/-- What the client logs when it gives its subscription up. -/
def unsubscribe (c : OfflineClient) : List LogLine := [.debug (c.name ++ " 已取消订阅")]

/-- What the client logs when it is closed. -/
def close (c : OfflineClient) : List LogLine :=
  (if c.hasGroup then [] else [.warn s!"{c.name} 释放分区失败：{noGroup}"]) ++
    [.info (c.name ++ " 已关闭")]

end OfflineClient

end TopicConsumer
