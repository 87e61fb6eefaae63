import TopicConsumer.Broker.Call
import TopicConsumer.Log
import TopicConsumer.Time.Timestamp

/-!
# The state of partitions

For each partition the manager knows since when it is assigned, at which offset it is paused, and
the position up to which its records have been handled, which is the next one to commit. Its
operations call the broker; a call that fails is reported in the log and changes nothing else.

`PartitionState.perform` is an operation on the state of the one partition it is about, together
with the calls it makes and the lines it logs. `Manager.perform` does it on the state of all
partitions.
-/

namespace TopicConsumer

/-- What is known of a partition. -/
structure PartitionState where
  assignedAt : Option Timestamp
  pausedAt : Option Offset
  /-- The position after the last record known to be handled. -/
  committed : Option Offset
  deriving DecidableEq, Inhabited

/-- Nothing is known of the partition. -/
def PartitionState.empty : PartitionState := ⟨none, none, none⟩

/-- What can be asked of the state of a partition. -/
inductive StateOp where
  /-- The partition is assigned as of what the clock shows. -/
  | assign (reading : ClockReading)
  /-- Everything about the partition is forgotten. -/
  | revoke
  /-- The partition is paused at an offset, unless it is paused already. -/
  | pause (offset : Offset)
  /-- If the partition is paused, it is resumed from the offset of the pause. -/
  | resume
  /-- The record of an offset has been handled. -/
  | store (offset : Offset)
  /-- The position after the last handled record is committed. -/
  | commit
  deriving DecidableEq

/-- What an operation leads to. -/
structure StateEffect where
  /-- The state afterwards. -/
  state : PartitionState
  /-- The calls made, in order, each with its answer. -/
  calls : List (BrokerCall × Answer)
  logs : List LogLine
  /-- The text of the crash, if a call crashed. -/
  crash : Option String
  deriving DecidableEq

namespace PartitionState

variable (p : TopicPartition)

/-- The partition is paused at an offset: the pause is noted only if the broker did it. -/
def pause (s : PartitionState) (answers : Answers) (offset : Offset) : StateEffect :=
  match s.pausedAt with
  | some _ => ⟨s, [], [.trace s!"分区 {p} 已暂停"], none⟩
  | none =>
    let call := BrokerCall.pause p
    match answers call with
    | .done =>
      ⟨{ s with pausedAt := some offset }, [(call, .done)],
        [.debug s!"暂停分区 {Position.mk p offset}"], none⟩
    | .failed e =>
      ⟨s, [(call, .failed e)], [.warn s!"暂停分区 {Position.mk p offset} 失败：{e}"], none⟩
    | .crashed text => ⟨s, [(call, .crashed text)], [], some text⟩

/-- The partition is resumed where it was paused. The note of the pause is gone afterwards, whether
the broker did what it was asked or not. -/
def resume (s : PartitionState) (answers : Answers) : StateEffect :=
  match s.pausedAt with
  | none => ⟨s, [], [], none⟩
  | some offset =>
    let position := Position.mk p offset
    let seek := BrokerCall.seek position
    let sought := answers seek
    let seekLogs := match sought with
      | .failed e => [LogLine.warn s!"重置分区 {position} 读取位置失败：{e}"]
      | _ => []
    match sought with
    | .crashed text => ⟨s, [(seek, sought)], [], some text⟩
    | _ =>
      let call := BrokerCall.resume p
      let resumed := { s with pausedAt := none }
      match answers call with
      | .done =>
        ⟨resumed, [(seek, sought), (call, .done)], seekLogs ++ [.debug s!"恢复分区 {position}"], none⟩
      | .failed e =>
        ⟨resumed, [(seek, sought), (call, .failed e)],
          seekLogs ++ [.warn s!"恢复分区 {position} 失败：{e}"], none⟩
      | .crashed text => ⟨s, [(seek, sought), (call, .crashed text)], seekLogs, some text⟩

/-- A handled record moves the position behind it, never back. -/
def store (s : PartitionState) (answers : Answers) (offset : Offset) : StateEffect :=
  let next := offset + 1
  match s.committed.filter (next < ·) with
  | some cached => ⟨s, [], [.warn s!"分区 {p} 的提交位置 {next} 落后于已存储的 {cached}，跳过存储"], none⟩
  | none =>
    let position := Position.mk p next
    let call := BrokerCall.store position
    let stored := { s with committed := some next }
    match answers call with
    | .done => ⟨stored, [(call, .done)], [.trace s!"已存储提交位置 {position}"], none⟩
    | .failed e => ⟨stored, [(call, .failed e)], [.warn s!"存储提交位置 {position} 失败：{e}"], none⟩
    | .crashed text => ⟨s, [(call, .crashed text)], [], some text⟩

/-- The position is committed, if there is one. -/
def commit (s : PartitionState) (answers : Answers) : StateEffect :=
  match s.committed with
  | none => ⟨s, [], [.trace s!"分区 {p} 没有待提交的偏移量"], none⟩
  | some next =>
    let position := Position.mk p next
    let call := BrokerCall.commit position
    match answers call with
    | .done => ⟨s, [(call, .done)], [.debug s!"提交 {position}"], none⟩
    | .failed (.notMember text) =>
      ⟨s, [(call, .failed (.notMember text))],
        [.debug s!"消费者已不在消费组中，忽略提交 {position}：{text}"], none⟩
    | .failed e => ⟨s, [(call, .failed e)], [.warn s!"提交 {position} 失败：{e}"], none⟩
    | .crashed text => ⟨s, [(call, .crashed text)], [], some text⟩

/-- Performs an operation on the state of the partition `p`. -/
def perform (s : PartitionState) (answers : Answers) : StateOp → StateEffect
  | .assign (.shown now) => ⟨{ s with assignedAt := some now }, [], [.debug s!"登记分区 {p}"], none⟩
  | .assign (.crashed text) => ⟨s, [], [], some text⟩
  | .revoke => ⟨.empty, [], [.debug s!"清除分区 {p} 的状态"], none⟩
  | .pause offset => s.pause p answers offset
  | .resume => s.resume p answers
  | .store offset => s.store p answers offset
  | .commit => s.commit p answers

end PartitionState

/-- The states of all partitions. -/
structure Manager where
  state : TopicPartition → PartitionState

namespace Manager

/-- Nothing is known of any partition. -/
def empty : Manager := ⟨fun _ => .empty⟩

instance : Inhabited Manager := ⟨empty⟩

/-- The manager with another state of one partition. -/
def set (m : Manager) (p : TopicPartition) (s : PartitionState) : Manager :=
  ⟨fun q => if q = p then s else m.state q⟩

@[simp] theorem state_set_self (m : Manager) (p : TopicPartition) (s : PartitionState) :
    (m.set p s).state p = s := by
  simp [set]

theorem state_set_of_ne (m : Manager) {p q : TopicPartition} (h : q ≠ p) (s : PartitionState) :
    (m.set p s).state q = m.state q := by
  simp [set, h]

/-- What an operation on a partition leads to. -/
def effect (m : Manager) (p : TopicPartition) (answers : Answers) (op : StateOp) : StateEffect :=
  (m.state p).perform p answers op

/-- The states after an operation on a partition. -/
def perform (m : Manager) (p : TopicPartition) (answers : Answers) (op : StateOp) : Manager :=
  m.set p (m.effect p answers op).state

/-- The partition is paused. -/
def isPaused (m : Manager) (p : TopicPartition) : Bool := (m.state p).pausedAt.isSome

end Manager

end TopicConsumer
