import TopicConsumer.Message.Basic
import TopicConsumer.Pipeline.Basic
import TopicConsumer.State.Manager
import TopicConsumer.Subscription.BatchSettings
import TopicConsumer.Text.Quoted
import TopicConsumer.Worker.Retry

/-!
# Workers

Each assigned partition has a worker. Records are admitted to its queue as far as its capacity goes;
its batcher takes them from the queue, forms batches by number or by time, and has one batch handled
after the other. Of the capacity, a record holds one permit from its admission until its batch is
done or given up.

Three kinds of activity work on a worker at the same time: calls that enqueue a record, the batcher,
and the call that closes the worker. Each of them is a machine that moves in single steps, one
permit operation, one queue operation or one operation of the state manager at a time, and any of
them may move next. A step that cannot be made yet is `none`.
-/

namespace TopicConsumer

/-- What a worker is doing as a whole. -/
inductive WorkerStatus where
  /-- It takes records. -/
  | active
  /-- It is being closed and takes no more records. -/
  | draining
  | closed
  deriving DecidableEq

/-- The name of a status. -/
def WorkerStatus.name : WorkerStatus → String
  | .active => "Active"
  | .draining => "Draining"
  | .closed => "Closed"

/-- Why a worker did not take a record. -/
inductive WorkerError where
  | disposed (partition : TopicPartition)
  | cancelled (partition : TopicPartition)
  deriving DecidableEq

/-- The name of the kind of a worker error. -/
def WorkerError.kind : WorkerError → String
  | .disposed _ => "Disposed"
  | .cancelled _ => "Cancelled"

/-- The wording of a worker error. -/
def WorkerError.message : WorkerError → String
  | .disposed p => s!"分区 {p} 的工作者已关闭"
  | .cancelled p => s!"分区 {p} 的工作者已取消"

/-- Where the batcher of a worker stands. A batch is kept with the number of its failures so far. -/
inductive Batcher where
  /-- It waits for the first record of a batch. -/
  | idle
  /-- It waits until the deadline for the rest of a batch. -/
  | collecting (batch : List Record) (deadline : Nat)
  /-- Before an attempt it looks whether the worker is cancelled. -/
  | checking (batch : List Record) (failures : Nat)
  /-- Then it compares the batch with the committed position. -/
  | comparing (batch : List Record) (failures : Nat)
  /-- Then it hands the batch over, unless the worker is cancelled by now. -/
  | starting (batch : List Record) (failures : Nat)
  /-- The handler works on the batch. -/
  | handling (batch : List Record) (failures : Nat)
  /-- The batch failed and is tried again at a time. -/
  | backingOff (batch : List Record) (failures : Nat) (wake : Nat)
  /-- The batch is handled; its permits are about to be given back. -/
  | releasing (batch : List Record)
  /-- The permits are back; the last offset of the batch is about to be stored. -/
  | storing (last : Offset)
  /-- The offset is stored; the partition is about to be resumed. -/
  | resuming
  /-- The batch task has ended, by a crash if there is a text. -/
  | ended (crash : Option String)
  deriving DecidableEq

/-- The records that the batcher has taken from the queue and not given up yet. -/
def Batcher.batch : Batcher → List Record
  | .idle | .storing _ | .resuming | .ended _ => []
  | .collecting b _ | .checking b _ | .comparing b _ | .starting b _ | .handling b _
  | .backingOff b _ _ | .releasing b => b

/-- The batch task has ended. -/
def Batcher.hasEnded : Batcher → Bool
  | .ended _ => true
  | _ => false

/-- The worker of a partition. -/
structure Worker where
  partition : TopicPartition
  settings : BatchSettings
  status : WorkerStatus
  /-- Records may still be put into the queue. -/
  intakeOpen : Bool
  queue : List Record
  /-- The capacity that is not in use. -/
  permits : Nat
  /-- The offset of the record admitted last. -/
  latestQueued : Option Offset
  cancelled : Bool
  batcher : Batcher
  deriving DecidableEq

/-- Something that a step of a machine does beyond changing the state. -/
inductive Event where
  /-- A line is logged. -/
  | log (line : LogLine)
  /-- An operation of the state manager is performed. -/
  | operation (partition : TopicPartition) (op : StateOp)
  /-- A call of the broker is answered. -/
  | call (call : BrokerCall) (answer : Answer)
  /-- A batch is handed to the handler. -/
  | handed (batch : List Record)
  /-- The handler is left alone with a batch that it has not finished. -/
  | abandoned (batch : List Record)
  /-- For the `failures`-th time a batch failed; it is tried again after `pause` milliseconds. -/
  | failed (failures pause : Nat) (fault : Fault)
  deriving DecidableEq

/-- The circumstances of a step. -/
structure Surroundings where
  /-- Milliseconds on the clock by which waits are measured. -/
  now : Nat
  /-- The date and time. -/
  reading : ClockReading
  /-- How the broker answers the calls of this step. -/
  answers : Answers
  /-- The jitter of a pause that begins with this step. -/
  jitter : Retry.Jitter

/-- A worker and the states of the partitions, which it shares with other workers. -/
structure Station where
  manager : Manager
  worker : Worker

/-- The text of the error of a task that crashed. The number of the task is not told. -/
def crashedTask (text : String) : String := "task _ panicked with message " ++ Text.quoted text

/-- The wording of a fault. -/
def Fault.message : Fault → String
  | .failed text => text
  | .pipeline e => e.message
  | .taskCrashed text => crashedTask text

namespace Station

/-- A state after a step, with what the step did. -/
abbrev Moved := Station × List Event

/-- The station with another batcher phase. -/
def at_ (s : Station) (b : Batcher) : Station := { s with worker := { s.worker with batcher := b } }

/-- The position after the last handled record of the worker's partition. -/
def committed (s : Station) : Option Offset := (s.manager.state s.worker.partition).committed

/-- The worker's partition is paused. -/
def isPaused (s : Station) : Bool := s.manager.isPaused s.worker.partition

/-- Performs an operation of the state manager: the station afterwards, what was done, and the text
of the crash if there was one. -/
def operate (env : Surroundings) (p : TopicPartition) (op : StateOp) (s : Station) :
    Station × List Event × Option String :=
  let effect := s.manager.effect p env.answers op
  ({ s with manager := s.manager.set p effect.state },
    .operation p op :: effect.calls.map (fun (c, a) => .call c a) ++ effect.logs.map .log,
    effect.crash)

end Station

namespace Worker

/-- Bytes that a record takes up in a batch. -/
def recordBytes : Nat := 152

/-- The greatest number of bytes that a batch may take up. -/
def greatestBatchBytes : Nat := Nat.pow 2 63 - 1

/-- What the allocation of a greater batch says. -/
def tooManyBytes : String := "capacity overflow"

/-- A worker that takes records of its partition. -/
def fresh (p : TopicPartition) (settings : BatchSettings) : Worker where
  partition := p
  settings := settings
  status := .active
  intakeOpen := true
  queue := []
  permits := settings.queueCapacity
  latestQueued := none
  cancelled := false
  batcher := .idle

/-- The batch task ends, and every record that it still has gives its permit back: those in the
queue and those of the batch. From now on nobody takes records from the queue. -/
def endTask (w : Worker) (crash : Option String) : Worker :=
  { w with
    permits := w.permits + w.batcher.batch.length + w.queue.length
    queue := []
    batcher := .ended crash }

/-- The batch is given up and its permits are given back. -/
def dropBatch (w : Worker) : Worker :=
  { w with permits := w.permits + w.batcher.batch.length, batcher := .idle }

/-- The worker is told to stop what it is doing. -/
def cancel (w : Worker) : Worker := { w with cancelled := true }

/-- Nobody can put records into the queue any more. -/
def closeIntake (w : Worker) : Worker := { w with intakeOpen := false }

end Worker

/-- Starts a worker: the partition is assigned and the batch task begins, unless the clock crashes.
-/
def Station.spawn (env : Surroundings) (manager : Manager) (p : TopicPartition)
    (settings : BatchSettings) : Station × List Event × Option String :=
  let (s, events, crash) := Station.operate env p (.assign env.reading) ⟨manager, .fresh p settings⟩
  match crash with
  | some text => (s, events, some text)
  | none => (s, events ++ [.log (.info s!"启动分区 {p} 的工作者")], none)

end TopicConsumer
