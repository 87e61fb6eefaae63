import TopicConsumer.Time.Sleep
import TopicConsumer.Worker.Basic

/-!
# Forming and handling batches

The batcher opens a batch with the first record that it finds in the queue. The batch is complete
when it has its greatest size, when its time has run out, or when the queue is empty and takes no
more records. The batch is then handed over until it is handled: after a failure it is tried again
after a pause. A batch that lies before the committed position has become stale and is left out.

When a batch is handled, its permits are given back first, then its last offset is stored, then the
partition is resumed. A cancelled worker gives up its batch and ends.
-/

namespace TopicConsumer.Batcher

/-- The offset of the last record. -/
def lastOffset (batch : List Record) : Offset := (batch.getLast?.map Record.offset).getD 0

/-- The batch task ends without a crash. -/
def finish (s : Station) : Station.Moved :=
  ({ s with worker := s.worker.endTask none }, [.log (.debug "批处理任务结束")])

/-- The batch is given up, for the reason in the log line. -/
def giveUp (s : Station) (line : LogLine) : Station.Moved :=
  ({ s with worker := s.worker.dropBatch }, [.log line])

/-- The batch task crashes. -/
def crash (s : Station) (text : String) : Station :=
  { s with worker := s.worker.endTask (some text) }

/-- What a cancelled batcher logs when it gives up a batch. -/
def cancelledLine : LogLine := .debug "工作者已取消，放弃批次"

/-- Takes a record from the queue as the first of a batch. -/
def openBatch (env : Surroundings) (s : Station) (r : Record) (rest : List Record) : Station :=
  let w := { s.worker with
    queue := rest
    batcher := .collecting [r] (env.now + s.worker.settings.batchTimeout) }
  if Worker.greatestBatchBytes < w.settings.batchSize * Worker.recordBytes then
    crash { s with worker := w } Worker.tooManyBytes
  else { s with worker := w }

/-- The next step of the batcher, as far as it does not depend on the handler. -/
def step (env : Surroundings) (s : Station) : Option Station.Moved :=
  match s.worker.batcher with
  | .idle =>
    if s.worker.cancelled then some (finish s)
    else
      match s.worker.queue with
      | r :: rest => some (openBatch env s r rest, [])
      | [] => if s.worker.intakeOpen then none else some (finish s)
  | .collecting batch deadline =>
    if s.worker.settings.batchSize ≤ batch.length || s.worker.cancelled then
      some (s.at_ (.checking batch 0), [])
    else
      match s.worker.queue with
      | r :: rest =>
        some ({ s with worker :=
          { s.worker with queue := rest, batcher := .collecting (batch ++ [r]) deadline } }, [])
      | [] =>
        if !s.worker.intakeOpen || deadline ≤ env.now then some (s.at_ (.checking batch 0), [])
        else none
  | .checking batch failures =>
    if s.worker.cancelled then some (giveUp s cancelledLine)
    else some (s.at_ (.comparing batch failures), [])
  | .comparing batch failures =>
    match s.committed.filter (lastOffset batch < ·) with
    | some committed => some (giveUp s (.warn s!"批次已过期，提交位置为 {committed}，跳过"))
    | none => some (s.at_ (.starting batch failures), [])
  | .starting batch failures =>
    if s.worker.cancelled then some (giveUp s cancelledLine)
    else some (s.at_ (.handling batch failures), [.handed batch])
  | .handling batch _ =>
    if s.worker.cancelled then
      let (s, events) := giveUp s cancelledLine
      some (s, .abandoned batch :: events)
    else none
  | .backingOff batch failures wake =>
    if s.worker.cancelled then some (giveUp s (.debug "工作者已取消，放弃重试"))
    else if wake ≤ env.now then some (s.at_ (.checking batch failures), [])
    else none
  | .releasing batch =>
    some ({ s with worker := { s.worker with
      permits := s.worker.permits + batch.length
      batcher := .storing (lastOffset batch) } }, [])
  | .storing last =>
    let (s, events, crashed) := s.operate env s.worker.partition (.store last)
    some (crashed.elim (s.at_ .resuming) (crash s), events)
  | .resuming =>
    let (s, events, crashed) := s.operate env s.worker.partition .resume
    match crashed with
    | none => some (s.at_ .idle, events ++ [.log (.trace "批次处理完成")])
    | some text => some (crash s text, events)
  | .ended _ => none

/-- How a handler can end. -/
inductive Ending where
  | handled
  | failed (fault : Fault)
  | crashed (text : String)
  deriving DecidableEq

/-- The ending of a handler that did not crash. -/
def Ending.ofOutcome : Outcome → Ending
  | .ok () => .handled
  | .error fault => .failed fault

/-- The step of the batcher when the handler ends. A handler that ends when the worker has been
cancelled is not heard any more. -/
def handlerEnds (env : Surroundings) (ending : Ending) (s : Station) : Option Station.Moved :=
  match s.worker.batcher with
  | .handling batch failures =>
    if s.worker.cancelled then none
    else
      match ending with
      | .handled => some (s.at_ (.releasing batch), [])
      | .failed fault =>
        let failures := Retry.countFailure failures
        let pause := Retry.pause failures s.worker.settings.maxRetryDelay env.jitter
        some (s.at_ (.backingOff batch failures (sleepEnd env.now pause)),
          [.failed failures pause fault])
      | .crashed text => some (crash s text, [])
  | _ => none

/-- When the batcher moves on by itself, if it waits for a time. -/
def wakeAt : Batcher → Option Nat
  | .collecting _ deadline => some deadline
  | .backingOff _ _ wake => some wake
  | _ => none

end TopicConsumer.Batcher
