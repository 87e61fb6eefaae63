import TopicConsumer.Worker.Basic

/-!
# Putting a record into the queue

A record that is late is left out: one that comes while the partition is paused, one before the
committed position, and one that is not behind the record admitted last. Any other record needs a
permit. If there is none, the call tries twice more, ten milliseconds apart, and then pauses the
partition at the offset of the record, which is to be read again after the pause. A permit given
back while the pause was being made would not undo it, so the call looks for one afterwards and
resumes the partition itself.
-/

namespace TopicConsumer

/-- Where a call that enqueues a record stands. -/
inductive Intake where
  | checkingStatus
  | checkingPause
  | checkingCommitted
  | checkingQueued
  /-- The call tries for the `attempt`-th time to get a permit. -/
  | acquiring (attempt : Nat)
  /-- The call waits until a time for its next attempt. -/
  | waiting (attempt : Nat) (wake : Nat)
  /-- The call has a permit and is about to put the record into the queue. -/
  | admitting
  /-- There was no permit; the call is about to pause the partition. -/
  | pausing
  /-- The partition is paused; the call is about to look for a permit once more. -/
  | rechecking
  /-- There is a permit after all; the call is about to resume the partition. -/
  | resuming
  | returned (result : Except WorkerError Unit)
  /-- The call crashed in the broker. -/
  | crashed (text : String)

namespace Intake

/-- How often a call tries to get a permit. -/
def attempts : Nat := 3

/-- Milliseconds between two attempts. -/
def retryMillis : Nat := 10

/-- The permits that the call holds. -/
def permits : Intake → Nat
  | .admitting => 1
  | _ => 0

/-- The call is over. -/
def isOver : Intake → Bool
  | .returned _ | .crashed _ => true
  | _ => false

/-- Puts a record into the queue with the permit of the call. If the queue takes no more records,
the permit is given back. -/
def accept (r : Record) (s : Station) : Station × Intake × List Event :=
  let w := s.worker
  if w.intakeOpen && !w.batcher.hasEnded then
    ({ s with worker := { w with queue := w.queue ++ [r], latestQueued := some r.offset } },
      .returned (.ok ()), [.log (.trace s!"分区 {w.partition} 偏移量 {r.offset} 入队")])
  else
    ({ s with worker := { w with permits := w.permits + 1 } },
      .returned (.error (.disposed w.partition)), [])

/-- The next step of a call that enqueues `r`. -/
def step (env : Surroundings) (r : Record) (s : Station) :
    Intake → Option (Station × Intake × List Event)
  | .checkingStatus =>
    if s.worker.status = .active then some (s, .checkingPause, [])
    else some (s, .returned (.error (.disposed s.worker.partition)), [])
  | .checkingPause =>
    if s.isPaused then
      some (s, .returned (.ok ()),
        [.log (.trace s!"分区 {s.worker.partition} 已暂停，忽略偏移量 {r.offset}")])
    else some (s, .checkingCommitted, [])
  | .checkingCommitted =>
    match s.committed.filter (r.offset < ·) with
    | some committed =>
      some (s, .returned (.ok ()),
        [.log (.trace s!"分区 {s.worker.partition} 偏移量 {r.offset} 早于提交位置 {committed}，忽略")])
    | none => some (s, .checkingQueued, [])
  | .checkingQueued =>
    match s.worker.latestQueued.filter (r.offset ≤ ·) with
    | some queued =>
      some (s, .returned (.ok ()),
        [.log (.trace s!"分区 {s.worker.partition} 偏移量 {r.offset} 不晚于已入队的 {queued}，忽略")])
    | none => some (s, .acquiring 1, [])
  | .acquiring attempt =>
    if 0 < s.worker.permits then
      some ({ s with worker := { s.worker with permits := s.worker.permits - 1 } }, .admitting, [])
    else if attempts ≤ attempt then
      some (s, .pausing,
        [.log (.debug s!"分区 {s.worker.partition} 队列已满，在偏移量 {r.offset} 暂停")])
    else some (s, .waiting attempt (env.now + retryMillis), [])
  | .waiting attempt wake =>
    if s.worker.cancelled then
      some (s, .returned (.error (.cancelled s.worker.partition)), [])
    else if wake ≤ env.now then some (s, .acquiring (attempt + 1), [])
    else none
  | .admitting => some (accept r s)
  | .pausing =>
    let (s, events, crash) := s.operate env r.partition (.pause r.offset)
    some (s, crash.elim .rechecking .crashed, events)
  | .rechecking =>
    if 0 < s.worker.permits then
      some (s, .resuming,
        [.log (.debug s!"分区 {s.worker.partition} 暂停期间队列已有空位，立即恢复")])
    else some (s, .returned (.ok ()), [])
  | .resuming =>
    let (s, events, crash) := s.operate env s.worker.partition .resume
    some (s, crash.elim (.returned (.ok ())) .crashed, events)
  | .returned _ => none
  | .crashed _ => none

/-- When the call moves on by itself, if it waits for a time. -/
def wakeAt : Intake → Option Nat
  | .waiting _ wake => some wake
  | _ => none

end Intake

end TopicConsumer
