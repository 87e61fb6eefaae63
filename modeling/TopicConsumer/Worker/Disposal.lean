import TopicConsumer.Worker.Basic

/-!
# Closing a worker

The first call that closes a worker stops the intake and gives the batch task time to drain the
queue. If the time does not suffice, the worker is cancelled, and the call waits for the batch task
to give up. In either case it then commits the position of the partition, resumes the partition and
forgets its state, in this order. Every later call returns at once.
-/

namespace TopicConsumer

/-- Where a call that closes a worker stands. The calls from `cancelling` on know whether the queue
was drained in time. -/
inductive Disposal where
  | claiming
  | closingIntake
  /-- The call waits for the batch task until the deadline. -/
  | draining (deadline : Nat)
  /-- The worker is cancelled, and the call waits for the batch task to end. -/
  | aborting
  | cancelling (drained : Bool)
  | committing (drained : Bool)
  | resuming (drained : Bool)
  | revoking (drained : Bool)
  | closing (drained : Bool)
  | returned
  | crashed (text : String)
  deriving DecidableEq

namespace Disposal

/-- The call is over. -/
def isOver : Disposal → Bool
  | .returned | .crashed _ => true
  | _ => false

/-- The line about a batch task that ended by a crash. -/
def crashLines : Option String → List Event
  | none => []
  | some text => [.log (.error ("批处理任务异常结束：" ++ crashedTask text))]

/-- The next step of a call that closes the worker. -/
def step (env : Surroundings) (s : Station) : Disposal → Option (Station × Disposal × List Event)
  | .claiming =>
    if s.worker.status = .active then
      some ({ s with worker := { s.worker with status := .draining } }, .closingIntake,
        [.log (.info "开始关闭工作者")])
    else some (s, .returned, [])
  | .closingIntake =>
    some ({ s with worker := s.worker.closeIntake },
      .draining (env.now + s.worker.settings.stopTimeout), [])
  | .draining deadline =>
    match s.worker.batcher with
    | .ended crash => some (s, .cancelling true, crashLines crash)
    | _ =>
      if deadline ≤ env.now then some ({ s with worker := s.worker.cancel }, .aborting, [])
      else none
  | .aborting =>
    match s.worker.batcher with
    | .ended crash => some (s, .cancelling false, crashLines crash)
    | _ => none
  | .cancelling drained => some ({ s with worker := s.worker.cancel }, .committing drained, [])
  | .committing drained => some (operation .commit (.resuming drained))
  | .resuming drained => some (operation .resume (.revoking drained))
  | .revoking drained => some (operation .revoke (.closing drained))
  | .closing drained =>
    some ({ s with worker := { s.worker with status := .closed } }, .returned,
      [.log (if drained then .info "工作者已排空并关闭" else .warn "工作者关闭超时，已取消未完成的批次")])
  | .returned => none
  | .crashed _ => none
where
  /-- An operation of the state manager, after which the call goes on. -/
  operation (op : StateOp) (next : Disposal) : Station × Disposal × List Event :=
    let (s, events, crash) := s.operate env s.worker.partition op
    (s, crash.elim next .crashed, events)

/-- When the call moves on by itself, if it waits for a time. -/
def wakeAt : Disposal → Option Nat
  | .draining deadline => some deadline
  | _ => none

end Disposal

end TopicConsumer
