import TopicConsumer.Consumer.Assignment

/-!
# Shutting a consumer down

Whoever claims the shutdown first stops the loop, closes the workers one after the other, waits for
the tasks that close removed workers, and then gives up the subscription, closes the broker and
notifies those who want to know. Whoever comes later has nothing to do.
-/

namespace TopicConsumer.Shutdown

/-- The shutdown is over. -/
def isOver : Shutdown → Bool
  | .returned | .crashed _ => true
  | _ => false

/-- Goes on with the next worker that is to be closed. -/
def nextWorker : List Nat → Shutdown
  | [] => .takingRemovals
  | w :: rest => .closingWorker w .claiming rest

/-- The line about a task that ended by a crash. -/
def crashLines : Disposal → List ConsumerEvent
  | .crashed text => [.log (.error ("分区工作者关闭任务异常结束：" ++ crashedTask text))]
  | _ => []

/-- The next step of a shutdown, as far as it does not depend on those who are notified. A crash of
the shutdown leaves the workers that it had not closed to themselves. -/
def step (env : Surroundings) (profile : ConsumerProfile) (c : Consumer) :
    Shutdown → Option (Consumer × Shutdown × List ConsumerEvent)
  | .claiming =>
    if c.disposed then some (c, .returned, [])
    else some ({ c with disposed := true }, .stoppingLoop,
      [.log (.info (profile.info.name ++ " 开始关闭"))])
  | .stoppingLoop => some (c.stopLoop, .takingWorkers, [])
  | .takingWorkers =>
    some ({ c with registry := [] }, nextWorker (c.registry.map Prod.snd), [])
  | .closingWorker w call rest =>
    match call with
    | .returned => some (c, nextWorker rest, [])
    | .crashed text => some (c.forgetWorkers rest, .crashed text, [])
    | call => do
      let s ← c.station? w
      let (s, call, events) ← call.step env s
      some (c.setStation w s, .closingWorker w call rest, events.map .work)
  | .takingRemovals => some ({ c with remembered := [] }, .awaiting c.remembered, [])
  | .awaiting [] => some (c, .cancellingWorkers, [])
  | .awaiting (task :: rest) => do
    let (_, call) ← c.removals[task]?
    if call.isOver then some (c, .awaiting rest, crashLines call) else none
  | .cancellingWorkers =>
    some ({ c with workers := c.workers.map Worker.cancel }, .unsubscribing, [])
  | .unsubscribing => some (c, .closingBroker, [.unsubscribed])
  | .closingBroker =>
    some (c, if profile.hasHook then .notifying else .finishing, [.closed])
  | .notifying => none
  | .finishing => some (c, .returned, [.log (.info (profile.info.name ++ " 已关闭"))])
  | .returned | .crashed _ => none

/-- Those who are notified are done, or have failed with a text. -/
def notified (answer : Except String Unit) : Shutdown → Option (Shutdown × List ConsumerEvent)
  | .notifying => some (.finishing, match answer with
      | .ok () => []
      | .error text => [.log (.warn ("关闭回调执行失败：" ++ text))])
  | _ => none

/-- When the shutdown moves on by itself, if it waits for a time. -/
def wakeAt : Shutdown → Option Nat
  | .closingWorker _ call _ => call.wakeAt
  | _ => none

end TopicConsumer.Shutdown
