import TopicConsumer.Consumer.Polling
import TopicConsumer.Text.Quoted

/-!
# Starting and closing a consumer

A consumer is started once: it subscribes to its topics and runs its poll loop. A call that closes
it tells the loop to stop, waits for it if nobody else does, and runs the shutdown unless that has
been claimed already.
-/

namespace TopicConsumer

/-- How the call ends that starts a consumer. -/
inductive Starting where
  | started
  | refused (error : ConsumerError)
  | crashed (text : String)
  deriving DecidableEq

/-- Starts a consumer, whose broker answers the subscription as given. -/
def Consumer.start (profile : ConsumerProfile) (inRuntime : Bool) (answer : Answer)
    (c : Consumer) : Consumer × List ConsumerEvent × Starting :=
  if c.disposed then (c, [], .refused .disposed)
  else if c.started then (c, [], .refused .alreadyStarted)
  else
    let c := { c with started := true }
    if !inRuntime then (c, [], .refused .noRuntime)
    else
      let c := { c with hasRuntime := true }
      let name := profile.info.name
      let topics := Text.quotedList profile.topics
      let subscribed := ConsumerEvent.subscribed profile.topics answer
      match answer with
      | .crashed text => (c, [subscribed], .crashed text)
      | .failed e =>
        (c, [subscribed, .log (.error s!"{name} 订阅主题 {topics} 失败：{e}")], .refused (.subscribe e))
      | .done =>
        ({ c with loopToken := some (c.loopToken.getD false), holdsLoop := true,
                  loop := some .beginning },
          [subscribed, .log (.info s!"{name} 成功订阅主题 {topics}")], .started)

namespace Closing

/-- The call is over. -/
def isOver : Closing → Bool
  | .returned | .crashed _ => true
  | _ => false

/-- Where the call stands when its shutdown has come so far. -/
def ofShutdown : Shutdown → Closing
  | .returned => .returned
  | .crashed text => .crashed text
  | s => .shuttingDown s

/-- The next step of a call that closes the consumer, as far as it does not depend on those who are
notified. -/
def step (env : Surroundings) (profile : ConsumerProfile) (c : Consumer) :
    Closing → Option (Consumer × Closing × List ConsumerEvent)
  | .stoppingLoop => some (c.stopLoop, .takingLoop, [])
  | .takingLoop =>
    some ({ c with holdsLoop := false },
      if c.holdsLoop then .awaitingLoop else .shuttingDown .claiming, [])
  | .awaitingLoop =>
    match c.loop with
    | some .returned | none => some (c, .shuttingDown .claiming, [])
    | some (.crashed text) =>
      some (c, .shuttingDown .claiming, [.log (.error ("拉取任务异常结束：" ++ crashedTask text))])
    | some _ => none
  | .shuttingDown s => do
    let (c, s, events) ← s.step env profile c
    some (c, ofShutdown s, events)
  | .returned | .crashed _ => none

/-- When the call moves on by itself, if it waits for a time. -/
def wakeAt : Closing → Option Nat
  | .shuttingDown s => s.wakeAt
  | _ => none

end Closing

end TopicConsumer
