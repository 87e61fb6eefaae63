import TopicConsumer.Consumer.Shutdown

/-!
# The poll loop

Each turn of the loop begins with a look at whether it has been told to stop; if not, the broker is
polled. A record goes to the worker of its partition, and the loop waits until the worker has taken
it or left it out. An error that drops the consumer is put to somebody who decides whether the loop
goes on; any other error is logged. When the loop ends it shuts the consumer down.
-/

namespace TopicConsumer

/-- What a poll can find. -/
inductive PollEvent where
  | record (r : Record)
  /-- Everything in a partition has been read. -/
  | endOfPartition (number : Int)
  deriving DecidableEq

/-- How a poll can end. -/
abbrev PollResult := Except BrokerError (Option PollEvent)

/-- What is to be done after an error that dropped the consumer. -/
inductive Recovery where
  /-- The loop goes on. -/
  | retry
  /-- The consumer is shut down. -/
  | stop
  deriving DecidableEq

/-- What is done where nobody was asked to decide. -/
def Recovery.usual : Recovery := .stop

/-- How a decision can end. -/
inductive Decision where
  | taken (recovery : Recovery)
  | failed (text : String)
  | crashed (text : String)

namespace PollLoop

/-- The loop is over. -/
def isOver : PollLoop → Bool
  | .returned | .crashed _ => true
  | _ => false

/-- The loop has been told to stop and begins the shutdown. -/
def stopping : PollLoop × List ConsumerEvent :=
  (.shuttingDown .claiming, [.log (.info "收到关闭信号，停止拉取")])

/-- Where the loop stands when its shutdown has come so far. -/
def ofShutdown : Shutdown → PollLoop
  | .returned => .returned
  | .crashed text => .crashed text
  | s => .shuttingDown s

/-- Where the loop stands when a record has been passed on so far. -/
def ofIntake (worker : Nat) (r : Record) : Intake → PollLoop × List ConsumerEvent
  | .returned (.ok ()) => (.turning, [])
  | .returned (.error e) => (.turning, [.log (.warn ("消息入队失败：" ++ e.message))])
  | .crashed text => (.crashed text, [])
  | call => (.enqueuing worker r call, [])

/-- The next step of the loop, as far as it does not depend on the broker or on a decision. -/
def step (env : Surroundings) (profile : ConsumerProfile) (c : Consumer) :
    PollLoop → Option (Consumer × PollLoop × List ConsumerEvent)
  | .beginning => some (c, .turning, [.log (.info "开始拉取消息")])
  | .turning => if c.loopStops then some (c, stopping) else some (c, .polling, [])
  | .polling => if c.loopStops then some (c, stopping) else none
  | .enqueuing worker r call => do
    let s ← c.station? worker
    let (s, call, events) ← call.step env r s
    let (loop, more) := ofIntake worker r call
    some (c.setStation worker s, loop, events.map .work ++ more)
  | .deciding _ => none
  | .shuttingDown s => do
    let (c, s, events) ← s.step env profile c
    some (c, ofShutdown s, events)
  | .returned | .crashed _ => none

/-- The step of the loop when a poll ends. -/
def polled (c : Consumer) : PollResult → PollLoop × List ConsumerEvent
  | .ok none => (.turning, [])
  | .ok (some (.endOfPartition n)) => (.turning, [.log (.trace s!"已读到分区 {n} 末尾")])
  | .ok (some (.record r)) =>
    match c.workerOf? r.partition with
    | some worker => (.enqueuing worker r .checkingStatus, [])
    | none =>
      (.turning, [.log (.warn s!"分区 {r.partition} 没有工作者，忽略偏移量 {r.offset}")])
  | .error e =>
    if e.dropsConsumer then (.deciding e, [.log (.error s!"消费者掉线：{e}")])
    else (.turning, [.log (.warn s!"拉取消息失败：{e}")])

/-- The step of the loop when a decision has been taken. -/
def decided : Decision → PollLoop × List ConsumerEvent
  | .taken .retry => (.turning, [.log (.info "掉线处理器要求继续拉取")])
  | .taken .stop => (.shuttingDown .claiming, [.log (.info "掉线处理器要求停止消费者")])
  | .failed text =>
    (.shuttingDown .claiming, [.log (.error ("掉线处理器执行失败，停止消费者：" ++ text))])
  | .crashed text => (.crashed text, [])

/-- When the loop moves on by itself, if it waits for a time. -/
def wakeAt : PollLoop → Option Nat
  | .enqueuing _ _ call => call.wakeAt
  | .shuttingDown s => s.wakeAt
  | _ => none

end PollLoop

end TopicConsumer
