import TopicConsumer.Batch.Executor
import TopicConsumer.Consumer.Basic

/-!
# Assigned and revoked partitions

An assignment names all partitions that the consumer is to have. It starts a worker for each one
that is new, provided that a subscription lists its topic, keeps the workers of those it has
already, and removes the workers of all others, each of which is closed by a task of its own. A
consumer whose shutdown has begun takes no assignment.

A revocation commits the partitions that it names. Their workers stay until the next assignment.
-/

namespace TopicConsumer.Consumer

/-- Where a worker is started: with everything at hand, or with more capacity than can be counted.
-/
def canSpawn (settings : BatchSettings) : Bool := settings.queueCapacity ≤ Executor.greatestPermits

/-- Starts the worker of a partition. One whose capacity cannot be counted crashes as it starts,
when its batch task runs already; nobody ever gets hold of it. -/
def spawn (env : Surroundings) (p : TopicPartition) (settings : BatchSettings) (c : Consumer) :
    Consumer × List ConsumerEvent × Option String :=
  let (s, events, crash) := Station.spawn env c.manager p settings
  let id := c.workers.length
  let c := { c with manager := s.manager }
  if crash.isSome then (c, events.map .work, crash)
  else if canSpawn settings then
    ({ c with workers := c.workers ++ [s.worker], registry := c.registry ++ [(p, id)] },
      events.map .work, none)
  else
    ({ c with workers := c.workers ++ [s.worker.closeIntake] }, events.map .work,
      some Executor.tooManyPermits)

/-- Starts the workers of the partitions that do not have one yet, up to the first crash. -/
def addWorkers (env : Surroundings) (routing : String → Option BatchSettings) :
    List TopicPartition → Consumer → Consumer × List ConsumerEvent × Option String
  | [], c => (c, [], none)
  | p :: rest, c =>
    if (c.workerOf? p).isSome then addWorkers env routing rest c
    else
      match routing p.topic with
      | none =>
        let (c, events, crash) := addWorkers env routing rest c
        (c, .log (.error s!"主题 {p.topic} 没有订阅选项，跳过分区 {p}") :: events, crash)
      | some settings =>
        match spawn env p settings c with
        | (c, events, some text) => (c, events, some text)
        | (c, events, none) =>
          let (c, more, crash) := addWorkers env routing rest c
          (c, events ++ more, crash)

/-- The task of this number has come to its end. -/
def removalIsOver (c : Consumer) (task : Nat) : Bool := c.removals[task]?.any (·.2.isOver)

/-- Takes a worker out of the registry and begins the task that closes it. -/
def remove (c : Consumer) (p : TopicPartition) (worker : Nat) : Consumer :=
  { c with
    registry := c.registry.filter (·.1 ≠ p)
    removals := c.removals ++ [(worker, .claiming)]
    remembered := c.remembered ++ [c.removals.length] }

/-- Removes the workers of all other partitions. -/
def removeOthers (ps : List TopicPartition) (c : Consumer) : Consumer × List ConsumerEvent :=
  let others := c.registry.filter fun (p, _) => !ps.contains p
  (others.foldl (fun c (p, worker) => c.remove p worker)
      { c with remembered := c.remembered.filter fun task => !c.removalIsOver task },
    others.map fun (p, _) => ConsumerEvent.log (.info s!"分区 {p} 不再分配，关闭工作者"))

/-- Why nothing can be started outside of everything that runs tasks. -/
def outsideRuntime : String :=
  "there is no reactor running, must be called from the context of a Tokio 1.x runtime"

/-- The consumer is told all partitions that it is to have. -/
def assign (env : Surroundings) (profile : ConsumerProfile) (inRuntime : Bool)
    (ps : List TopicPartition) (c : Consumer) : Consumer × List ConsumerEvent × Option String :=
  if c.disposed then (c, [.log (.debug "消费者已关闭，忽略分区分配")], none)
  else if !c.hasRuntime && !inRuntime then
    (c, [.log (.error s!"分区分配不在异步运行时中：{outsideRuntime}")], none)
  else
    match addWorkers env profile.routing ps c with
    | (c, events, some text) => (c, events, some text)
    | (c, events, none) =>
      let (c, more) := removeOthers ps c
      (c, events ++ more ++ [.log (.info s!"当前持有 {c.registry.length} 个分区")], none)

/-- The consumer is told partitions that it is about to lose. -/
def revoke (env : Surroundings) :
    List TopicPartition → Consumer → Consumer × List ConsumerEvent × Option String
  | [], c => (c, [], none)
  | p :: rest, c =>
    if (c.workerOf? p).isNone then revoke env rest c
    else
      let effect := c.manager.effect p env.answers .commit
      let c := { c with manager := c.manager.set p effect.state }
      let events := (Event.operation p .commit :: effect.calls.map (fun (q, a) => Event.call q a) ++
        effect.logs.map Event.log).map ConsumerEvent.work
      match effect.crash with
      | some text => (c, events, some text)
      | none =>
        let (c, more, crash) := revoke env rest c
        (c, events ++ more, crash)

end TopicConsumer.Consumer
