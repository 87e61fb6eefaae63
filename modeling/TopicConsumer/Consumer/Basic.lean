import TopicConsumer.Consumer.Settings
import TopicConsumer.Worker.Batcher
import TopicConsumer.Worker.Disposal
import TopicConsumer.Worker.Intake

/-!
# Consumers

A consumer has a worker for every partition that is assigned to it, and a loop that polls its broker
and passes each record on to the worker of its partition. Workers whose partition is taken away are
closed by tasks of their own; the consumer remembers these tasks, so that its shutdown can wait for
them. The shutdown runs once, whoever asks for it first: the loop, or a call that closes the
consumer.

Like the activities of a worker, those of a consumer are machines that move in single steps.
-/

namespace TopicConsumer

/-- Where the shutdown of a consumer stands. -/
inductive Shutdown where
  /-- It is about to claim the shutdown, which succeeds once. -/
  | claiming
  | stoppingLoop
  | takingWorkers
  /-- A worker is being closed, and others are to be closed after it. -/
  | closingWorker (worker : Nat) (call : Disposal) (rest : List Nat)
  | takingRemovals
  /-- It waits for the tasks that close removed workers. -/
  | awaiting (removals : List Nat)
  | cancellingWorkers
  | unsubscribing
  | closingBroker
  /-- It waits for those who want to know that the consumer is closed. -/
  | notifying
  | finishing
  | returned
  | crashed (text : String)
  deriving DecidableEq

/-- Where the poll loop of a consumer stands. -/
inductive PollLoop where
  | beginning
  /-- It is at the head of a turn. -/
  | turning
  /-- It waits for the broker. -/
  | polling
  /-- It passes a record on to a worker. -/
  | enqueuing (worker : Nat) (record : Record) (call : Intake)
  /-- It waits for a decision after an error that dropped the consumer. -/
  | deciding (error : BrokerError)
  | shuttingDown (s : Shutdown)
  | returned
  | crashed (text : String)

/-- Where a call that closes a consumer stands. -/
inductive Closing where
  | stoppingLoop
  | takingLoop
  /-- It waits for the poll loop to end. -/
  | awaitingLoop
  | shuttingDown (s : Shutdown)
  | returned
  | crashed (text : String)
  deriving DecidableEq

/-- Something that a step of a consumer does beyond changing its state. -/
inductive ConsumerEvent where
  /-- Something that a worker does, or a line that is logged. -/
  | work (event : Event)
  | subscribed (topics : List String) (answer : Answer)
  | unsubscribed
  /-- The broker is closed. -/
  | closed
  deriving DecidableEq

/-- A line that the consumer logs. -/
def ConsumerEvent.log (line : LogLine) : ConsumerEvent := .work (.log line)

/-- What a consumer is made for. -/
structure ConsumerProfile where
  info : ConsumerInfo
  topics : List String
  /-- How the partitions of a topic are batched, if the topic belongs to a subscription. -/
  routing : String → Option BatchSettings
  /-- Somebody wants to know that the consumer is closed. -/
  hasHook : Bool

/-- The profile of settings. -/
def ConsumerSettings.profile {A : Dialogue} (s : ConsumerSettings A) (hasHook : Bool) :
    ConsumerProfile where
  info := s.info
  topics := s.topics
  routing topic := (s.subscriptionFor? topic).map Subscription.batching
  hasHook := hasHook

/-- A consumer. Workers are known by the order in which they were started, tasks that close removed
workers by the order in which they began. -/
structure Consumer where
  manager : Manager
  /-- All workers that were ever started. -/
  workers : List Worker
  /-- The workers of the assigned partitions. -/
  registry : List (TopicPartition × Nat)
  /-- The tasks that close removed workers. -/
  removals : List (Nat × Disposal)
  /-- Those of these tasks that the consumer remembers. -/
  remembered : List Nat
  /-- The shutdown has been claimed. -/
  disposed : Bool
  started : Bool
  /-- The consumer knows where to run tasks. -/
  hasRuntime : Bool
  /-- The application has asked for the shutdown. -/
  applicationStops : Bool
  /-- There is a token that stops the loop, and whether it was used. -/
  loopToken : Option Bool
  /-- Nobody waits for the loop yet. -/
  holdsLoop : Bool
  loop : Option PollLoop

namespace Consumer

/-- A consumer that has done nothing yet. -/
def fresh : Consumer where
  manager := .empty
  workers := []
  registry := []
  removals := []
  remembered := []
  disposed := false
  started := false
  hasRuntime := false
  applicationStops := false
  loopToken := none
  holdsLoop := false
  loop := none

instance : Inhabited Consumer := ⟨fresh⟩

/-- A state after a step, with what the step did. -/
abbrev Moved := Consumer × List ConsumerEvent

/-- The loop has been told to stop. -/
def loopStops (c : Consumer) : Bool := c.loopToken.any fun used => used || c.applicationStops

/-- Tells the loop to stop, if there is a token for it. -/
def stopLoop (c : Consumer) : Consumer := { c with loopToken := c.loopToken.map fun _ => true }

/-- The worker of an assigned partition. -/
def workerOf? (c : Consumer) (p : TopicPartition) : Option Nat := c.registry.lookup p

/-- A worker with the states of the partitions. -/
def station? (c : Consumer) (worker : Nat) : Option Station :=
  c.workers[worker]?.map fun w => ⟨c.manager, w⟩

/-- The consumer after a step of one of its workers. -/
def setStation (c : Consumer) (worker : Nat) (s : Station) : Consumer :=
  { c with manager := s.manager, workers := c.workers.set worker s.worker }

/-- Changes a worker. -/
def modifyWorker (c : Consumer) (worker : Nat) (f : Worker → Worker) : Consumer :=
  { c with workers := c.workers.modify worker f }

/-- The assigned partitions in their order. -/
def assigned (c : Consumer) : List TopicPartition := TopicPartition.sorted (c.registry.map Prod.fst)

/-- The partitions and the status of each of their workers. -/
def statuses (c : Consumer) : List (TopicPartition × WorkerStatus) :=
  c.assigned.filterMap fun p =>
    (c.workerOf? p).bind fun w => c.workers[w]?.map fun worker => (p, worker.status)

/-- Nobody refers to the workers any more: no record can reach them. -/
def forgetWorkers (c : Consumer) (workers : List Nat) : Consumer :=
  workers.foldl (fun c w => c.modifyWorker w Worker.closeIntake) c

end Consumer

end TopicConsumer
