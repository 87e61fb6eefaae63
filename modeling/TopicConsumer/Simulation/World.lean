import TopicConsumer.Broker.Client
import TopicConsumer.Consumer.Lifecycle
import TopicConsumer.Simulation.Handling
import TopicConsumer.Text.JsonText

/-!
# Worlds

A world holds everything that moves in a simulation: the consumer with its workers, the handlers at
work, the errands that the script of the simulation runs, what the broker is going to find, and the
journal of what has happened.
-/

namespace TopicConsumer.Simulation

/-! ## The broker -/

/-- What a broker can be told to fail at. -/
inductive Duty where
  | subscribe
  | call (verb : String)
  deriving DecidableEq

/-- The duty of a name. -/
def Duty.named? (name : String) : Option Duty :=
  if name = "subscribe" then some .subscribe
  else if ["pause", "resume", "seek", "store", "commit"].contains name then some (.call name)
  else none

/-- Something that a poll of the scripted broker comes upon. -/
inductive Occurrence where
  /-- The poll ends. -/
  | found (result : PollResult)
  | assign (partitions : List TopicPartition)
  | revoke (partitions : List TopicPartition)
  /-- So many milliseconds go by. -/
  | pass (ms : Nat)

/-- Where a poll of the broker stands. -/
inductive Poll where
  | notBegun
  /-- Everything else moves first. -/
  | yielding
  /-- It waits until a time and then comes upon the next thing. -/
  | passing (wake : Nat)
  /-- It waits until a time and then ends without having found anything. -/
  | exhausted (wake : Nat)

/-- What makes a call crash instead of failing. -/
def crashing : BrokerError := .fatal "panic"

/-- What a crashed call says. -/
def brokerCrash : String := "broker panic"

/-! ## Decisions -/

/-- How the decision about an error that dropped the consumer comes about. -/
inductive Judge where
  /-- It is always the same. -/
  | fixed (recovery : Recovery)
  /-- Decisions, some of them after a sleep of some milliseconds, are taken in turn, the last of
  them again and again. -/
  | playing (parts : List (Option Nat × Decision))

/-- What is decided the `n`-th time, and after which sleep. -/
def Judge.part? (parts : List (Option Nat × Decision)) (n : Nat) :
    Option (Option Nat × Decision) :=
  parts[n]?.or parts.getLast?

/-- What a crashed decision says. -/
def Judge.crashText : String := "drop handler"

/-- What is said where there is no decision to be taken. -/
def Judge.partlessText : String := "index out of bounds: the len is 0 but the index is 0"

/-! ## Worlds -/

/-- What does not change in a simulation. -/
structure Setup where
  profile : ConsumerProfile
  /-- The subscription that a topic belongs to. -/
  subscriptionFor? : String → Option (Subscription staging)
  pollTimeout : Nat
  judge : Judge
  /-- How those who want to know that the consumer is closed take it. -/
  hookAnswer : Except String Unit
  /-- The operations of workers on the states of the partitions are noted among the calls. -/
  watchesStates : Bool
  /-- The date and time that the states of the partitions go by. -/
  clock : Clock
  /-- The client without brokers that is used, in place of a scripted broker. -/
  client : Option OfflineClient

/-- The setup where there is no consumer. -/
def Setup.bare (clock : Clock) : Setup where
  profile := ⟨⟨"", ""⟩, [], fun _ => none, false⟩
  subscriptionFor? _ := none
  pollTimeout := 0
  judge := .fixed .usual
  hookAnswer := .ok ()
  watchesStates := false
  clock := clock
  client := none

/-- What the script of a simulation has somebody do. -/
inductive Errand where
  /-- Puts a record into the queue of a worker, and then others, without a pause in between. -/
  | enqueue (worker : Nat) (record : Record) (call : Intake) (rest : List Record)
    (results : List (Except WorkerError Unit))
  | dispose (worker : Nat) (call : Disposal)
  | close (call : Closing)
  /-- Waits for the handler that works for nobody. -/
  | handle (ending : Option Batcher.Ending)
  /-- Cancels the handler that works for nobody at a time. -/
  | cancelAt (time : Nat) (done : Bool)
  /-- It was given up. -/
  | dropped

/-- Puts records into the queue of a worker, one after the other. -/
def Errand.enqueueEach (worker : Nat) : List Record → Errand
  | [] => .dropped
  | r :: rest => .enqueue worker r .checkingStatus rest []

/-- The errand is over. -/
def Errand.isOver : Errand → Bool
  | .enqueue _ _ call rest _ => call.isOver && rest.isEmpty
  | .dispose _ call => call.isOver
  | .close call => call.isOver
  | .handle ending => ending.isSome
  | .cancelAt _ done => done
  | .dropped => true

/-- What has happened since the journal was begun. -/
structure Journal where
  /-- The calls about single partitions. -/
  calls : List (TopicPartition × String)
  /-- The other calls of the broker. -/
  others : List String
  notes : List String
  logs : List LogLine

/-- A task. A handler is known by the worker it works for, if it works for one. -/
inductive TaskId where
  | batcher (worker : Nat)
  | message (owner : Option Nat) (task : Nat)
  | removal (n : Nat)
  | loop
  | errand (n : Nat)
  deriving DecidableEq

/-- Everything that moves in a simulation. -/
structure World where
  stage : Stage
  consumer : Consumer
  handlings : List (Option Nat × Handling)
  errands : List Errand
  /-- The numbers of the errands that were given a name. -/
  named : List (String × Nat)
  /-- The errand that the script itself runs, in place of a task. -/
  foreground : Option Nat
  /-- Tasks that are about to move, in this order. -/
  ready : List TaskId
  /-- Tasks that wait, in the order in which they began to. -/
  parked : List TaskId
  /-- What the task that moves has done of what it can do in one turn. -/
  spent : Nat
  /-- The task that moves has done all that it can do in one turn, and could go on. -/
  tired : Bool
  /-- The errand of the script goes on after so many turns of tasks, at the latest. -/
  turnsLeft : Option Nat
  occurrences : List Occurrence
  poll : Poll
  /-- The decision that is being taken, and when it is. -/
  pending : Option (Nat × Decision)
  /-- The number of decisions that were begun. -/
  decisions : Nat
  faults : List (Duty × BrokerError)
  journal : Journal
  /-- The number of calls about single partitions. -/
  callCount : Nat
  /-- The script holds the consumer no more. -/
  abandoned : Bool
  /-- Nobody holds the consumer any more. -/
  released : Bool

namespace World

/-- The world in which nothing has happened yet. -/
def fresh (clock : Clock) : World where
  stage := .fresh clock
  consumer := .fresh
  handlings := []
  errands := []
  named := []
  foreground := none
  ready := []
  parked := []
  spent := 0
  tired := false
  turnsLeft := none
  occurrences := []
  poll := .notBegun
  pending := none
  decisions := 0
  faults := []
  journal := ⟨[], [], [], []⟩
  callCount := 0
  abandoned := false
  released := false

/-- The time. -/
def now (w : World) : Nat := w.stage.now

/-! ## The journal -/

/-- Logs a line. -/
def log (line : LogLine) (w : World) : World :=
  { w with journal := { w.journal with logs := w.journal.logs ++ [line] } }

/-- Notes something. -/
def note (text : String) (w : World) : World :=
  { w with journal := { w.journal with notes := w.journal.notes ++ [text] } }

/-- Notes a call about a partition. -/
def noteCall (p : TopicPartition) (text : String) (w : World) : World :=
  { w with
    journal := { w.journal with calls := w.journal.calls ++ [(p, text)] }
    callCount := w.callCount + 1 }

/-- Notes another call. -/
def noteOther (text : String) (w : World) : World :=
  { w with journal := { w.journal with
      others := w.journal.others ++ [text ++ " (after " ++ toString w.callCount ++ ")"] } }

/-- What is written behind a call that was told to fail. -/
def failureMark (failed : Bool) : String := if failed then " !" else ""

/-- An operation on the state of a partition, as it is noted. -/
def operationText : StateOp → String
  | .assign _ => "state.assign"
  | .revoke => "state.revoke"
  | .pause offset => "state.pause @" ++ toString offset
  | .resume => "state.resume"
  | .store offset => "state.store @" ++ toString offset
  | .commit => "state.commit"

/-- The line about a batch that failed. How long the pause is, is not told. -/
def failureLine (failures : Nat) (fault : Fault) : LogLine :=
  .error s!"第 {failures} 次处理批次失败，_ 后重试：{fault.message}"

/-- Writes down what a step did. -/
def report (setup : Setup) (w : World) : Event → World
  | .log line => w.log line
  | .operation p op => if setup.watchesStates then w.noteCall p (operationText op) else w
  | .call call answer => w.noteCall call.partition (call.text ++ failureMark (answer ≠ .done))
  | .failed failures _ fault => w.log (failureLine failures fault)
  | .handed _ | .abandoned _ => w

/-- Writes down what a step of the consumer did. A client without brokers writes its own log. -/
def reportConsumer (setup : Setup) (w : World) : ConsumerEvent → World
  | .work event => w.report setup event
  | .subscribed topics answer =>
    if setup.client.isSome then w
    else w.noteOther ("subscribe " ++ JsonText.list (topics.map JsonText.string) ++
      failureMark (answer ≠ .done))
  | .unsubscribed =>
    match setup.client with
    | some client => client.unsubscribe.foldl (fun w line => w.log line) w
    | none => w.noteOther "unsubscribe"
  | .closed =>
    match setup.client with
    | some client => client.close.foldl (fun w line => w.log line) w
    | none => w.noteOther "close"

/-! ## Surroundings -/

/-- The answer of the broker to a call about a partition. -/
def answer (w : World) (call : BrokerCall) : Answer :=
  match w.faults.lookup (.call call.verb) with
  | none => .done
  | some error => if error = crashing then .crashed brokerCrash else .failed error

/-- The circumstances of a step that is made now. -/
def surroundings (setup : Setup) (w : World) : Surroundings :=
  ⟨w.now, setup.clock.reading w.now, w.answer, .smallest⟩

/-- The consumer as others see it. -/
def view (setup : Setup) (w : World) : String :=
  let statuses := w.consumer.statuses.map fun (p, status) =>
    JsonText.string (p.text ++ " " ++ status.name)
  setup.profile.info.name ++ "/" ++ setup.profile.info.group ++ " " ++ JsonText.list statuses ++
    " disposed=" ++ toString w.consumer.disposed

end World

end TopicConsumer.Simulation
