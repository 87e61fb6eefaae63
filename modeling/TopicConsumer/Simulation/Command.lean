import TopicConsumer.Simulation.Schedule

/-!
# Commands of a script

The script of a simulation is a list of commands. Each of them is carried out, everything that can
move then moves, and what has happened is told before the next one begins.
-/

namespace TopicConsumer.Simulation

/-- A command. -/
inductive Command where
  /-- An operation on the state of a partition, as of the time at which it is made. -/
  | operate (partition : TopicPartition) (op : ClockReading → StateOp)
  | query (partition : TopicPartition)
  /-- From now on the broker fails at something, or does it again. -/
  | fault (duty : Duty) (error : Option BrokerError)
  | pass (ms : Nat)
  | openGate (permits : Nat)
  | cancelWorkers
  /-- Somebody runs an errand while the script waits. -/
  | errand (e : Errand)
  /-- Records are put into the queue of a worker, one after the other. -/
  | enqueueAll (worker : Nat) (records : List Record)
  /-- A record is put into the queue of the worker of its partition. -/
  | enqueueFor (partition : TopicPartition) (record : Record)
  | background (name : String) (e : Errand)
  /-- Waits for a named errand. -/
  | join (name : String)
  | assign (inRuntime : Bool) (partitions : List TopicPartition)
  | revoke (partitions : List TopicPartition)
  /-- The broker will come upon more. -/
  | push (occurrences : List Occurrence)
  | start (inRuntime : Bool)
  | shutdown
  | info
  | worker (partition : TopicPartition)
  | dropConsumer

/-- What a command is answered. -/
inductive Reply where
  | done
  | started
  /-- A record was taken, or not. -/
  | taken (result : Except WorkerError Unit)
  | takenEach (results : List (Except WorkerError Unit))
  | state (s : PartitionState)
  | refused (error : ConsumerError)
  | info (i : ConsumerInfo)
  /-- The worker of a partition, if there is one, and whether the manager knows the partition as
  assigned. -/
  | worker (w : Option Worker) (assigned : Bool)
  /-- It took longer than a script waits. -/
  | hung
  | noListener
  | noWorker
  /-- The errand that was waited for has crashed. -/
  | errandCrashed
  /-- What the script did itself has crashed. -/
  | crashed (text : String)
  /-- The command makes no sense where it stands. -/
  | senseless

/-- What a command led to. -/
structure Episode where
  reply : Reply
  /-- The time that the command itself took. -/
  ms : Nat
  journal : Journal
  lines : List (TopicPartition × String)
  notes : List Note
  after : World

/-- What a command says if it has crashed. -/
def Reply.crash? : Reply → Option String
  | .crashed text => some text
  | _ => none

/-- The result of an errand that is over. -/
def Errand.reply : Errand → Reply
  | .enqueue _ _ (.returned result) [] [] => .taken result
  | .enqueue _ _ (.returned result) [] results => .takenEach (results ++ [result])
  | .enqueue _ _ (.crashed text) _ _ | .dispose _ (.crashed text) | .close (.crashed text) =>
    .crashed text
  | .dispose _ .returned | .close .returned | .handle (some _) | .cancelAt _ true => .done
  | .enqueue .. | .dispose .. | .close _ | .handle none | .cancelAt _ false | .dropped => .hung

/-- A call that closes the consumer is given up: nobody refers any more to the workers that it was
about to close. -/
def Closing.abandon (c : Consumer) : Closing → Consumer
  | .shuttingDown (.closingWorker _ _ rest) => c.forgetWorkers rest
  | _ => c

namespace World

/-- The errand is given up if it is not over. -/
def dropErrand (n : Nat) (w : World) : World :=
  match w.errands[n]? with
  | some (.close call) =>
    if call.isOver then w
    else { w with consumer := Closing.abandon w.consumer call, errands := w.errands.set n .dropped }
  | some e => if e.isOver then w else { w with errands := w.errands.set n .dropped }
  | none => w

/-- The script runs an errand and waits for its end. -/
def carryOut (setup : Setup) (e : Errand) (w : World) : World × Reply :=
  let (w, n) := w.runErrand setup longest e
  (w.dropErrand n, (w.errands[n]?).elim .senseless Errand.reply)

/-- An operation on the state of a partition that no worker makes. -/
def operate (setup : Setup) (p : TopicPartition) (op : ClockReading → StateOp) (w : World) :
    World × Reply :=
  let env := w.surroundings setup
  let effect := w.consumer.manager.effect p env.answers (op env.reading)
  let manager := w.consumer.manager.set p effect.state
  let w := { w with consumer := { w.consumer with manager := manager } }
  let events := effect.calls.map (fun (c, a) => Event.call c a) ++ effect.logs.map Event.log
  (events.foldl (report setup) w, effect.crash.elim .done .crashed)

/-- The answer of the broker to the subscription. -/
def subscription (setup : Setup) (w : World) : Answer :=
  match setup.client, w.faults.lookup .subscribe with
  | some client, _ => client.subscribe setup.profile.topics
  | none, none => .done
  | none, some error => if error = crashing then .crashed brokerCrash else .failed error

/-- Starts the consumer. -/
def startConsumer (setup : Setup) (inRuntime : Bool) (w : World) : World × Reply :=
  let (c, events, ending) := w.consumer.start setup.profile inRuntime (w.subscription setup)
  (events.foldl (reportConsumer setup) { w with consumer := c }, match ending with
    | .started => .done
    | .refused e => .refused e
    | .crashed text => .crashed text)

/-- What the listener of the broker does, if there is one. -/
def listen (w : World) (answer : World × Option String) : World × Reply :=
  if w.released then (w, .noListener) else (answer.1, answer.2.elim .done .crashed)

/-- Something that needs the consumer. -/
def withConsumer (w : World) (answer : World × Reply) : World × Reply :=
  if w.abandoned then (w, .senseless) else answer

/-- Carries a command out. -/
def perform (setup : Setup) (w : World) : Command → World × Reply
  | .operate p op => w.operate setup p op
  | .query p => (w, .state (w.consumer.manager.state p))
  | .fault duty error =>
    let faults := w.faults.filter (·.1 ≠ duty) ++ (error.map (duty, ·)).toList
    ({ w with faults := faults }, .done)
  | .pass ms => (w.pass setup ms, .done)
  | .openGate permits =>
    ({ w with stage := { w.stage with gate := w.stage.gate.admitMore permits } }, .done)
  | .cancelWorkers =>
    let workers := w.consumer.workers.map Worker.cancel
    ({ w with consumer := { w.consumer with workers := workers } }, .done)
  | .errand (.close call) => w.withConsumer (w.carryOut setup (.close call))
  | .errand e => w.carryOut setup e
  | .enqueueAll _ [] => (w, .takenEach [])
  | .enqueueAll worker records =>
    match w.carryOut setup (.enqueueEach worker records) with
    | (w, .taken result) => (w, .takenEach [result])
    | answer => answer
  | .enqueueFor p r =>
    match w.consumer.workerOf? p with
    | none => (w, .noWorker)
    | some worker => w.carryOut setup (.enqueueEach worker [r])
  | .background name e =>
    let (w, n) := w.addErrand e
    ({ w with named := setEntry name n w.named }, .started)
  | .join name =>
    match w.named.lookup name with
    | none => (w, .senseless)
    | some n =>
      let w := w.await setup longest n
      (w, match (w.errands[n]?).elim .senseless Errand.reply with
        | .crashed _ => .errandCrashed
        | reply => reply)
  | .assign inRuntime ps => w.listen (w.assign setup inRuntime ps)
  | .revoke ps => w.listen (w.revoke setup ps)
  | .push occurrences => ({ w with occurrences := w.occurrences ++ occurrences }, .done)
  | .start inRuntime => w.withConsumer (w.startConsumer setup inRuntime)
  | .shutdown => ({ w with consumer := { w.consumer with applicationStops := true } }, .done)
  | .info => w.withConsumer (w, .info setup.profile.info)
  | .worker p =>
    w.withConsumer (w, .worker ((w.consumer.workerOf? p).bind (w.consumer.workers[·]?))
      (w.consumer.manager.state p).assignedAt.isSome)
  | .dropConsumer => w.withConsumer ({ w with abandoned := true }, .done)

/-- A new page of the journal. -/
def newPage (w : World) : World :=
  { w with journal := ⟨[], [], [], []⟩, stage := { w.stage with lines := [], notes := [] } }

/-- What has been written on this page. -/
def episode (w : World) (reply : Reply) (ms : Nat) : Episode :=
  ⟨reply, ms, w.journal, w.stage.lines, w.stage.notes, w⟩

/-- Carries out the commands of a script one after the other, whatever becomes of each of them. After
those that are marked everything moves that can. -/
def play (setup : Setup) : List (Command × Bool) → World → List Episode
  | [], _ => []
  | (command, settles) :: rest, w =>
    let (next, reply) := w.newPage.perform setup command
    let ms := next.now - w.now
    let next := if settles then next.settle setup else next
    next.episode reply ms :: play setup rest next

/-- Carries out the commands of a script up to the first one that crashes: what they led to, or the
text of the crash. -/
def playOn (setup : Setup) (commands : List (Command × Bool)) (w : World) :
    Except String (List Episode) :=
  let episodes := w.play setup commands
  match episodes.findSome? (·.reply.crash?) with
  | none => .ok episodes
  | some text => .error text

end World

end TopicConsumer.Simulation
