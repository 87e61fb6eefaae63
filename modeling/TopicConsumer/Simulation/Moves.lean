import TopicConsumer.Batch.Compaction
import TopicConsumer.Batch.Delay
import TopicConsumer.Batch.Executor
import TopicConsumer.Simulation.Cue
import TopicConsumer.Simulation.Probe
import TopicConsumer.Text.JsonText
import TopicConsumer.Worker.Basic

/-!
# Probing steps on messages and batches

Beside the steps that every pipeline has, the pipelines of messages and of batches have some that
show what only they can do: delay, fail, crash or raise the cancellation at given offsets, and read
and write the shared values.
-/

namespace TopicConsumer.Simulation

/-- The shared values as a JSON object, by ascending keys. -/
def itemsText (items : Items) : String :=
  JsonText.object ((items.mergeSort fun a b => a.1 ≤ b.1).map fun (k, v) => (k, JsonText.string v))

/-! ## Messages -/

/-- A condition on a message. -/
inductive MessageCondition where
  | always (holds : Bool)
  | hasNoKey
  | hasKey (key : String)
  | offsetBelow (bound : Offset)
  | hasHeader (name value : String)
  | hasItem (key value : String)
  | cancelled

/-- A step on a message. Where offsets are given, the step acts on messages of these only. -/
inductive MessageMove where
  /-- Waits until the message is due. -/
  | delay
  /-- Notes whether the cancellation has been raised. -/
  | seen
  /-- Notes the message in words. -/
  | display
  /-- Sleeps as long as is said for the offset, or else so many milliseconds. -/
  | sleep (byOffset : List (Offset × Nat)) (ms : Nat)
  | failAt (offsets : Option (List Offset)) (text : String)
  | crashAt (offsets : Option (List Offset)) (text : String)
  | cancelAt (offsets : Option (List Offset))
  /-- Sets a shared value to a text followed by the offset, and notes what was there before. -/
  | item (key text : String)
  /-- Notes the shared values. -/
  | items

/-- A probing step on messages. -/
abbrev MessageProbe := Probe MessageCondition MessageMove

/-- The condition holds. -/
def MessageCondition.holds (c : MessageContext) : MessageCondition → MessageRoutine staging Bool
  | .always holds => pure holds
  | .hasNoKey => pure c.message.key.isNone
  | .hasKey key => pure (c.message.key = some key)
  | .offsetBelow bound => pure (c.message.offset < bound)
  | .hasHeader name value => pure (c.message.headers.get? name = some value)
  | .hasItem key value => pure (c.items.get? key = some value)
  | .cancelled => isCancelled

/-- Leaves a note about the message. -/
def noteMessage (text : String) : StateT MessageContext (MessageRoutine staging) Unit := do
  let c ← get
  liftM (ask (.note (some c.message.offset) text))

/-- The message has one of the offsets. -/
def concerns (offsets : Option (List Offset)) (c : MessageContext) : Bool :=
  offsets.all (·.contains c.message.offset)

/-- What a step on a message does. -/
def MessageMove.toStep : MessageMove → MessageStep staging
  | .delay => Delay.step
  | .seen => fun next => do
    let cancelled ← liftM isCancelled
    noteMessage ("seen cancelled=" ++ toString cancelled)
    next.run
  | .display => fun next => do
    noteMessage (← get).message.text
    next.run
  | .sleep byOffset ms => fun next => do
    liftM (ask (.sleep ((byOffset.lookup (← get).message.offset).getD ms)))
    noteMessage "slept"
    next.run
  | .failAt offsets text => fun next => do
    let c ← get
    if concerns offsets c then
      noteMessage "fail"
      pure (.error (.failed (text ++ "@" ++ toString c.message.offset)))
    else next.run
  | .crashAt offsets text => fun next => do
    let c ← get
    if concerns offsets c then liftM (crash (text ++ "@" ++ toString c.message.offset))
    else next.run
  | .cancelAt offsets => fun next => do
    if concerns offsets (← get) then liftM cancel
    next.run
  | .item key text => fun next => do
    let c ← get
    noteMessage ("item " ++ key ++ " was " ++ JsonText.option JsonText.string (c.items.get? key))
    set { c with items := c.items.set key (text ++ toString c.message.offset) }
    next.run
  | .items => fun next => do
    noteMessage (itemsText (← get).items)
    next.run

/-- Where probing steps on messages run. -/
def messageBackdrop :
    Backdrop (MessageRoutine staging) MessageContext MessageCondition MessageMove where
  note := noteMessage
  tally key := liftM (ask (.tally key))
  crash text := liftM (crash text)
  holds condition := do liftM (condition.holds (← get))
  special := MessageMove.toStep
  wording := Fault.message

/-- The pipeline of probing steps on messages. -/
def messagePipeline (steps : List MessageProbe) : MessagePipeline staging :=
  Probe.toPipeline messageBackdrop steps

/-- An executor of probing steps, which handles one message after the other if nothing is said of
its parallelism. -/
def executorOf (steps : List MessageProbe) (parallelism : Option Nat) :
    Except PipelineError (Executor staging) :=
  match parallelism with
  | none => .ok (.sequential (messagePipeline steps))
  | some n => Executor.withParallelism (messagePipeline steps) n

/-! ## Batches -/

/-- A condition on a batch. -/
inductive BatchCondition where
  | always (holds : Bool)
  | atLeast (messages : Nat)
  | hasItem (key value : String)
  | cancelled

/-- A step on a batch. -/
inductive BatchMove where
  | compact
  /-- Handles the messages one by one. -/
  | messages (executor : Executor staging)
  /-- Notes the offsets and keys of the messages, and whether the cancellation has been raised. -/
  | probe
  | item (key value : String)
  /-- Notes the shared values. -/
  | items
  | reverse
  | cancel

/-- A probing step on batches. -/
abbrev BatchProbe := Probe BatchCondition BatchMove

/-- The condition holds. -/
def BatchCondition.holds (c : BatchContext) : BatchCondition → BatchRoutine staging Bool
  | .always holds => pure holds
  | .atLeast messages => pure (messages ≤ c.messages.length)
  | .hasItem key value => pure (c.items.get? key = some value)
  | .cancelled => isCancelled.inBatch

/-- Leaves a note about the batch. -/
def noteBatch (text : String) : StateT BatchContext (BatchRoutine staging) Unit :=
  liftM (ask (.note none text)).inBatch

/-- Keeps what the batch has become. -/
def keepBatch : StateT BatchContext (BatchRoutine staging) Unit := do
  let c ← get
  liftM (ask (.keep c)).inBatch

/-- Offset and key of a message. -/
def offsetAndKey (m : Message) : String :=
  JsonText.list [JsonText.int m.offset, JsonText.option JsonText.string m.key]

/-- What a step on a batch does. -/
def BatchMove.toStep : BatchMove → BatchStep staging
  | .compact => Compaction.step
  | .messages executor => fun next => do
    keepBatch
    executor.step next
  | .probe => fun next => do
    let messages := JsonText.list ((← get).messages.map offsetAndKey)
    let cancelled ← liftM isCancelled.inBatch
    noteBatch ("probe " ++ messages ++ " cancelled=" ++ toString cancelled)
    next.run
  | .item key value => fun next => do
    modify fun c => { c with items := c.items.set key value }
    next.run
  | .items => fun next => do
    noteBatch (itemsText (← get).items)
    next.run
  | .reverse => fun next => do
    modify fun c => { c with messages := c.messages.reverse }
    next.run
  | .cancel => fun next => do
    liftM Simulation.cancel.inBatch
    next.run

/-- Where probing steps on batches run. -/
def batchBackdrop : Backdrop (BatchRoutine staging) BatchContext BatchCondition BatchMove where
  note := noteBatch
  tally key := liftM (ask (.tally key)).inBatch
  crash text := do
    keepBatch
    liftM (crash text).inBatch
  holds condition := do liftM (condition.holds (← get))
  special := BatchMove.toStep
  wording := Fault.message

/-- The pipeline of probing steps on batches. -/
def batchPipeline (steps : List BatchProbe) : BatchPipeline staging :=
  Probe.toPipeline batchBackdrop steps

end TopicConsumer.Simulation
