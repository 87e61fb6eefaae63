import TopicConsumer.Entries
import TopicConsumer.Message.Basic
import TopicConsumer.Pipeline.Basic
import TopicConsumer.Routine.Basic

/-!
# Contexts of handling

Handling runs under a cancellation that its surroundings may raise at any time. A routine that
handles messages can read the clock, wait, look at the cancellation, raise it and crash; beyond that
it asks what the application has to ask. A routine that handles a batch can also have a list of
message routines run side by side.

`MessageContext` and `BatchContext` are what the steps of message and batch pipelines work on.
-/

namespace TopicConsumer

/-- Values under keys that the steps of a pipeline share. -/
abbrev Items := List (String × String)

/-- Sets the value of a key. -/
def Items.set (items : Items) (key value : String) : Items := setEntry key value items

/-- The value of a key. -/
def Items.get? (items : Items) (key : String) : Option String := items.lookup key

/-- What the handling of a message asks for, beyond the questions `A` of the application. -/
inductive MessageQuery (A : Dialogue) where
  /-- The reading of the clock. -/
  | now
  /-- Waits so many nanoseconds. The reply is whether the wait went to its end: it does not if the
  cancellation is raised before. -/
  | wait (nanos : Nat)
  /-- The cancellation has been raised. -/
  | isCancelled
  /-- Raises the cancellation. -/
  | cancel
  /-- Crashes with a text; there is no reply. -/
  | crash (text : String)
  /-- A question of the application. -/
  | app (q : A.Query)

/-- The replies to the questions of message handling. -/
def MessageQuery.Reply {A : Dialogue} : MessageQuery A → Type
  | .now => Timestamp
  | .wait _ => Bool
  | .isCancelled => Bool
  | .cancel => Unit
  | .crash _ => Empty
  | .app q => A.Reply q

/-- The dialogue of message handling. -/
def messageDialogue (A : Dialogue) : Dialogue := ⟨MessageQuery A, MessageQuery.Reply⟩

/-- A routine that handles a message. -/
abbrev MessageRoutine (A : Dialogue) := Routine (messageDialogue A)

/-- What the handling of a batch asks for. -/
inductive BatchQuery (A : Dialogue) where
  /-- A question that message handling has too. -/
  | message (q : MessageQuery A)
  /-- Runs message routines as tasks of their own, started in this order, at most `limit` of them
  unfinished at any time. The reply comes when every started one has finished. -/
  | dispatch (limit : Nat) (jobs : List (MessageRoutine A Outcome))

/-- The replies to the questions of batch handling. -/
def BatchQuery.Reply {A : Dialogue} : BatchQuery A → Type
  | .message q => q.Reply
  | .dispatch _ _ => Outcome

/-- The dialogue of batch handling. -/
def batchDialogue (A : Dialogue) : Dialogue := ⟨BatchQuery A, BatchQuery.Reply⟩

/-- A routine that handles a batch. -/
abbrev BatchRoutine (A : Dialogue) := Routine (batchDialogue A)

/-- Message handling done in place by a routine that handles a batch. -/
def MessageRoutine.inBatch {A : Dialogue} {α : Type} (r : MessageRoutine A α) : BatchRoutine A α :=
  r.interpret fun q => Routine.query (D := batchDialogue A) (.message q)

/-- A message and the values that came with its batch. -/
structure MessageContext where
  message : Message
  items : Items

/-- The messages of a batch and the values shared by the steps. -/
structure BatchContext where
  messages : List Message
  items : Items

/-- Steps that handle one message. -/
abbrev MessageStep (A : Dialogue) := Step (MessageRoutine A) MessageContext

/-- Pipelines that handle one message. -/
abbrev MessagePipeline (A : Dialogue) := Pipeline (MessageRoutine A) MessageContext

/-- Steps that handle a batch. -/
abbrev BatchStep (A : Dialogue) := Step (BatchRoutine A) BatchContext

/-- Pipelines that handle a batch. -/
abbrev BatchPipeline (A : Dialogue) := Pipeline (BatchRoutine A) BatchContext

/-- A handler turns a batch into a routine, which ends with the outcome. -/
abbrev Handler (A : Dialogue) := List Message → BatchRoutine A Outcome

/-- Handles a batch by a pipeline, which starts without shared values. -/
def Pipeline.toHandler {A : Dialogue} (p : BatchPipeline A) : Handler A := fun messages => do
  let (outcome, _) ← p.execute ⟨messages, []⟩
  pure outcome

end TopicConsumer
