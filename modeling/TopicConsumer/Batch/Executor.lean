import TopicConsumer.Batch.Context

/-!
# Handling the messages of a batch one by one

An executor runs a message pipeline for each message of a batch, in the order of the offsets. With
parallelism 1 it does so in place and stops at the first failure. With a greater parallelism every
message is a task of its own, and the outcome is known when all tasks that were started have ended.
-/

namespace TopicConsumer

/-- A message pipeline and how many messages may be handled at the same time. -/
structure Executor (A : Dialogue) where
  pipeline : MessagePipeline A
  parallelism : Nat

namespace Executor

variable {A : Dialogue}

/-- An executor that handles one message after the other. -/
def sequential (p : MessagePipeline A) : Executor A := ⟨p, 1⟩

/-- An executor of the given parallelism, which has to be positive. -/
def withParallelism (p : MessagePipeline A) (n : Nat) : Except PipelineError (Executor A) :=
  if n = 0 then .error (.invalidParallelism n) else .ok ⟨p, n⟩

/-- The greatest number of permits that a semaphore can hold. -/
def greatestPermits : Nat := Nat.pow 2 61 - 1

/-- What a semaphore says when it is asked to hold more. -/
def tooManyPermits : String :=
  "a semaphore may not have more than MAX_PERMITS permits (" ++ toString greatestPermits ++ ")"

/-- The messages by ascending offset, equal offsets in the order of the batch. -/
def inOrder (messages : List Message) : List Message :=
  messages.mergeSort fun a b => a.offset ≤ b.offset

/-- Handles one message with a copy of the shared values. -/
def job (e : Executor A) (items : Items) (m : Message) : MessageRoutine A Outcome := do
  let (outcome, _) ← e.pipeline.execute ⟨m, items⟩
  pure outcome

/-- Handles messages one after the other up to the first failure. -/
def oneByOne (e : Executor A) (items : Items) : List Message → BatchRoutine A Outcome
  | [] => pure (.ok ())
  | m :: rest => do
    match ← (e.job items m).inBatch with
    | .ok () => e.oneByOne items rest
    | .error fault => pure (.error fault)

/-- Handles the messages of a batch. -/
def execute (e : Executor A) (messages : List Message) (items : Items) : BatchRoutine A Outcome :=
  if e.parallelism = 1 then e.oneByOne items (inOrder messages)
  else if greatestPermits < e.parallelism then
    Routine.ask (D := batchDialogue A) (.message (.crash tooManyPermits)) fun none => nomatch none
  else
    Routine.query (D := batchDialogue A)
      (.dispatch e.parallelism ((inOrder messages).map (e.job items)))

/-- Handles a batch without shared values. -/
def toHandler (e : Executor A) : Handler A := fun messages => e.execute messages []

/-- The batch step that handles the messages one by one before the rest of the chain. -/
def step (e : Executor A) : BatchStep A := fun next ctx => do
  match ← e.execute ctx.messages ctx.items with
  | .ok () => next.run ctx
  | .error fault => pure (.error fault, ctx)

end Executor

end TopicConsumer
