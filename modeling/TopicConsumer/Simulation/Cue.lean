import TopicConsumer.Batch.Context

/-!
# What staged handlers ask for

Handlers in a simulation have no application behind them. What they ask for is shown in the answer
of the simulation or steers it: they leave notes, count, sleep, wait for a permit of the gate, and
report the batches they get.
-/

namespace TopicConsumer.Simulation

/-- A question of a staged handler. -/
inductive Cue where
  /-- Leaves a note about the message of an offset, or about the whole batch. -/
  | note (offset : Option Offset) (text : String)
  /-- Keeps what a batch has become, in place of what was kept before. -/
  | keep (context : BatchContext)
  /-- Counts one more under a key and tells how many there have been. -/
  | tally (key : String)
  /-- Sleeps so many milliseconds and is counted among the sleepers. -/
  | sleep (ms : Nat)
  /-- Lets so many milliseconds go by. -/
  | rest (ms : Nat)
  /-- Takes a permit of the gate, in turn. -/
  | gate
  /-- Waits for ever. -/
  | never
  /-- Waits until the cancellation is raised. -/
  | cancellation
  /-- A batch of a partition begins. The reply tells how many of that partition came before and, if
  the one before failed with the same offsets, how many milliseconds ago. -/
  | opening (partition : TopicPartition) (offsets : List Offset)
  /-- Reports something about the batches of a partition. -/
  | line (partition : TopicPartition) (text : String)
  /-- The batch of a partition fails. -/
  | failure (partition : TopicPartition) (offsets : List Offset)

/-- The replies to the questions of staged handlers. -/
def Cue.Reply : Cue → Type
  | .tally _ => Nat
  | .opening _ _ => Nat × Option Nat
  | .never => Empty
  | .note _ _ | .keep _ | .sleep _ | .rest _ | .gate | .cancellation | .line _ _
  | .failure _ _ => Unit

/-- The dialogue of staged handlers. -/
def staging : Dialogue := ⟨Cue, Cue.Reply⟩

/-- A question, asked where a message is handled. -/
def ask (q : Cue) : MessageRoutine staging q.Reply :=
  Routine.query (D := messageDialogue staging) (.app q)

/-- Whether the cancellation has been raised. -/
def isCancelled : MessageRoutine staging Bool :=
  Routine.query (D := messageDialogue staging) .isCancelled

/-- Raises the cancellation. -/
def cancel : MessageRoutine staging Unit := Routine.query (D := messageDialogue staging) .cancel

/-- Crashes. -/
def crash {α : Type} (text : String) : MessageRoutine staging α :=
  Routine.ask (D := messageDialogue staging) (.crash text) fun none => nomatch none

end TopicConsumer.Simulation
