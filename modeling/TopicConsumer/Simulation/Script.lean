import TopicConsumer.Message.Shown
import TopicConsumer.Simulation.Cue
import TopicConsumer.Worker.Retry

/-!
# Scripted handlers

A scripted handler plays a list of parts, one for each batch of a partition, the last of them again
and again. It reports when a batch begins and how it ends.
-/

namespace TopicConsumer.Simulation

/-- How a scripted handler deals with a batch. -/
inductive Part where
  | handle
  | fail (text : String)
  | crash
  /-- Never ends. -/
  | hang
  /-- Handles the batch when the gate lets it through. -/
  | gate
  /-- Handles the batch when the cancellation is raised. -/
  | cancellation
  deriving DecidableEq

/-- Parts, each behind a number of milliseconds. -/
abbrev Parts := List (Nat × Part)

/-- The parts of a handler. -/
structure Script where
  parts : Parts
  /-- Parts for single partitions, under their texts. -/
  perPartition : List (String × Parts)
  /-- The messages of each batch are reported in full. -/
  detailed : Bool

namespace Script

/-- The part that is played for the `n`-th batch of a partition. -/
def part (s : Script) (p : TopicPartition) (n : Nat) : Nat × Part :=
  let parts := (s.perPartition.lookup p.text).getD s.parts
  parts.getD n (parts.getLastD (0, .handle))

/-- Offsets in brackets. -/
def offsetsText (offsets : List Offset) : String :=
  "[" ++ ",".intercalate (offsets.map toString) ++ "]"

/-- What crashes a handler. -/
def crashText : String := "handler panic"

/-- Milliseconds between a failure and the attempt after it, less the smallest jitter and in steps
of fifty, so that no jitter shows. -/
def shownGap (ms : Nat) : Nat := (ms - Retry.Jitter.smallest.millis) / 50 * 50

/-- The report of a batch that begins. -/
def beginning (offsets : List Offset) (gap : Option Nat) : String :=
  "start " ++ offsetsText offsets ++ gap.elim "" fun ms => " retry " ++ toString (shownGap ms)

/-- Plays a part. -/
def play (p : TopicPartition) (offsets : List Offset) : Part → MessageRoutine staging Outcome
  | .handle => handled
  | .fail text => do
    ask (.line p ("err " ++ offsetsText offsets))
    ask (.failure p offsets)
    pure (.error (.failed text))
  | .crash => do
    ask (.line p ("panic " ++ offsetsText offsets))
    Simulation.crash crashText
  | .hang => (ask .never).andThen fun none => nomatch none
  | .gate => do
    ask .gate
    handled
  | .cancellation => do
    ask .cancellation
    handled
where
  /-- The batch is handled. -/
  handled : MessageRoutine staging Outcome := do
    ask (.line p ("ok " ++ offsetsText offsets))
    pure (.ok ())

/-- Handles the batch of a partition. -/
def handle (s : Script) (p : TopicPartition) (messages : List Message) :
    MessageRoutine staging Outcome := do
  let offsets := messages.map Message.offset
  let (n, gap) ← ask (.opening p offsets)
  ask (.line p (beginning offsets gap))
  if s.detailed then messages.forM fun m => ask (.line p ("message " ++ m.shown))
  let (ms, part) := s.part p n
  ask (.rest ms)
  play p offsets part

/-- The handler of a script. -/
def toHandler (s : Script) : Handler staging := fun messages =>
  match messages with
  | [] => pure (.ok ())
  | m :: _ => (s.handle m.partition messages).inBatch

end Script

end TopicConsumer.Simulation
