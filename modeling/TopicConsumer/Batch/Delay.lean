import TopicConsumer.Batch.Context

/-!
# Delayed handling

A message that says when it was published and by how many seconds it is to be delayed is due at the
sum of the two. The delay step waits for that instant before the rest of the chain, and gives up if
the cancellation is raised while it waits. A message without one of the two headers, with one that
cannot be read, or whose sum is no date that can be written, is not delayed.
-/

namespace TopicConsumer.Delay

open Text

/-- When the message is due, if it is delayed at all. -/
def due? (headers : Headers) : Option Timestamp := do
  let published ← headers.timestamp? Headers.publishedAt
  let seconds ← headers.integer? NumeralRange.int64 Headers.delaySeconds
  published.addSeconds? seconds

/-- The nanoseconds left at `now` before an instant, if there are any. -/
def remaining? (now due : Timestamp) : Option Nat :=
  if 0 < now.nanosTo due then some (now.nanosTo due).toNat else none

/-- The step that waits until the message is due. -/
def step {A : Dialogue} : MessageStep A := fun next ctx =>
  match due? ctx.message.headers with
  | none => next.run ctx
  | some due =>
    Routine.ask (D := messageDialogue A) .now fun now =>
      match remaining? now due with
      | none => next.run ctx
      | some nanos =>
        Routine.ask (D := messageDialogue A) (.wait nanos) fun (slept : Bool) =>
          if slept then next.run ctx else .done (.error (.pipeline .cancelled), ctx)

end TopicConsumer.Delay
