import TopicConsumer.Message.Basic
import TopicConsumer.Text.JsonText
import TopicConsumer.Text.Reader

/-!
# Messages in full

A message written as a JSON object, with its bytes in hexadecimal and everything that can be derived
from it. The keys stand in alphabetical order, and so do the names of the headers.
-/

namespace TopicConsumer

/-- Bytes in hexadecimal. -/
def hexText (bytes : Bytes) : String :=
  String.ofList
    (bytes.flatMap fun b => [JsonText.hexDigit (b.toNat / 16), JsonText.hexDigit b.toNat])

/-- The bytes that are written in hexadecimal. -/
def hexBytes? : List Char → Option Bytes
  | [] => some []
  | a :: b :: rest => do
    let n ← Text.inBase? 16 [a, b]
    pure (UInt8.ofNat n :: (← hexBytes? rest))
  | [_] => none

/-- The headers in the order of their names. -/
def Headers.sorted (hs : Headers) : List Header :=
  hs.toList.mergeSort fun a b => a.name < b.name || (a.name == b.name && a.value ≤ b.value)

/-- A header as a pair. -/
def Header.shown (h : Header) : String :=
  JsonText.list [JsonText.string h.name, JsonText.string h.value]

namespace Message

/-- The fields of a message and what follows from them. -/
def shownFields (m : Message) : List (String × String) := [
  ("body", JsonText.string (hexText m.body)),
  ("body_str", JsonText.option JsonText.string m.bodyText?),
  ("display", JsonText.string m.text),
  ("headers", JsonText.list (m.headers.sorted.map Header.shown)),
  ("key", JsonText.option JsonText.string m.key),
  ("offset", JsonText.int m.offset),
  ("partition", JsonText.int m.partition.number),
  ("position", JsonText.string m.position.text),
  ("topic", JsonText.string m.partition.topic),
  ("ts", JsonText.string (toString m.timestamp.nanos))]

/-- The message in full. -/
def shown (m : Message) : String := JsonText.object m.shownFields

end Message

end TopicConsumer
