import TopicConsumer.Message.Headers
import TopicConsumer.Message.Partition

/-!
# Messages and records

A record is what is read from a partition: bytes under an optional key, with headers whose values
may be missing and a time in milliseconds that may be missing too. A message is what handlers see of
it: texts where texts are meant, and always a time.
-/

namespace TopicConsumer

/-- A sequence of bytes. -/
abbrev Bytes := List UInt8

/-- A message as it is handed to the application. -/
structure Message where
  partition : TopicPartition
  offset : Offset
  key : Option String
  body : Bytes
  headers : Headers
  timestamp : Timestamp
  deriving DecidableEq, Inhabited

namespace Message

/-- Where the message stands. -/
def position (m : Message) : Position := ⟨m.partition, m.offset⟩

/-- The body as text, if it is well-formed UTF-8. -/
def bodyText? (m : Message) : Option String := Text.decode? m.body

/-- Key, position and time in one line; a missing key is written as an empty one. -/
def text (m : Message) : String :=
  "key=" ++ m.key.getD "" ++ ", " ++ m.position.text ++ ", timestamp=" ++ m.timestamp.text

end Message

/-- A record as it is read from its partition. -/
structure Record where
  partition : TopicPartition
  offset : Offset
  key : Option Bytes
  payload : Option Bytes
  headers : List (String × Option Bytes)
  /-- Milliseconds after the epoch. -/
  timestamp : Option Int
  deriving DecidableEq, Inhabited

namespace Record

/-- Where the record stands. -/
def position (r : Record) : Position := ⟨r.partition, r.offset⟩

/-- The headers that have a value, decoded, in the order of the record. -/
def valuedHeaders (r : Record) : List Header :=
  r.headers.filterMap fun (name, value) => value.map fun v => ⟨name, Text.decodeLossy v⟩

/-- The time of the record. One that is missing, or whose date cannot be written, is the epoch. -/
def time (r : Record) : Timestamp := (r.timestamp.bind Timestamp.ofMillis?).getD .epoch

/-- The message of a record. Key and header values are decoded as UTF-8, a header without a value
counts for nothing, and a missing payload is an empty body. -/
def toMessage (r : Record) : Message where
  partition := r.partition
  offset := r.offset
  key := r.key.map Text.decodeLossy
  body := r.payload.getD []
  headers := Headers.ofList r.valuedHeaders
  timestamp := r.time

end Record

end TopicConsumer
