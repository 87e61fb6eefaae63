/-!
# Partitions and positions

A partition is named by its topic and a number; a position is an offset in a partition. Partitions
are ordered by the code points of their topics and then by number.
-/

namespace TopicConsumer

/-- The number of a record in its partition. Offsets are signed 64-bit numbers and lie below
`2 ^ 63 - 1`, so that the position behind a record, its offset plus one, is such a number as well.
-/
abbrev Offset := Int

/-- A partition of a topic. -/
structure TopicPartition where
  topic : String
  number : Nat
  deriving DecidableEq, Inhabited

namespace TopicPartition

/-- The greatest number of a partition. -/
def greatestNumber : Nat := 2147483647

/-- The partition of that number. A number stands for its absolute value, as far as that is a
number of a partition. -/
def of (topic : String) (number : Int) : TopicPartition := ⟨topic, min number.natAbs greatestNumber⟩

/-- The topic with the number in brackets. -/
def text (p : TopicPartition) : String := p.topic ++ " [" ++ toString p.number ++ "]"

instance : ToString TopicPartition := ⟨text⟩

/-- Topic first, then number. -/
def before (p q : TopicPartition) : Bool :=
  p.topic < q.topic || (p.topic == q.topic && p.number < q.number)

/-- The partitions in their order. -/
def sorted (ps : List TopicPartition) : List TopicPartition :=
  ps.mergeSort fun p q => !q.before p

end TopicPartition

/-- An offset in a partition. -/
structure Position where
  partition : TopicPartition
  offset : Offset
  deriving DecidableEq, Inhabited

namespace Position

/-- The partition, then the offset behind an `@`. -/
def text (p : Position) : String := p.partition.text ++ " @" ++ toString p.offset

instance : ToString Position := ⟨text⟩

end Position

end TopicConsumer
