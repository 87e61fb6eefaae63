import TopicConsumer.Message.Basic

/-!
# The log of a partition

A partition holds at most one record at an offset. Whoever reads it from a position gets its records
in the order of their offsets, and offsets without a record are passed over.

A reader knows which records are done with and which ones are still pending. `Accounted` says that
every record between the start and a position is one or the other, and `Covered` that all of them
are done with.
-/

namespace TopicConsumer

/-- A record of which nothing is known but its place. -/
def Record.bare (p : TopicPartition) (offset : Offset) : Record where
  partition := p
  offset := offset
  key := none
  payload := none
  headers := []
  timestamp := none

/-- The records that a partition holds, now or later. -/
structure PartitionLog (p : TopicPartition) where
  at? : Offset → Option Record
  /-- A record is of this partition and has the offset at which it stands. -/
  place : ∀ {x r}, at? x = some r → r.partition = p ∧ r.offset = x

namespace PartitionLog

variable {p : TopicPartition} {log : PartitionLog p}

instance : Membership Record (PartitionLog p) := ⟨fun log r => log.at? r.offset = some r⟩

theorem partition_of_mem {r : Record} (h : r ∈ log) : r.partition = p := (log.place h).1

/-- There is one record at an offset. -/
theorem eq_of_offset_eq {q r : Record} (hq : q ∈ log) (hr : r ∈ log) (h : q.offset = r.offset) :
    q = r := by
  have hq : log.at? r.offset = some q := h ▸ hq
  exact Option.some.inj (hq.symm.trans hr)

/-- `r` is what a reader gets next from the position `x`. -/
def Next (log : PartitionLog p) (x : Offset) (r : Record) : Prop :=
  r ∈ log ∧ x ≤ r.offset ∧ ∀ q ∈ log, x ≤ q.offset → r.offset ≤ q.offset

variable (log) (start : Offset) (done : Record → Prop)

/-- Every record between the start and the position `x` is done with or pending. -/
def Accounted (pending : List Record) (x : Offset) : Prop :=
  ∀ r ∈ log, start ≤ r.offset → r.offset < x → done r ∨ r ∈ pending

/-- Every record between the start and the position `x` is done with. -/
def Covered (x : Offset) : Prop :=
  ∀ r ∈ log, start ≤ r.offset → r.offset < x → done r

variable {log start done} {pending : List Record} {x y : Offset}

theorem covered_start : log.Covered start done start :=
  fun _ _ ge lt => absurd lt (Int.not_lt.mpr ge)

namespace Covered

theorem mono {more : Record → Prop} (h : log.Covered start done x) (grow : ∀ r, done r → more r) :
    log.Covered start more x :=
  fun r hr ge lt => grow r (h r hr ge lt)

theorem of_le (h : log.Covered start done x) (le : y ≤ x) : log.Covered start done y :=
  fun r hr ge lt => h r hr ge (Int.lt_of_lt_of_le lt le)

theorem accounted (h : log.Covered start done x) : log.Accounted start done pending x :=
  fun r hr ge lt => .inl (h r hr ge lt)

end Covered

namespace Accounted

/-- Records may become done with, and pending records may leave as they do. -/
theorem mono {more : Record → Prop} {rest : List Record}
    (h : log.Accounted start done pending x) (grow : ∀ r, done r → more r)
    (leave : ∀ r ∈ log, start ≤ r.offset → r ∈ pending → more r ∨ r ∈ rest) :
    log.Accounted start more rest x := by
  intro r hr ge lt
  rcases h r hr ge lt with hd | hp
  · exact .inl (grow r hd)
  · exact leave r hr ge hp

theorem of_le (h : log.Accounted start done pending x) (le : y ≤ x) :
    log.Accounted start done pending y :=
  fun r hr ge lt => h r hr ge (Int.lt_of_lt_of_le lt le)

/-- What a reader passes over is no record. -/
theorem next {r : Record} (h : log.Accounted start done pending x) (next : log.Next x r) :
    log.Accounted start done pending r.offset := by
  intro q hq ge lt
  by_cases hx : q.offset < x
  · exact h q hq ge hx
  · exact absurd lt (Int.not_lt.mpr (next.2.2 q hq (Int.not_lt.mp hx)))

/-- The record at the position becomes pending. -/
theorem append {r : Record} (h : log.Accounted start done pending r.offset) (hr : r ∈ log) :
    log.Accounted start done (pending ++ [r]) (r.offset + 1) := by
  intro q hq ge lt
  rcases Int.lt_or_eq_of_le (Int.le_of_lt_add_one lt) with lt | eq
  · exact (h q hq ge lt).imp_right (List.mem_append_left _)
  · rw [eq_of_offset_eq hq hr eq]
    exact .inr List.mem_concat_self

/-- If there is a record at the position, it is done with. -/
theorem advance (h : log.Accounted start done pending x)
    (hd : ∀ r ∈ log, r.offset = x → start ≤ r.offset → done r) :
    log.Accounted start done pending (x + 1) := by
  intro q hq ge lt
  rcases Int.lt_or_eq_of_le (Int.le_of_lt_add_one lt) with lt | eq
  · exact h q hq ge lt
  · exact .inl (hd q hq eq ge)

/-- The record at the position is done with. -/
theorem succ {r : Record} (h : log.Accounted start done pending r.offset) (hr : r ∈ log)
    (hd : start ≤ r.offset → done r) : log.Accounted start done pending (r.offset + 1) := by
  refine h.advance fun q hq eq => ?_
  rw [eq_of_offset_eq hq hr eq]
  exact hd

end Accounted

/-- A log with a bare record at every offset from `first` up to `last`. -/
def plain (p : TopicPartition) (first last : Offset) : PartitionLog p where
  at? x := if first ≤ x ∧ x ≤ last then some (.bare p x) else none
  place := by
    intro x r h
    split at h
    · cases h
      exact ⟨rfl, rfl⟩
    · cases h

theorem next_plain {first last : Offset} (ge : first ≤ x) (le : x ≤ last) :
    (plain p first last).Next x (.bare p x) :=
  ⟨if_pos ⟨ge, le⟩, Int.le_refl x, fun _ _ h => h⟩

end PartitionLog

end TopicConsumer
