import TopicConsumer.Proofs.Worker.Moves

/-!
# What the moves leave alone

The batcher never touches the intake of its worker: it only takes records away, so that the records
that are pending afterwards were pending before, in the same order. A call that enqueues a record
puts at most this record behind the others. A call that closes the worker changes no record at all.

`Worker.Ordered` collects what follows for every worker: its pending records have increasing
offsets, none of them is beyond the record admitted last, and a batch is never empty.
-/

namespace TopicConsumer

/-- The records that a worker has admitted and not done with. -/
def Worker.pending (w : Worker) : List Record := w.batcher.batch ++ w.queue

/-- A batch that is there has a record. -/
def Batcher.Filled : Batcher → Prop
  | .collecting b _ | .checking b _ | .comparing b _ | .starting b _ | .handling b _
  | .backingOff b _ _ | .releasing b => b ≠ []
  | .idle | .storing _ | .resuming | .ended _ => True

/-! ## The last record of a batch -/

namespace Batcher

theorem lastOffset_append_singleton (b : List Record) (r : Record) :
    lastOffset (b ++ [r]) = r.offset := by
  simp [lastOffset]

theorem exists_offset_eq_lastOffset {b : List Record} (h : b ≠ []) :
    ∃ r ∈ b, r.offset = lastOffset b := by
  refine ⟨b.getLast h, List.getLast_mem h, ?_⟩
  simp [lastOffset, List.getLast?_eq_some_getLast h]

/-- No record of an increasing batch is behind the last one. -/
theorem le_lastOffset {b : List Record} (h : b.Pairwise fun a c => a.offset < c.offset) {r : Record}
    (hr : r ∈ b) : r.offset ≤ lastOffset b := by
  rcases List.eq_nil_or_concat b with rfl | ⟨b, last, rfl⟩
  · cases hr
  · rw [List.concat_eq_append] at h hr ⊢
    rw [lastOffset_append_singleton]
    rcases List.mem_append.mp hr with hb | hl
    · exact Int.le_of_lt ((List.pairwise_append.mp h).2.2 r hb last (List.mem_singleton_self _))
    · exact Int.le_of_eq (congrArg Record.offset (List.mem_singleton.mp hl))

/-- Whatever follows an increasing batch lies behind its last record. -/
theorem lastOffset_lt {b q : List Record}
    (h : (b ++ q).Pairwise fun a c => a.offset < c.offset) (hb : b ≠ []) {r : Record} (hr : r ∈ q) :
    lastOffset b < r.offset := by
  obtain ⟨last, hlast, heq⟩ := exists_offset_eq_lastOffset hb
  rw [← heq]
  exact (List.pairwise_append.mp h).2.2 last hlast r hr

end Batcher

/-! ## The batcher -/

namespace Batcher

variable {env : Surroundings} {s t : Station} {events : List Event}

/-- The batcher leaves all of the worker alone but its queue, its permits and its own phase. -/
theorem Move.worker_eq (h : Move env s t events) :
    t.worker = { s.worker with
      queue := t.worker.queue, permits := t.worker.permits, batcher := t.worker.batcher } := by
  cases h <;> rfl

/-- The batcher only takes records away. -/
theorem Move.pending_sublist (h : Move env s t events) :
    t.worker.pending.Sublist s.worker.pending := by
  cases h with
  | finish => simp [Worker.pending, Worker.endTask, batch]
  | opened idle live queue => simp [Worker.pending, batch, idle, queue]
  | overflowed => simp [Worker.pending, Worker.endTask, batch]
  | taken collecting small live queue => simp [Worker.pending, batch, collecting, queue]
  | formed collecting => simp [Worker.pending, batch, collecting]
  | checked checking => simp [Worker.pending, batch, checking]
  | compared comparing => simp [Worker.pending, batch, comparing]
  | skipped => simp [Worker.pending, Worker.dropBatch, batch]
  | handed starting => simp [Worker.pending, batch, starting]
  | woken waiting => simp [Worker.pending, batch, waiting]
  | givenUp => simp [Worker.pending, Worker.dropBatch, batch]
  | released => simp [Worker.pending, batch]
  | stored => simp [Worker.pending, batch]
  | resumed => simp [Worker.pending, batch]
  | crashed => simp [Worker.pending, Worker.endTask, Batcher.crash, batch]

theorem Move.filled (h : Move env s t events) (filled : s.worker.batcher.Filled) :
    t.worker.batcher.Filled := by
  cases h with
  | finish => trivial
  | opened => exact List.cons_ne_nil _ _
  | overflowed => trivial
  | taken => simp [Filled]
  | formed collecting => simpa [Filled, collecting] using filled
  | checked checking => simpa [Filled, checking] using filled
  | compared comparing => simpa [Filled, comparing] using filled
  | skipped => trivial
  | handed starting => simpa [Filled, starting] using filled
  | woken waiting => simpa [Filled, waiting] using filled
  | givenUp => trivial
  | released => trivial
  | stored => trivial
  | resumed => trivial
  | crashed => trivial

/-- A batch task that has ended makes no move. -/
theorem Move.alive (h : Move env s t events) : s.worker.batcher.hasEnded = false := by
  cases h with
  | finish idle | opened idle | overflowed idle => rw [idle]; rfl
  | givenUp trying =>
    rcases trying with phase | phase | phase | ⟨wake, phase⟩ <;> rw [phase] <;> rfl
  | crashed operating =>
    rcases operating with ⟨last, phase, -⟩ | ⟨phase, -⟩ <;> rw [phase] <;> rfl
  | taken phase | formed phase | checked phase | compared phase | skipped phase | handed phase
  | woken phase | released phase | stored phase | resumed phase => rw [phase]; rfl

theorem Ends.alive {ending : Ending} (h : Ends env s ending t events) :
    s.worker.batcher.hasEnded = false := by
  cases h with
  | handled handling | failed handling | crashed handling => rw [handling]; rfl

theorem Ends.worker_eq {ending : Ending} (h : Ends env s ending t events) :
    t.worker = { s.worker with
      queue := t.worker.queue, permits := t.worker.permits, batcher := t.worker.batcher } := by
  cases h <;> rfl

theorem Ends.manager_eq {ending : Ending} (h : Ends env s ending t events) :
    t.manager = s.manager := by
  cases h <;> rfl

theorem Ends.pending_sublist {ending : Ending} (h : Ends env s ending t events) :
    t.worker.pending.Sublist s.worker.pending := by
  cases h with
  | handled handling => simp [Worker.pending, batch, handling]
  | failed handling => simp [Worker.pending, batch, handling]
  | crashed => simp [Worker.pending, Worker.endTask, Batcher.crash, batch]

theorem Ends.filled {ending : Ending} (h : Ends env s ending t events)
    (filled : s.worker.batcher.Filled) : t.worker.batcher.Filled := by
  cases h with
  | handled handling => simpa [Filled, handling] using filled
  | failed handling => simpa [Filled, handling] using filled
  | crashed => trivial

end Batcher

/-! ## Calls -/

/-- A call that enqueues a record puts it into the queue, or changes nothing but the permits. -/
theorem Intake.Move.worker_eq {env : Surroundings} {r : Record} {s t : Station} {i j : Intake}
    {events : List Event} (h : Intake.Move env r s i t j events) :
    (i = .admitting ∧ j = .returned (.ok ()) ∧ s.worker.intakeOpen = true ∧
        s.worker.batcher.hasEnded = false ∧ t.worker = { s.worker with
          queue := s.worker.queue ++ [r], latestQueued := some r.offset }) ∨
      (i = .admitting → ∃ e, j = .returned (.error e)) ∧
        t.worker = { s.worker with permits := t.worker.permits } := by
  cases h with
  | admitted accepting alive => exact .inl ⟨rfl, rfl, accepting, alive, rfl⟩
  | turnedAway => exact .inr ⟨fun _ => ⟨_, rfl⟩, rfl⟩
  | _ => exact .inr ⟨by simp, rfl⟩

/-- A call that closes the worker changes no record. -/
theorem Disposal.Move.worker_eq {env : Surroundings} {s t : Station} {d e : Disposal}
    {events : List Event} (h : Disposal.Move env s d t e events) :
    t.worker = { s.worker with
        status := t.worker.status
        intakeOpen := t.worker.intakeOpen
        cancelled := t.worker.cancelled } ∧
      (t.worker.intakeOpen = true → s.worker.intakeOpen = true) ∧
      (s.worker.cancelled = true → t.worker.cancelled = true) := by
  cases h <;> simp [Worker.closeIntake, Worker.cancel]

/-! ## The state of the partition -/

section Committed

variable {env : Surroundings} {s t : Station} {events : List Event}

/-- The batcher changes the cached position only when it stores an offset. -/
theorem Batcher.Move.committed_eq (h : Move env s t events) :
    t.committed = s.committed ∨ ∃ last, s.worker.batcher = .storing last ∧
      t.worker.batcher = .resuming ∧ t.worker.queue = s.worker.queue ∧
        t.committed = some (s.committed.elim (last + 1) (max (last + 1))) := by
  cases h with
  | stored storing fine =>
    refine .inr ⟨_, storing, rfl, rfl, ?_⟩
    rw [Station.at_committed, Station.committed_performed_store env s _ fine]
  | resumed =>
    rw [Station.at_committed, Station.committed_performed env _ _ s (by simp) (by simp)]
    exact .inl rfl
  | crashed operating broken =>
    exact .inl (congrArg PartitionState.committed
      (Station.performed_state_of_crashing? _ _ _ _ broken s.worker.partition))
  | _ => exact .inl rfl

/-- The offset that is about to be stored is that of the last record of the batch that is done. -/
theorem Batcher.Move.storing (h : Move env s t events) {last : Offset}
    (storing : t.worker.batcher = .storing last) :
    ∃ b, s.worker.batcher = .releasing b ∧ last = lastOffset b ∧
      t.worker.queue = s.worker.queue := by
  cases h with
  | released releasing =>
    cases storing
    exact ⟨_, releasing, rfl, rfl⟩
  | _ => cases storing

theorem Intake.Move.committed_eq {r : Record} {i j : Intake}
    (h : Intake.Move env r s i t j events) : t.committed = s.committed := by
  cases h with
  | paused | pauseCrashed | resumed | resumeCrashed =>
    exact Station.committed_performed env _ _ s (by simp) (by simp)
  | _ => rfl

/-- Closing a worker changes the cached position only by forgetting it. -/
theorem Disposal.Move.committed_eq {d e : Disposal} (h : Disposal.Move env s d t e events) :
    t.committed = s.committed ∨ (∃ drained, d = .revoking drained) ∧ t.committed = none := by
  cases h with
  | committed | resumed =>
    exact .inl (Station.committed_performed env _ _ s (by simp) (by simp))
  | revoked drained =>
    refine .inr ⟨⟨drained, rfl⟩, ?_⟩
    rw [Station.committed, Station.performed_worker, Station.performed_state_self]
    rfl
  | crashed operating broken =>
    exact .inl (congrArg PartitionState.committed
      (Station.performed_state_of_crashing? _ _ _ _ broken s.worker.partition))
  | _ => exact .inl rfl

end Committed

/-! ## Ordered workers -/

/-- What holds of the records of every worker. -/
structure Worker.Ordered (w : Worker) : Prop where
  /-- The offsets of the pending records increase. -/
  increasing : w.pending.Pairwise fun a b => a.offset < b.offset
  /-- No pending record is beyond the one admitted last. -/
  le_latest : ∀ r ∈ w.pending, ∃ l, w.latestQueued = some l ∧ r.offset ≤ l
  filled : w.batcher.Filled

namespace Worker.Ordered

theorem fresh (p : TopicPartition) (settings : BatchSettings) :
    (Worker.fresh p settings).Ordered where
  increasing := by simp [pending, Worker.fresh, Batcher.batch]
  le_latest := by simp [pending, Worker.fresh, Batcher.batch]
  filled := trivial

/-- Taking records away keeps the order. -/
theorem of_sublist {v w : Worker} (h : v.Ordered) (sub : w.pending.Sublist v.pending)
    (latest : w.latestQueued = v.latestQueued) (filled : w.batcher.Filled) : w.Ordered where
  increasing := h.increasing.sublist sub
  le_latest r hr := by
    rw [latest]
    exact h.le_latest r (sub.subset hr)
  filled := filled

variable {env : Surroundings} {s t : Station} {events : List Event}

theorem batcher_move (h : s.worker.Ordered) (move : Batcher.Move env s t events) :
    t.worker.Ordered := by
  refine h.of_sublist move.pending_sublist ?_ (move.filled h.filled)
  rw [move.worker_eq]

theorem handler_ends {ending : Batcher.Ending} (h : s.worker.Ordered)
    (ends : Batcher.Ends env s ending t events) : t.worker.Ordered := by
  refine h.of_sublist ends.pending_sublist ?_ (ends.filled h.filled)
  rw [ends.worker_eq]

/-- Whoever puts a record behind the one admitted last keeps the order. -/
theorem admission {w : Worker} (h : w.Ordered) {r : Record}
    (behind : ∀ l, w.latestQueued = some l → l < r.offset) :
    Worker.Ordered { w with queue := w.queue ++ [r], latestQueued := some r.offset } where
  increasing := by
    have lt : ∀ a ∈ w.pending, a.offset < r.offset := by
      intro a ha
      obtain ⟨l, hl, hal⟩ := h.le_latest a ha
      exact Int.lt_of_le_of_lt hal (behind l hl)
    simpa [pending, ← List.append_assoc, List.pairwise_append, or_imp, forall_and] using
      ⟨by simpa [pending, List.pairwise_append] using h.increasing,
        by simpa [pending, or_imp, forall_and] using lt⟩
  le_latest a ha := by
    simp only [pending, ← List.append_assoc, List.mem_append, List.mem_singleton] at ha
    rcases ha with ha | rfl
    · obtain ⟨l, hl, hal⟩ := h.le_latest a (List.mem_append.mpr ha)
      exact ⟨_, rfl, Int.le_of_lt (Int.lt_of_le_of_lt hal (behind l hl))⟩
    · exact ⟨_, rfl, Int.le_refl _⟩
  filled := h.filled

theorem intake_move {r : Record} {i j : Intake} (h : s.worker.Ordered)
    (move : Intake.Move env r s i t j events)
    (behind : i = .admitting → ∀ l, s.worker.latestQueued = some l → l < r.offset) :
    t.worker.Ordered := by
  rcases move.worker_eq with ⟨hi, -, -, -, heq⟩ | ⟨-, heq⟩ <;> rw [heq]
  · exact h.admission (behind hi)
  · exact ⟨h.increasing, h.le_latest, h.filled⟩

theorem disposal_move {d e : Disposal} (h : s.worker.Ordered)
    (move : Disposal.Move env s d t e events) : t.worker.Ordered := by
  rw [move.worker_eq.1]
  exact ⟨h.increasing, h.le_latest, h.filled⟩

end Worker.Ordered

end TopicConsumer
