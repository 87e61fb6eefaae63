import TopicConsumer.Proofs.Worker.Handover

/-!
# The order in which records are handled

`Worksite.run_orderly` is about every run of a worksite: calls that enqueue records are made one
after the other with any records, the handler may end in any way or never, the worker may be
cancelled or closed at any time, and the broker may answer as it likes. The batches are the admitted
records in the order of their admission, up to some point; no record is lost or doubled between two
of them, and none is handed over before its turn.
-/

namespace TopicConsumer.Worksite

/-- The records and batches of a history are in order, and so are those that come next. -/
structure Orderly (settings : BatchSettings) (history : List Moment) (w : Worksite) : Prop where
  /-- The batches are the admitted records in the order of their admission, up to some point. -/
  batches : (formedIn history).flatten <+: admittedIn history
  increasing : ((formedIn history).flatten.map Record.offset).Pairwise (· < ·)
  sizes : ∀ b ∈ formedIn history, 1 ≤ b.length ∧ b.length ≤ settings.batchSize
  /-- A record is admitted behind the one that was admitted last, and its call has found that it
  does not lie before the committed position. -/
  admissions : ∀ before r latest after, history = before ++ .admitted r latest :: after →
    (∀ l, latest = some l → l < r.offset) ∧ Compared before r
  /-- Between two batches that are handed over one after the other, the first one has failed and is
  handed over again, or it was settled and the other one was formed. -/
  handings : ∀ before b since c after,
    history = before ++ .event (.handed b) :: (since ++ .event (.handed c) :: after) →
      (∀ d, .event (.handed d) ∉ since) → Retries b since c ∨ Succeeds b since c
  /-- The offset of the record admitted last never decreases. -/
  latest : ∀ env act t moments, w.step env act = some (t, moments) →
    ∀ l, w.station.worker.latestQueued = some l →
      ∃ m, t.station.worker.latestQueued = some m ∧ l ≤ m

variable {settings : BatchSettings} {history : List Moment} {w t : Worksite}

/-- Only an admission changes the offset that the worker remembers, and it makes it greater. -/
theorem Ordered.latest_le (ordered : w.Ordered) {env : Surroundings} {act : Act}
    {moments : List Moment} (move : Move env w act t moments) {l : Offset}
    (hl : w.station.worker.latestQueued = some l) :
    ∃ m, t.station.worker.latestQueued = some m ∧ l ≤ m := by
  cases move with
  | intake call move =>
    rcases move.worker_eq with ⟨rfl, -, -, -, worker⟩ | ⟨-, worker⟩ <;> rw [worker]
    · exact ⟨_, rfl, Int.le_of_lt (ordered.behind _ _ call trivial l hl)⟩
    · exact ⟨l, hl, Int.le_refl l⟩
  | batch move =>
    rw [move.worker_eq]
    exact ⟨l, hl, Int.le_refl l⟩
  | handler ends =>
    rw [ends.worker_eq]
    exact ⟨l, hl, Int.le_refl l⟩
  | disposal call move =>
    rw [move.worker_eq.1]
    exact ⟨l, hl, Int.le_refl l⟩
  | enqueue | dispose | cancel | elsewhere => exact ⟨l, hl, Int.le_refl l⟩

/-- In every run of a worker the records are admitted, batched and handed over in order. -/
theorem run_orderly {env : Surroundings} {m : Manager} {p : TopicPartition}
    (run : Run (fun _ _ => True) (spawned env m p settings.clamped) history w) :
    Orderly settings.clamped history w := by
  have least : 1 ≤ settings.clamped.batchSize := Nat.le_max_right _ 1
  have ordered : w.Ordered := Ordered.of_run run
  have lined : Lined settings.clamped history w := Lined.of_run run least
  have sequenced : Sequenced history w :=
    run.invariant _ (Sequenced.start _) fun sequenced _ move => sequenced.move move
  -- What follows the batches may be left behind by a batch task that has ended.
  obtain ⟨rest, split, -⟩ := lined.split
  have batches : (formedIn history).flatten <+: admittedIn history := ⟨rest, split.symm⟩
  exact
    { batches := batches
      increasing := List.pairwise_map.mpr (lined.increasing.sublist batches.sublist)
      sizes := lined.sizes
      admissions := lined.admissions
      handings := sequenced.pairs
      latest := fun env act t moments step l hl => ordered.latest_le (move_of_step step) hl }

/-- Two records are enqueued and batched one by one; the handler fails with the first one and then
handles it. -/
def secondAttempt (p : TopicPartition) : List (Surroundings × Act) :=
  let early := enqueueing (.bare p 4) ++ [.batch, .batch] ++ handling (.failed (.failed "")) ++
    enqueueing (.bare p 6)
  let late := [.batch] ++ handling .handled ++ List.replicate 5 .batch ++ handling .handled
  early.map (.calm 0, ·) ++ late.map (.calm 1000, ·)

theorem secondAttempt_orderly :
    let p : TopicPartition := ⟨"orders", 0⟩
    let site := spawned (.calm 0) .empty p (BatchSettings.clamped {})
    let history := (site.play (secondAttempt p)).2
    Orderly (BatchSettings.clamped {}) history (site.play (secondAttempt p)).1 ∧
      formedIn history = [[.bare p 4], [.bare p 6]] ∧ Moment.handled [.bare p 6] ∈ history :=
  ⟨run_orderly (run_play _ _ fun _ _ => trivial), by decide +kernel, by decide +kernel⟩

end TopicConsumer.Worksite
