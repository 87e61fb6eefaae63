import TopicConsumer.Proofs.Worker.Clock
import TopicConsumer.Proofs.Worker.Handover

/-!
# Room for a batch

The batcher takes the room for a whole batch when it opens one, however many records there are. A
batch size is accepted whether there can be so much room or not: `Workshop.run_opening` tells what
becomes of a worker in either case.
-/

namespace TopicConsumer

/-- There can be room for a batch of the greatest size. -/
def BatchSettings.Roomy (settings : BatchSettings) : Prop :=
  settings.batchSize * Worker.recordBytes ≤ Worker.greatestBatchBytes

instance (settings : BatchSettings) : Decidable settings.Roomy :=
  inferInstanceAs (Decidable (_ ≤ _))

namespace Batcher

variable {env : Surroundings} {s t : Station} {r : Record} {rest : List Record}
  {events : List Event}

theorem openBatch_batcher : (openBatch env s r rest).worker.batcher =
    if s.worker.settings.Roomy then .collecting [r] (env.now + s.worker.settings.batchTimeout)
    else .ended (some Worker.tooManyBytes) := by
  by_cases roomy : s.worker.settings.Roomy
  · have small := Nat.not_lt.mpr (show _ ≤ _ from roomy)
    simp only [openBatch, if_neg small, if_pos roomy]
  · have large := Nat.not_le.mp roomy
    simp only [openBatch, if_pos large, if_neg roomy]
    rfl

/-- An idle batcher opens a batch with the first record that it finds. -/
theorem step_of_queue (idle : s.worker.batcher = .idle) (live : s.worker.cancelled = false)
    (queue : s.worker.queue = r :: rest) :
    Batcher.step env s = some (openBatch env s r rest, []) := by
  simp [step, idle, live, queue]

/-- Without room, whatever an idle batcher does ends its task. -/
theorem hasEnded_of_step (idle : s.worker.batcher = .idle) (tight : ¬ s.worker.settings.Roomy)
    (step : Batcher.step env s = some (t, events)) : t.worker.batcher.hasEnded = true := by
  cases move_of_step step with
  | finish | overflowed => rfl
  | opened _ live queue =>
    rw [step_of_queue idle live queue] at step
    obtain ⟨same, -⟩ := Prod.mk.inj (Option.some.inj step)
    rw [← same, openBatch_batcher, if_neg tight]
    rfl
  | _ => simp_all

end Batcher

namespace Workshop

variable {settings : BatchSettings} {history : List Entry} {w t : Workshop} {env : Surroundings}
  {act : Act} {moments : List Moment}

/-- Only a batch that is about to be handed over is. -/
theorem Move.starting_of_handed (move : Move env w act t moments) {b : List Record}
    (handed : .event (.handed b) ∈ moments) : ∃ n, w.station.worker.batcher = .starting b n := by
  cases move with
  | enqueue | dispose | cancel => simp at handed
  | intake call move =>
    rcases List.mem_append.mp handed with handed | handed
    · exact absurd (by simpa using handed) (move.handed_notMem b)
    · exact absurd handed Moment.event_notMem_ofIntake
  | batch move =>
    rcases List.mem_append.mp handed with handed | handed
    · rcases move.handed_notMem with ⟨_, n, starting, -, rfl⟩ | silent
      · obtain rfl : b = _ := by simpa using handed
        exact ⟨n, starting⟩
      · exact absurd (by simpa using handed) (silent b)
    · exact absurd handed Moment.event_notMem_ofBatcher
  | handler ends =>
    rcases List.mem_append.mp handed with handed | handed
    · exact absurd handed Moment.event_notMem_ofEnding
    · exact absurd (by simpa using handed) (ends.handed_notMem b)
  | disposal call move => exact absurd (by simpa using handed) (move.handed_notMem b)
  | elsewhere p op =>
    exact absurd (by simpa using handed) (Station.handed_notMem_performing env p op w.station b)

/-- The batcher has never opened a batch. -/
structure Fallow (history : List Entry) (w : Workshop) : Prop where
  settled : w.station.worker.batcher = .idle ∨ w.station.worker.batcher.hasEnded = true
  silent : ∀ b, .event (.handed b) ∉ momentsIn history

theorem Fallow.step (fallow : Fallow history w) (tight : ¬ w.station.worker.settings.Roomy)
    (made : w.step env act = some (t, moments)) : Fallow (history ++ [⟨w, act, moments⟩]) t := by
  have move := move_of_step made
  constructor
  case settled =>
    rcases act.batcher_cases with rfl | ⟨ending, rfl⟩ | aside
    · obtain ⟨u, events, step, rfl, -⟩ := batcher_step_of_step made
      have alive := (Batcher.move_of_step step).alive
      rcases fallow.settled with idle | ended
      · exact .inr (Batcher.hasEnded_of_step idle tight step)
      · cases alive.symm.trans ended
    · cases move with
      | handler ends =>
        cases ends with
        | handled handling | failed handling | crashed handling =>
          rcases fallow.settled with idle | ended
          · cases idle.symm.trans handling
          · rw [handling] at ended
            cases ended
    · rw [move.batcher_eq aside]
      exact fallow.settled
  case silent =>
    intro b mem
    rw [momentsIn_concat, List.mem_append] at mem
    rcases mem with mem | mem
    · exact fallow.silent b mem
    · obtain ⟨n, starting⟩ := move.starting_of_handed mem
      simpa [starting, Batcher.hasEnded] using fallow.settled

theorem Run.settings_eq {rule : Workshop → Act → Bool} {w₀ : Workshop}
    (run : Run rule w₀ history w) : w.station.worker.settings = w₀.station.worker.settings := by
  induction run with
  | start => rfl
  | step run may made ih => exact (move_of_step made).settings_eq.trans ih

/-- What becomes of the batches of a worker, whether there is room for them or not. -/
structure Opening (settings : BatchSettings) (history : List Entry) (w : Workshop) : Prop where
  /-- With the first record that the idle batcher finds it opens a batch, or it crashes. -/
  opens : ∀ r rest, w.station.worker.batcher = .idle → w.station.worker.cancelled = false →
    w.station.worker.queue = r :: rest → ∀ env, ∃ t moments,
      w.step env .batch = some (t, moments) ∧ t.station.worker.batcher =
        if settings.Roomy then .collecting [r] (env.now + settings.batchTimeout)
        else .ended (some Worker.tooManyBytes)
  /-- Without room no batch is ever handed over. -/
  fallow : ¬ settings.Roomy → Fallow history w

theorem run_opening {rule : Workshop → Act → Bool} {m : Manager} {p : TopicPartition}
    (run : Run rule (spawned env m p settings) history w) : Opening settings history w := by
  have kept : w.station.worker.settings = settings := by
    rw [run.settings_eq, spawned_worker]
    rfl
  constructor
  case opens =>
    intro r rest idle live queue env
    refine ⟨_, _, by rw [Workshop.step, Batcher.step_of_queue idle live queue]; rfl, ?_⟩
    rw [← kept]
    exact Batcher.openBatch_batcher
  case fallow =>
    intro tight
    clear kept
    induction run with
    | start => exact ⟨.inl (by rw [spawned_worker]; rfl), by simp⟩
    | step run may made ih =>
      refine ih.step ?_ made
      rwa [run.settings_eq, spawned_worker]

end Workshop

end TopicConsumer
