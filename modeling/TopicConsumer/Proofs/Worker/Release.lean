import TopicConsumer.Proofs.Worker.Conduct

/-!
# What becomes of a pause when a batch is done

A worker that is not cancelled is done with a batch for one of two reasons. Either the handler has
returned from it without an error: then its permits are given back, its last offset is stored, and
the partition is resumed. Or the batch has become stale, since somebody else has stored a position
beyond it: then its permits are given back, and that is all.

`Workshop.run_leaves` shows this for every run of a workshop. A pause therefore never outlives a
batch that was handled, but it outlives a batch that was left out. If nothing else is pending then,
the worker itself never ends the pause and never takes a record again, as
`Workshop.exists_left_paused` shows of a run in which the queue was full before somebody else stored
an offset.
-/

namespace TopicConsumer

/-- The batcher works on a batch that is complete. -/
def Batcher.isProcessing : Batcher → Bool
  | .idle | .collecting _ _ | .ended _ => false
  | _ => true

/-- The call is over, or it has not looked yet whether the partition is paused. -/
def Intake.isUnaware : Intake → Bool
  | .checkingStatus | .checkingPause | .returned _ | .crashed _ => true
  | _ => false

theorem Intake.isUnaware_of_isOver {i : Intake} (ended : i.isOver = true) : i.isUnaware = true := by
  cases i <;> first | rfl | cases ended

/-- A resume that does not crash ends the pause, whatever else the broker answers. -/
theorem PartitionState.resume_state_pausedAt (p : TopicPartition) (s : PartitionState)
    {answers : Answers} (fine : (s.resume p answers).crash = none) :
    (s.resume p answers).state.pausedAt = none := by
  obtain ⟨assigned, paused, committed⟩ := s
  cases paused with
  | none => rfl
  | some y =>
    cases ha : answers (.seek ⟨p, y⟩) <;> cases hb : answers (.resume p) <;> simp_all [resume]

theorem Station.pausedAt_performed_resume_of_fine {env : Surroundings} {s : Station}
    (fine : s.crashing? env s.worker.partition .resume = none) :
    (s.performed env s.worker.partition .resume).pausedAt = none := by
  rw [pausedAt, performed_worker, performed_state_self]
  exact PartitionState.resume_state_pausedAt _ _ fine

namespace Workshop

variable {rule : Workshop → Act → Bool} {p : TopicPartition} {history : List Entry}
  {env : Surroundings} {w₀ w t : Workshop} {act : Act} {moments : List Moment} {e : Entry}

theorem Run.partition_eq {m : Manager} {settings : BatchSettings}
    (run : Run rule (spawned env m p settings) history w) : w.station.worker.partition = p := by
  refine run.invariant (fun _ w => w.station.worker.partition = p) ?_ fun own _ move => ?_
  · rw [spawned_worker]
    rfl
  · exact move.partition_eq.trans own

/-! ## Batches that were handled -/

/-- The handler has returned from the batch without an error, then a move of the batcher has given
back its permits, and `late` is what has happened since. -/
def GivenBack (history : List Entry) (b : List Record) (late : List Entry) : Prop :=
  ∃ early release, history = early ++ release :: late ∧ .handled b ∈ momentsIn early ∧
    release.act = .batch ∧ release.before.station.worker.batcher = .releasing b

theorem GivenBack.concat {b : List Record} {late : List Entry} (given : GivenBack history b late)
    (e : Entry) : GivenBack (history ++ [e]) b (late ++ [e]) := by
  obtain ⟨early, release, rfl, rest⟩ := given
  exact ⟨early, release, by simp, rest⟩

/-- What has happened to the batch that the batcher is about to finish. -/
def Finishes (p : TopicPartition) (history : List Entry) : Batcher → Prop
  | .releasing b => .handled b ∈ momentsIn history
  | .storing last => ∃ b late, GivenBack history b late ∧ last = Batcher.lastOffset b
  | .resuming => ∃ b late, GivenBack history b late ∧
      .event (.operation p (.store (Batcher.lastOffset b))) ∈ momentsIn late
  | _ => True

namespace Finishes

/-- A move that leaves the batcher where it is takes nothing back. -/
theorem concat {batcher : Batcher} (finishes : Finishes p history batcher) (e : Entry) :
    Finishes p (history ++ [e]) batcher := by
  cases batcher with
  | releasing b =>
    rw [Finishes, momentsIn_concat]
    exact List.mem_append_left _ finishes
  | storing last =>
    obtain ⟨b, late, given, eq⟩ := finishes
    exact ⟨b, _, given.concat e, eq⟩
  | resuming =>
    obtain ⟨b, late, given, stored⟩ := finishes
    refine ⟨b, _, given.concat e, ?_⟩
    rw [momentsIn_concat]
    exact List.mem_append_left _ stored
  | _ => trivial

theorem batch {s : Station} {events : List Event}
    (finishes : Finishes p history w.station.worker.batcher)
    (own : w.station.worker.partition = p) (move : Batcher.Move env w.station s events) :
    Finishes p (history ++ [⟨w, .batch,
      events.map .event ++ Moment.ofBatcher w.station.worker.batcher s.worker.batcher⟩])
      s.worker.batcher := by
  cases move with
  | @released b releasing =>
    rw [releasing] at finishes
    exact ⟨b, [], ⟨history, _, rfl, finishes, rfl, releasing⟩, rfl⟩
  | @stored last storing =>
    rw [storing] at finishes
    obtain ⟨b, late, given, rfl⟩ := finishes
    refine ⟨b, _, given.concat _, ?_⟩
    rw [momentsIn_concat, ← own]
    exact List.mem_append_right _ (List.mem_append_left _ List.mem_cons_self)
  | _ => trivial

theorem move (finishes : Finishes p history w.station.worker.batcher)
    (own : w.station.worker.partition = p) (move : Move env w act t moments) :
    Finishes p (history ++ [⟨w, act, moments⟩]) t.station.worker.batcher := by
  cases move with
  | intake call move =>
    rcases move.worker_eq with ⟨-, -, -, -, worker⟩ | ⟨-, worker⟩ <;> rw [worker] <;>
      exact finishes.concat _
  | batch move => exact finishes.batch own move
  | handler ends =>
    cases ends with
    | @handled b n handling =>
      rw [Station.at_worker, Finishes, momentsIn_concat, handling]
      exact List.mem_append_right _ List.mem_cons_self
    | failed | crashed => trivial
  | disposal call move =>
    rw [move.worker_eq.1]
    exact finishes.concat _
  | enqueue | dispose | cancel | elsewhere => exact finishes.concat _

end Finishes

theorem Run.finishes {m : Manager} {settings : BatchSettings}
    (run : Run rule (spawned env m p settings) history w) :
    Finishes p history w.station.worker.batcher := by
  induction run with
  | start =>
    rw [spawned_worker]
    trivial
  | step run may step ih => exact ih.move run.partition_eq (move_of_step step)

/-! ## Paused workers at rest -/

/-- Nobody closes the worker, and nobody else uses the state of the partition. -/
def unaided (p : TopicPartition) (_ : Workshop) : Act → Bool
  | .dispose | .disposal _ => false
  | .elsewhere q _ => q ≠ p
  | _ => true

/-- The worker is paused at an offset and has nothing to do. -/
structure Stuck (p : TopicPartition) (offset : Offset) (w : Workshop) : Prop where
  own : w.station.worker.partition = p
  paused : w.station.pausedAt = some offset
  batcher : w.station.worker.batcher = .idle ∨ w.station.worker.batcher.hasEnded = true
  queue : w.station.worker.queue = []
  calls : ∀ call ∈ w.calls, call.2.isUnaware = true

namespace Stuck

variable {offset : Offset}

/-- A call finds the partition paused and leaves its record out. -/
theorem intake {r : Record} {i j : Intake} {s s' : Station} {events : List Event}
    (move : Intake.Move env r s i s' j events) (paused : s.pausedAt = some offset)
    (unaware : i.isUnaware = true) :
    s' = s ∧ j.isUnaware = true ∧
      admittedIn (events.map .event ++ Moment.ofIntake r s i j) = [] := by
  cases move with
  | refused | welcomed | leftOutPaused => exact ⟨rfl, rfl, rfl⟩
  | unpaused running =>
    rw [Station.isPaused_eq, paused] at running
    cases running
  | _ => cases unaware

/-- The batch task finds nothing to do, though it may end. -/
theorem batch {s : Station} {events : List Event} (stuck : Stuck p offset w)
    (move : Batcher.Move env w.station s events) :
    Stuck p offset { w with station := s } ∧
      admittedIn (events.map .event ++
        Moment.ofBatcher w.station.worker.batcher s.worker.batcher) = [] := by
  obtain ⟨own, paused, batcher, queue, calls⟩ := stuck
  have idle : w.station.worker.batcher = .idle := by
    rcases batcher with idle | ended
    · exact idle
    · cases move.alive.symm.trans ended
  cases move with
  | finish _ _ line =>
    refine ⟨⟨own, paused, .inr rfl, rfl, calls⟩, ?_⟩
    rw [idle]
    rfl
  | opened _ _ there | overflowed _ _ there => cases queue.symm.trans there
  | givenUp trying =>
    rcases trying with phase | phase | phase | ⟨wake, phase⟩ <;> cases idle.symm.trans phase
  | crashed operating =>
    rcases operating with ⟨last, phase, -⟩ | ⟨phase, -⟩ <;> cases idle.symm.trans phase
  | taken phase | formed phase | checked phase | compared phase | skipped phase | handed phase
  | woken phase | released phase | stored phase | resumed phase => cases idle.symm.trans phase

theorem move (stuck : Stuck p offset w) (alone : unaided p w act = true)
    (move : Move env w act t moments) : Stuck p offset t ∧ admittedIn moments = [] := by
  cases move with
  | enqueue r =>
    refine ⟨{ stuck with calls := fun call mem => ?_ }, rfl⟩
    rcases List.mem_append.mp mem with mem | mem
    · exact stuck.calls call mem
    · rw [List.mem_singleton.mp mem]
      rfl
  | @intake n r i j s events call move =>
    have here := stuck.calls _ (List.mem_of_getElem? call)
    obtain ⟨rfl, unaware, none⟩ := intake move stuck.paused here
    refine ⟨{ stuck with calls := fun call mem => ?_ }, none⟩
    rcases List.mem_or_eq_of_mem_set mem with mem | rfl
    · exact stuck.calls call mem
    · exact unaware
  | batch move => exact stuck.batch move
  | handler ends =>
    cases ends with
    | handled handling | failed handling | crashed handling =>
      rcases stuck.batcher with phase | phase <;> rw [handling] at phase <;> cases phase
  | dispose | disposal => cases alone
  | cancel => exact ⟨{ stuck with }, rfl⟩
  | elsewhere q op =>
    have other : w.station.worker.partition ≠ q := by
      rw [stuck.own]
      exact (of_decide_eq_true alone).symm
    refine ⟨{ stuck with paused := ?_ }, admittedIn_map_event _⟩
    exact (congrArg PartitionState.pausedAt
      (Station.performed_state_of_ne env q op _ other)).trans stuck.paused

/-- A worker that is stuck remains so for as long as nobody comes to its aid. -/
theorem run {added : List Entry} (stuck : Stuck p offset w) (run : Run (unaided p) w added t) :
    Stuck p offset t ∧ admittedIn (momentsIn added) = [] := by
  refine run.invariant (fun added t => Stuck p offset t ∧ admittedIn (momentsIn added) = [])
    ⟨stuck, rfl⟩ ?_
  rintro added w env act t moments ⟨stuck, none⟩ alone move
  obtain ⟨stuck, no⟩ := stuck.move alone move
  exact ⟨stuck, by rw [momentsIn_concat, admittedIn_append, none, no, List.append_nil]⟩

end Stuck

/-! ## How a batch is left -/

/-- With this move the batcher is done with a complete batch and turns to the next one. -/
def Entry.Leaves (e : Entry) (t : Workshop) : Prop :=
  e.before.station.worker.batcher.isProcessing = true ∧ t.station.worker.batcher = .idle

instance (e : Entry) (t : Workshop) : Decidable (e.Leaves t) := inferInstanceAs (Decidable (_ ∧ _))

/-- How the batcher of a worker that is not cancelled has come to be done with a batch. -/
inductive Left (p : TopicPartition) (history : List Entry) (e : Entry) (t : Workshop) : Prop
  /-- The batch was handled. Since then its permits were given back, then its last offset was stored,
  and this move has resumed the partition. -/
  | handled {b : List Record} {late : List Entry} (given : GivenBack history b late)
      (stored : .event (.operation p (.store (Batcher.lastOffset b))) ∈ momentsIn late)
      (resumed : .event (.operation p .resume) ∈ e.moments)
      (unpaused : t.station.pausedAt = none)
  /-- The batch was left out since it lies before the cached position. This move has given back its
  permits and has not touched the state of any partition. A pause goes on. It goes on for good, and
  no record is admitted any more, if there is nothing else to do and nobody comes to the worker's
  aid. -/
  | skipped {b : List Record} {failures : Nat} {c : Offset}
      (comparing : e.before.station.worker.batcher = .comparing b failures)
      (cached : e.before.station.committed = some c) (stale : Batcher.lastOffset b < c)
      (permits : t.station.worker.permits = e.before.station.worker.permits + b.length)
      (untouched : t.station.manager = e.before.station.manager)
      (silent : ∀ q op, .event (.operation q op) ∉ e.moments)
      (stuck : ∀ offset, t.station.pausedAt = some offset → t.station.worker.queue = [] →
        (∀ call ∈ t.calls, call.2.isOver = true) → ∀ added u, Run (unaided p) t added u →
          u.station.pausedAt = some offset ∧ admittedIn (momentsIn added) = [])

/-- In every run, whenever the batcher of a worker that is not cancelled is done with a batch, this
was handled, and a resume was made after its permits had been given back, or it was left out, and
none was made. -/
theorem run_leaves {m : Manager} {settings : BatchSettings}
    (run : Run rule (spawned env m p settings) (history ++ [e]) t) (leaves : e.Leaves t)
    (live : t.station.worker.cancelled = false) : Left p history e t := by
  obtain ⟨before, env, step⟩ := run.last
  have own := before.partition_eq
  have finishes := before.finishes
  obtain ⟨w, act, moments⟩ := e
  obtain ⟨processing, idle⟩ := leaves
  replace step : w.step env act = some (t, moments) := step
  -- Whoever else moves leaves the batcher where it is.
  have turned : t.station.worker.batcher ≠ w.station.worker.batcher := by
    intro same
    rw [← same, idle] at processing
    cases processing
  cases move_of_step step with
  | intake call move =>
    rcases move.worker_eq with ⟨-, -, -, -, worker⟩ | ⟨-, worker⟩ <;>
      exact absurd (by rw [worker]) turned
  | disposal call move => exact absurd (by rw [move.worker_eq.1]) turned
  | enqueue | dispose | cancel | elsewhere => exact absurd rfl turned
  | handler ends => cases ends <;> cases idle
  | batch move =>
    cases move with
    | resumed resuming fine line =>
      rw [resuming] at finishes
      obtain ⟨b, late, given, stored⟩ := finishes
      refine .handled given stored ?_ (Station.pausedAt_performed_resume_of_fine fine)
      rw [← own]
      exact List.mem_append_left _ (List.mem_map_of_mem (List.mem_append_left _ List.mem_cons_self))
    | skipped comparing cached stale line =>
      refine .skipped comparing cached stale ?_ rfl ?_ ?_
      · simp [Worker.dropBatch, comparing, Batcher.batch]
      · simp [Moment.ofBatcher, comparing, Worker.dropBatch]
      · intro offset paused queue calls added u run
        have stuck : Stuck p offset
            { w with station := { w.station with worker := w.station.worker.dropBatch } } :=
          ⟨own, paused, .inl rfl, queue,
            fun call mem => Intake.isUnaware_of_isOver (calls call mem)⟩
        obtain ⟨still, none⟩ := stuck.run run
        exact ⟨still.paused, none⟩
    | givenUp trying cancelled => cases live.symm.trans cancelled
    | finish phase | opened phase | overflowed phase | taken phase | formed phase =>
      rw [phase] at processing
      cases processing
    | checked | compared | handed | woken | released | stored | crashed => cases idle

/-! ## Two runs -/

/-- With capacity for one record, the first one is handed over and the second one finds the queue
full, so that the partition is paused. -/
def overfull (p : TopicPartition) : List (Surroundings × Act) :=
  let entering : List Act := .enqueue (.bare p 1) :: List.replicate 6 (.intake 0)
  let working : List Act := List.replicate 5 .batch
  let refused : List Act := .enqueue (.bare p 2) :: List.replicate 5 (.intake 1)
  (entering ++ working ++ refused).map (.calm 0, ·) ++
    List.replicate 2 (.calm 10, .intake 1) ++ List.replicate 4 (.calm 20, .intake 1)

/-- The batch is handled, and the partition is resumed. -/
def relieved (p : TopicPartition) : List (Surroundings × Act) :=
  overfull p ++ (.handler .handled :: List.replicate 3 .batch).map (.calm 100, ·)

/-- The batch fails, somebody else stores an offset beyond it, and it is left out. -/
def overtakenBatch (p : TopicPartition) : List (Surroundings × Act) :=
  overfull p ++ [(.calm 100, .handler (.failed (.failed ""))), (.calm 100, .elsewhere p (.store 4))] ++
    List.replicate 3 (.calm 1000, .batch)

/-- The run of a worker that has capacity for one record. -/
def narrow (schedule : List (Surroundings × Act)) : List Entry × Workshop :=
  (spawned (.calm 0) .empty ⟨"orders", 0⟩ { batchSize := 1, queueCapacity := 1 }).play
    (fun _ _ => true) schedule

theorem relieved_leaves :
    let p : TopicPartition := ⟨"orders", 0⟩
    let run := narrow (relieved p)
    ∃ history e, run.1 = history ++ [e] ∧ e.Leaves run.2 ∧
      run.2.station.worker.cancelled = false ∧ e.before.station.pausedAt = some 2 ∧
      Left p history e run.2 := by
  intro p run
  have there : run.1.getLast?.isSome = true := by decide +kernel
  have leaves : ∀ e ∈ run.1.getLast?, e.Leaves run.2 ∧ e.before.station.pausedAt = some 2 := by
    decide +kernel
  have live : run.2.station.worker.cancelled = false := by decide +kernel
  obtain ⟨e, last⟩ := Option.isSome_iff_exists.mp there
  obtain ⟨history, whole⟩ := List.getLast?_eq_some_iff.mp last
  refine ⟨history, e, whole, (leaves e last).1, live, (leaves e last).2, ?_⟩
  exact run_leaves (whole ▸ run_play _ _ (relieved p)) (leaves e last).1 live

/-- The batcher may be done with a batch after the queue was full, no resume is made, and the worker
stays paused for good though all of its capacity is free. -/
theorem exists_left_paused :
    let p : TopicPartition := ⟨"orders", 0⟩
    ∃ history e t, Run (fun _ _ => true) (spawned (.calm 0) .empty p
        { batchSize := 1, queueCapacity := 1 }) (history ++ [e]) t ∧
      e.Leaves t ∧ t.station.worker.cancelled = false ∧
      .event (.operation p (.pause 2)) ∈ momentsIn history ∧
      .event (.operation p .resume) ∉ momentsIn (history ++ [e]) ∧
      t.station.worker.permits = 1 ∧ ∀ added u, Run (unaided p) t added u →
        u.station.pausedAt = some 2 ∧ admittedIn (momentsIn added) = [] := by
  intro p
  let run := narrow (overtakenBatch p)
  have there : run.1.getLast?.isSome = true := by decide +kernel
  have leaves : ∀ e ∈ run.1.getLast?, e.Leaves run.2 := by decide +kernel
  have paused : .event (.operation p (.pause 2)) ∈ momentsIn run.1.dropLast := by decide +kernel
  have unresumed : .event (.operation p .resume) ∉ momentsIn run.1 := by decide +kernel
  have stuck : Stuck p 2 run.2 := by
    constructor <;> decide +kernel
  obtain ⟨e, last⟩ := Option.isSome_iff_exists.mp there
  obtain ⟨history, whole⟩ := List.getLast?_eq_some_iff.mp last
  rw [whole, List.dropLast_concat] at paused
  refine ⟨history, e, run.2, whole ▸ run_play _ _ (overtakenBatch p), leaves e last,
    by decide +kernel, paused, whole ▸ unresumed, by decide +kernel, fun added u alone => ?_⟩
  obtain ⟨still, none⟩ := stuck.run alone
  exact ⟨still.paused, none⟩

end Workshop

end TopicConsumer
