import TopicConsumer.Proofs.State.Effects
import TopicConsumer.Worker.Batcher
import TopicConsumer.Worker.Disposal
import TopicConsumer.Worker.Intake

/-!
# The moves of a worker's machines

Each machine of a worker is a step function. The relations `Batcher.Move`, `Intake.Move` and
`Disposal.Move` list what such a step can be, one constructor for each move, together with the
reason why the machine made it. Every fact about what a step keeps is proved by going through the
moves of one machine.

An operation of the state manager leaves the worker as it is. `Station.performed` is the station
after it and `Station.performing` what it did.
-/

namespace TopicConsumer

namespace Station

variable (env : Surroundings) (p : TopicPartition) (op : StateOp) (s : Station)

/-- The station after an operation of the state manager. -/
def performed : Station := { s with manager := s.manager.perform p env.answers op }

/-- What an operation of the state manager does. -/
def performing : List Event :=
  let effect := s.manager.effect p env.answers op
  .operation p op :: effect.calls.map (fun (c, a) => .call c a) ++ effect.logs.map .log

/-- The text of the crash of an operation, if it crashes. -/
def crashing? : Option String := (s.manager.effect p env.answers op).crash

theorem operate_eq :
    s.operate env p op = (s.performed env p op, s.performing env p op, s.crashing? env p op) := rfl

@[simp] theorem performed_worker : (s.performed env p op).worker = s.worker := rfl

@[simp] theorem at_worker (b : Batcher) : (s.at_ b).worker = { s.worker with batcher := b } := rfl

@[simp] theorem at_manager (b : Batcher) : (s.at_ b).manager = s.manager := rfl

/-- The offset at which the worker's partition is paused. -/
def pausedAt : Option Offset := (s.manager.state s.worker.partition).pausedAt

theorem isPaused_eq : s.isPaused = s.pausedAt.isSome := rfl

@[simp] theorem at_committed (b : Batcher) : (s.at_ b).committed = s.committed := rfl

@[simp] theorem at_pausedAt (b : Batcher) : (s.at_ b).pausedAt = s.pausedAt := rfl

/-- An operation on another partition leaves the state of the worker's partition as it is. -/
theorem performed_state_of_ne (h : s.worker.partition ≠ p) :
    (s.performed env p op).manager.state s.worker.partition = s.manager.state s.worker.partition :=
  Manager.state_set_of_ne _ h _

theorem performed_state_self :
    (s.performed env p op).manager.state p = ((s.manager.state p).perform p env.answers op).state :=
  Manager.state_set_self ..

theorem pausedAt_performed_store (offset : Offset) :
    (s.performed env s.worker.partition (.store offset)).pausedAt = s.pausedAt := by
  rw [pausedAt, performed_worker, performed_state_self]
  exact PartitionState.store_state_pausedAt ..

theorem pausedAt_performed_commit :
    (s.performed env s.worker.partition .commit).pausedAt = s.pausedAt := by
  rw [pausedAt, performed_worker, performed_state_self]
  exact congrArg PartitionState.pausedAt (PartitionState.commit_state ..)

/-- Storing, committing and forgetting the state begin no pause. -/
theorem pausedAt_performed_still {op : StateOp}
    (still : (∃ offset, op = .store offset) ∨ op = .commit ∨ op = .revoke) :
    (s.performed env s.worker.partition op).pausedAt = s.pausedAt ∨
      (s.performed env s.worker.partition op).pausedAt = none := by
  rcases still with ⟨offset, rfl⟩ | rfl | rfl
  · exact .inl (pausedAt_performed_store env s offset)
  · exact .inl (pausedAt_performed_commit env s)
  · refine .inr ?_
    rw [pausedAt, performed_worker, performed_state_self]
    rfl

/-- Only what stores an offset or forgets the state changes the cached position. -/
theorem committed_performed (unstored : ∀ offset, op ≠ .store offset) (kept : op ≠ .revoke) :
    (s.performed env p op).committed = s.committed := by
  rw [committed, performed_worker]
  by_cases hp : s.worker.partition = p
  · subst hp
    rw [performed_state_self, PartitionState.perform_state_committed _ _ unstored kept]
    rfl
  · rw [performed_state_of_ne env p _ s hp]
    rfl

theorem committed_performed_store (offset : Offset)
    (fine : s.crashing? env s.worker.partition (.store offset) = none) :
    (s.performed env s.worker.partition (.store offset)).committed =
      some (s.committed.elim (offset + 1) (max (offset + 1))) := by
  rw [committed, performed_worker, performed_state_self]
  exact PartitionState.store_state_committed _ _ _ fine

/-- An operation that crashes leaves the state of every partition as it is. -/
theorem performed_state_of_crashing? {text : String} (broken : s.crashing? env p op = some text)
    (q : TopicPartition) : (s.performed env p op).manager.state q = s.manager.state q := by
  by_cases hq : q = p
  · subst hq
    exact (performed_state_self ..).trans (PartitionState.perform_state_of_crash _ _ broken)
  · exact Manager.state_set_of_ne _ hq _

theorem pausedAt_performed_pause (done : env.answers (.pause s.worker.partition) = .done)
    (offset : Offset) : (s.performed env s.worker.partition (.pause offset)).pausedAt =
      s.pausedAt.or (some offset) := by
  rw [pausedAt, performed_worker, performed_state_self]
  exact congrArg PartitionState.pausedAt (PartitionState.pause_state _ _ done _)

theorem pausedAt_performed_pause_of_failed {e : BrokerError}
    (failed : env.answers (.pause s.worker.partition) = .failed e) (offset : Offset) :
    (s.performed env s.worker.partition (.pause offset)).pausedAt = s.pausedAt := by
  rw [pausedAt, performed_worker, performed_state_self]
  exact congrArg PartitionState.pausedAt (PartitionState.pause_state_of_failed _ _ failed _)

theorem pausedAt_performed_resume (h : env.answers.Composed) :
    (s.performed env s.worker.partition .resume).pausedAt = none := by
  rw [pausedAt, performed_worker, performed_state_self]
  exact congrArg PartitionState.pausedAt (PartitionState.resume_state _ _ h)

/-- A pause that is noted at `y` is ended by seeking `y`. -/
theorem seek_mem_performing (h : env.answers.Composed) {y : Offset}
    (paused : (s.manager.state p).pausedAt = some y) :
    .call (.seek ⟨p, y⟩) (env.answers (.seek ⟨p, y⟩)) ∈ s.performing env p .resume := by
  simp [performing, Manager.effect, PartitionState.perform, PartitionState.resume_calls p _ h,
    paused]

/-- A pause asks the broker at once, unless one is noted. -/
theorem pause_infix_performing (h : env.answers.Composed) (offset : Offset)
    (unpaused : (s.manager.state p).pausedAt = none) :
    [.operation p (.pause offset), .call (.pause p) (env.answers (.pause p))] <:+:
      s.performing env p (.pause offset) := by
  refine List.IsPrefix.isInfix ?_
  simp [performing, Manager.effect, PartitionState.perform, PartitionState.pause_calls p _ h,
    unpaused]

/-- The operations of a worker crash only if the broker does. -/
theorem crashing?_of_composed (h : env.answers.Composed) (hop : ∀ reading, op ≠ .assign reading) :
    s.crashing? env p op = none :=
  PartitionState.perform_crash p _ h hop

/-- The call is there with which an operation of a worker crashes. -/
theorem exists_crashed_call {text : String} (broken : s.crashing? env p op = some text)
    (hop : ∀ reading, op ≠ .assign reading) :
    ∃ call, .call call (.crashed text) ∈ s.performing env p op := by
  obtain ⟨call, mem⟩ := PartitionState.crashed_mem_calls p _ hop broken
  refine ⟨call, List.mem_append_left _ (List.mem_cons_of_mem _ ?_)⟩
  exact List.mem_map.mpr ⟨_, mem, rfl⟩

/-! ### The start of a worker -/

section Spawn

variable (env : Surroundings) (m : Manager) (p : TopicPartition) (settings : BatchSettings)

theorem spawn_fst :
    (spawn env m p settings).1 =
      performed env p (.assign env.reading) ⟨m, .fresh p settings⟩ := by
  simp only [spawn, operate_eq]
  cases crashing? env p (.assign env.reading) ⟨m, .fresh p settings⟩ <;> rfl

theorem spawn_worker : (spawn env m p settings).1.worker = .fresh p settings := by
  rw [spawn_fst]
  rfl

/-- The partition of a worker that has started is assigned. -/
theorem spawn_assignedAt (fine : (spawn env m p settings).2.2 = none) :
    ((spawn env m p settings).1.manager.state p).assignedAt.isSome = true := by
  have crash : crashing? env p (.assign env.reading) ⟨m, .fresh p settings⟩ = none := by
    simp only [spawn, operate_eq] at fine
    split at fine
    · cases fine
    · assumption
  rw [spawn_fst, performed_state_self]
  cases reading : env.reading with
  | shown now => rfl
  | crashed text =>
    rw [reading] at crash
    cases crash

/-- A worker that starts changes neither the pause of a partition nor its position. -/
theorem spawn_state (q : TopicPartition) :
    ((spawn env m p settings).1.manager.state q).pausedAt = (m.state q).pausedAt ∧
      ((spawn env m p settings).1.manager.state q).committed = (m.state q).committed := by
  rw [spawn_fst]
  by_cases hq : q = p
  · subst hq
    rw [performed_state_self]
    cases env.reading <;> exact ⟨rfl, rfl⟩
  · have state : (performed env p (.assign env.reading) ⟨m, .fresh p settings⟩).manager.state q =
        m.state q := Manager.state_set_of_ne _ hq _
    rw [state]
    exact ⟨rfl, rfl⟩

/-- A worker that starts does not call the broker. -/
theorem call_notMem_spawn (call : BrokerCall) (answered : Answer) :
    .call call answered ∉ (spawn env m p settings).2.1 := by
  have calls : (m.effect p env.answers (.assign env.reading)).calls = [] := by
    cases hr : env.reading <;> rfl
  simp only [spawn, operate_eq]
  cases crashing? env p (.assign env.reading) ⟨m, .fresh p settings⟩ <;>
    simp [performing, calls]

end Spawn

end Station

/-! ## The batcher -/

/-- What a step of the batcher can be. -/
inductive Batcher.Move (env : Surroundings) (s : Station) : Station → List Event → Prop
  | finish (idle : s.worker.batcher = .idle)
      (finished : s.worker.cancelled = true ∨ s.worker.queue = [] ∧ s.worker.intakeOpen = false)
      (line : LogLine) :
      Move env s { s with worker := s.worker.endTask none } [.log line]
  | opened {r : Record} {rest : List Record} (idle : s.worker.batcher = .idle)
      (live : s.worker.cancelled = false) (queue : s.worker.queue = r :: rest)
      (deadline : Nat) :
      Move env s
        { s with worker := { s.worker with queue := rest, batcher := .collecting [r] deadline } } []
  | overflowed {r : Record} {rest : List Record} (idle : s.worker.batcher = .idle)
      (live : s.worker.cancelled = false) (queue : s.worker.queue = r :: rest)
      (deadline : Nat)
      (size : Worker.greatestBatchBytes < s.worker.settings.batchSize * Worker.recordBytes) :
      Move env s
        { s with
          worker := Worker.endTask
            { s.worker with queue := rest, batcher := .collecting [r] deadline }
            (some Worker.tooManyBytes) } []
  | taken {b : List Record} {deadline : Nat} {r : Record} {rest : List Record}
      (collecting : s.worker.batcher = .collecting b deadline)
      (small : b.length < s.worker.settings.batchSize) (live : s.worker.cancelled = false)
      (queue : s.worker.queue = r :: rest) :
      Move env s
        { s with worker := { s.worker with
            queue := rest, batcher := .collecting (b ++ [r]) deadline } } []
  | formed {b : List Record} {deadline : Nat}
      (collecting : s.worker.batcher = .collecting b deadline) :
      Move env s (s.at_ (.checking b 0)) []
  | checked {b : List Record} {n : Nat} (checking : s.worker.batcher = .checking b n)
      (live : s.worker.cancelled = false) :
      Move env s (s.at_ (.comparing b n)) []
  | compared {b : List Record} {n : Nat} (comparing : s.worker.batcher = .comparing b n)
      (current : ∀ c, s.committed = some c → c ≤ lastOffset b) :
      Move env s (s.at_ (.starting b n)) []
  | skipped {b : List Record} {n : Nat} {c : Offset} (comparing : s.worker.batcher = .comparing b n)
      (committed : s.committed = some c) (stale : lastOffset b < c) (line : LogLine) :
      Move env s { s with worker := s.worker.dropBatch } [.log line]
  | handed {b : List Record} {n : Nat} (starting : s.worker.batcher = .starting b n)
      (live : s.worker.cancelled = false) :
      Move env s (s.at_ (.handling b n)) [.handed b]
  | woken {b : List Record} {n wake : Nat} (waiting : s.worker.batcher = .backingOff b n wake)
      (live : s.worker.cancelled = false) :
      Move env s (s.at_ (.checking b n)) []
  | givenUp {b : List Record} {n : Nat}
      (trying : s.worker.batcher = .checking b n ∨ s.worker.batcher = .starting b n ∨
        s.worker.batcher = .handling b n ∨ ∃ wake, s.worker.batcher = .backingOff b n wake)
      (cancelled : s.worker.cancelled = true) {events : List Event}
      (quiet : ∀ e ∈ events, (∃ line, e = .log line) ∨ e = .abandoned b) :
      Move env s { s with worker := s.worker.dropBatch } events
  | released {b : List Record} (releasing : s.worker.batcher = .releasing b) :
      Move env s
        { s with worker := { s.worker with
            permits := s.worker.permits + b.length, batcher := .storing (lastOffset b) } } []
  | stored {last : Offset} (storing : s.worker.batcher = .storing last)
      (fine : s.crashing? env s.worker.partition (.store last) = none) :
      Move env s ((s.performed env s.worker.partition (.store last)).at_ .resuming)
        (s.performing env s.worker.partition (.store last))
  | resumed (resuming : s.worker.batcher = .resuming)
      (fine : s.crashing? env s.worker.partition .resume = none) (line : LogLine) :
      Move env s ((s.performed env s.worker.partition .resume).at_ .idle)
        (s.performing env s.worker.partition .resume ++ [.log line])
  | crashed {op : StateOp} {text : String}
      (operating : (∃ last, s.worker.batcher = .storing last ∧ op = .store last) ∨
        s.worker.batcher = .resuming ∧ op = .resume)
      (broken : s.crashing? env s.worker.partition op = some text) :
      Move env s (Batcher.crash (s.performed env s.worker.partition op) text)
        (s.performing env s.worker.partition op)

theorem Batcher.move_of_step {env : Surroundings} {s t : Station} {events : List Event}
    (h : Batcher.step env s = some (t, events)) : Batcher.Move env s t events := by
  unfold Batcher.step at h
  split at h
  case h_1 idle =>
    split at h
    · next cancelled =>
      cases h
      exact .finish idle (.inl cancelled) _
    · next live =>
      split at h
      · next r rest queue =>
        cases h
        simp only [openBatch]
        split
        · next size => exact .overflowed idle (by simpa using live) queue _ size
        · exact .opened idle (by simpa using live) queue _
      · next queue =>
        split at h
        · cases h
        · next closed =>
          cases h
          exact .finish idle (.inr ⟨queue, by simpa using closed⟩) _
  case h_2 b deadline collecting =>
    split at h
    · cases h
      exact .formed collecting
    · next more =>
      simp only [Bool.or_eq_true, decide_eq_true_eq, not_or, Nat.not_le] at more
      split at h
      · next r rest queue =>
        cases h
        exact .taken collecting more.1 (by simpa using more.2) queue
      · split at h
        · cases h
          exact .formed collecting
        · cases h
  case h_3 b n checking =>
    split at h
    · next cancelled =>
      cases h
      exact .givenUp (.inl checking) cancelled (by simp)
    · next live =>
      cases h
      exact .checked checking (by simpa using live)
  case h_4 b n comparing =>
    split at h
    · next c filtered =>
      cases h
      rw [Option.filter_eq_some_iff, decide_eq_true_eq] at filtered
      exact .skipped comparing filtered.1 filtered.2 _
    · next filtered =>
      cases h
      rw [Option.filter_eq_none_iff] at filtered
      exact .compared comparing fun c hc => by simpa using filtered c hc
  case h_5 b n starting =>
    split at h
    · next cancelled =>
      cases h
      exact .givenUp (.inr (.inl starting)) cancelled (by simp)
    · next live =>
      cases h
      exact .handed starting (by simpa using live)
  case h_6 b n handling =>
    split at h
    · next cancelled =>
      cases h
      exact .givenUp (.inr (.inr (.inl handling))) cancelled (by simp)
    · cases h
  case h_7 b n wake waiting =>
    split at h
    · next cancelled =>
      cases h
      exact .givenUp (.inr (.inr (.inr ⟨wake, waiting⟩))) cancelled (by simp)
    · next live =>
      split at h
      · cases h
        exact .woken waiting (by simpa using live)
      · cases h
  case h_8 b releasing =>
    cases h
    exact .released releasing
  case h_9 last storing =>
    rw [Station.operate_eq] at h
    simp only [] at h
    cases broken : s.crashing? env s.worker.partition (.store last) with
    | none =>
      rw [broken] at h
      cases h
      exact .stored storing broken
    | some text =>
      rw [broken] at h
      cases h
      exact .crashed (.inl ⟨last, storing, rfl⟩) broken
  case h_10 resuming =>
    rw [Station.operate_eq] at h
    simp only [] at h
    cases broken : s.crashing? env s.worker.partition .resume with
    | none =>
      rw [broken] at h
      cases h
      exact .resumed resuming broken _
    | some text =>
      rw [broken] at h
      cases h
      exact .crashed (.inr ⟨resuming, rfl⟩) broken
  case h_11 => cases h

/-- What a step can be that the end of a handler makes. -/
inductive Batcher.Ends (env : Surroundings) (s : Station) :
    Batcher.Ending → Station → List Event → Prop
  | handled {b : List Record} {n : Nat} (handling : s.worker.batcher = .handling b n)
      (live : s.worker.cancelled = false) :
      Ends env s .handled (s.at_ (.releasing b)) []
  | failed {b : List Record} {n : Nat} {fault : Fault} (handling : s.worker.batcher = .handling b n)
      (live : s.worker.cancelled = false) (pause wake : Nat) :
      Ends env s (.failed fault) (s.at_ (.backingOff b (Retry.countFailure n) wake))
        [.failed (Retry.countFailure n) pause fault]
  | crashed {b : List Record} {n : Nat} {text : String}
      (handling : s.worker.batcher = .handling b n) (live : s.worker.cancelled = false) :
      Ends env s (.crashed text) (Batcher.crash s text) []

theorem Batcher.ends_of_handlerEnds {env : Surroundings} {ending : Ending} {s t : Station}
    {events : List Event} (h : Batcher.handlerEnds env ending s = some (t, events)) :
    Batcher.Ends env s ending t events := by
  unfold handlerEnds at h
  split at h
  · next b n handling =>
    split at h
    · cases h
    · next live =>
      have live : s.worker.cancelled = false := by simpa using live
      split at h <;> cases h
      · exact .handled handling live
      · exact .failed handling live _ _
      · exact .crashed handling live
  · cases h

/-! ## Calls that enqueue a record -/

/-- What a step of a call that enqueues a record can be. -/
inductive Intake.Move (env : Surroundings) (r : Record) (s : Station) :
    Intake → Station → Intake → List Event → Prop
  | refused (inactive : s.worker.status ≠ .active) :
      Move env r s .checkingStatus s (.returned (.error (.disposed s.worker.partition))) []
  | welcomed (active : s.worker.status = .active) :
      Move env r s .checkingStatus s .checkingPause []
  | leftOutPaused (paused : s.isPaused = true) (line : LogLine) :
      Move env r s .checkingPause s (.returned (.ok ())) [.log line]
  | unpaused (running : s.isPaused = false) :
      Move env r s .checkingPause s .checkingCommitted []
  | leftOutStale {c : Offset} (committed : s.committed = some c) (stale : r.offset < c)
      (line : LogLine) :
      Move env r s .checkingCommitted s (.returned (.ok ())) [.log line]
  | current (current : ∀ c, s.committed = some c → c ≤ r.offset) :
      Move env r s .checkingCommitted s .checkingQueued []
  | leftOutQueued {l : Offset} (latest : s.worker.latestQueued = some l) (late : r.offset ≤ l)
      (line : LogLine) :
      Move env r s .checkingQueued s (.returned (.ok ())) [.log line]
  | fresh (fresh : ∀ l, s.worker.latestQueued = some l → l < r.offset) :
      Move env r s .checkingQueued s (.acquiring 1) []
  | acquired (attempt : Nat) (free : 0 < s.worker.permits) :
      Move env r s (.acquiring attempt)
        { s with worker := { s.worker with permits := s.worker.permits - 1 } } .admitting []
  | exhausted (attempt : Nat) (full : s.worker.permits = 0) (line : LogLine) :
      Move env r s (.acquiring attempt) s .pausing [.log line]
  | delayed (attempt : Nat) (full : s.worker.permits = 0) (wake : Nat) :
      Move env r s (.acquiring attempt) s (.waiting attempt wake) []
  | cancelled (attempt wake : Nat) (cancelled : s.worker.cancelled = true) :
      Move env r s (.waiting attempt wake) s
        (.returned (.error (.cancelled s.worker.partition))) []
  | woken (attempt wake : Nat) (live : s.worker.cancelled = false) :
      Move env r s (.waiting attempt wake) s (.acquiring (attempt + 1)) []
  | admitted (accepting : s.worker.intakeOpen = true) (alive : s.worker.batcher.hasEnded = false)
      (line : LogLine) :
      Move env r s .admitting
        { s with worker := { s.worker with
            queue := s.worker.queue ++ [r], latestQueued := some r.offset } }
        (.returned (.ok ())) [.log line]
  | turnedAway (shut : s.worker.intakeOpen = false ∨ s.worker.batcher.hasEnded = true) :
      Move env r s .admitting
        { s with worker := { s.worker with permits := s.worker.permits + 1 } }
        (.returned (.error (.disposed s.worker.partition))) []
  | paused (fine : s.crashing? env r.partition (.pause r.offset) = none) :
      Move env r s .pausing (s.performed env r.partition (.pause r.offset)) .rechecking
        (s.performing env r.partition (.pause r.offset))
  | pauseCrashed {text : String}
      (broken : s.crashing? env r.partition (.pause r.offset) = some text) :
      Move env r s .pausing (s.performed env r.partition (.pause r.offset)) (.crashed text)
        (s.performing env r.partition (.pause r.offset))
  | found (free : 0 < s.worker.permits) (line : LogLine) :
      Move env r s .rechecking s .resuming [.log line]
  | left (full : s.worker.permits = 0) :
      Move env r s .rechecking s (.returned (.ok ())) []
  | resumed (fine : s.crashing? env s.worker.partition .resume = none) :
      Move env r s .resuming (s.performed env s.worker.partition .resume) (.returned (.ok ()))
        (s.performing env s.worker.partition .resume)
  | resumeCrashed {text : String}
      (broken : s.crashing? env s.worker.partition .resume = some text) :
      Move env r s .resuming (s.performed env s.worker.partition .resume) (.crashed text)
        (s.performing env s.worker.partition .resume)

theorem Intake.move_of_step {env : Surroundings} {r : Record} {s t : Station} {i j : Intake}
    {events : List Event} (h : i.step env r s = some (t, j, events)) :
    Intake.Move env r s i t j events := by
  cases i with
  | checkingStatus =>
    simp only [step] at h
    split at h
    · next active => cases h; exact .welcomed active
    · next inactive => cases h; exact .refused inactive
  | checkingPause =>
    simp only [step] at h
    split at h
    · next paused => cases h; exact .leftOutPaused paused _
    · next running => cases h; exact .unpaused (by simpa using running)
  | checkingCommitted =>
    simp only [step] at h
    split at h
    · next c filtered =>
      cases h
      rw [Option.filter_eq_some_iff, decide_eq_true_eq] at filtered
      exact .leftOutStale filtered.1 filtered.2 _
    · next filtered =>
      cases h
      rw [Option.filter_eq_none_iff] at filtered
      exact .current fun c hc => by simpa using filtered c hc
  | checkingQueued =>
    simp only [step] at h
    split at h
    · next l filtered =>
      cases h
      rw [Option.filter_eq_some_iff, decide_eq_true_eq] at filtered
      exact .leftOutQueued filtered.1 filtered.2 _
    · next filtered =>
      cases h
      rw [Option.filter_eq_none_iff] at filtered
      exact .fresh fun l hl => by simpa using filtered l hl
  | acquiring attempt =>
    simp only [step] at h
    split at h
    · next free => cases h; exact .acquired attempt free
    · next full =>
      have full : s.worker.permits = 0 := Nat.eq_zero_of_not_pos full
      split at h <;> cases h
      · exact .exhausted attempt full _
      · exact .delayed attempt full _
  | waiting attempt wake =>
    simp only [step] at h
    split at h
    · next cancelled => cases h; exact .cancelled attempt wake cancelled
    · next live =>
      split at h
      · cases h; exact .woken attempt wake (by simpa using live)
      · cases h
  | admitting =>
    simp only [step, accept] at h
    split at h
    · next able =>
      cases h
      simp only [Bool.and_eq_true, Bool.not_eq_true'] at able
      exact .admitted able.1 able.2 _
    · next unable =>
      cases h
      refine .turnedAway ?_
      cases hopen : s.worker.intakeOpen
      · exact .inl rfl
      · exact .inr (by simpa [hopen] using unable)
  | pausing =>
    simp only [step, Station.operate_eq] at h
    cases broken : s.crashing? env r.partition (.pause r.offset) with
    | none => rw [broken] at h; cases h; exact .paused broken
    | some text => rw [broken] at h; cases h; exact .pauseCrashed broken
  | rechecking =>
    simp only [step] at h
    split at h
    · next free => cases h; exact .found free _
    · next full => cases h; exact .left (Nat.eq_zero_of_not_pos full)
  | resuming =>
    simp only [step, Station.operate_eq] at h
    cases broken : s.crashing? env s.worker.partition .resume with
    | none => rw [broken] at h; cases h; exact .resumed broken
    | some text => rw [broken] at h; cases h; exact .resumeCrashed broken
  | returned result => cases h
  | crashed text => cases h

/-! ## Calls that close the worker -/

/-- What a step of a call that closes the worker can be. -/
inductive Disposal.Move (env : Surroundings) (s : Station) :
    Disposal → Station → Disposal → List Event → Prop
  | claimed (active : s.worker.status = .active) (line : LogLine) :
      Move env s .claiming { s with worker := { s.worker with status := .draining } }
        .closingIntake [.log line]
  | late (inactive : s.worker.status ≠ .active) :
      Move env s .claiming s .returned []
  | shut :
      Move env s .closingIntake { s with worker := s.worker.closeIntake }
        (.draining (env.now + s.worker.settings.stopTimeout)) []
  | drained {deadline : Nat} {crash : Option String} (ended : s.worker.batcher = .ended crash) :
      Move env s (.draining deadline) s (.cancelling true) (crashLines crash)
  | timedOut {deadline : Nat} (due : deadline ≤ env.now)
      (working : s.worker.batcher.hasEnded = false) :
      Move env s (.draining deadline) { s with worker := s.worker.cancel } .aborting []
  | aborted {crash : Option String} (ended : s.worker.batcher = .ended crash) :
      Move env s .aborting s (.cancelling false) (crashLines crash)
  | cancelled (drained : Bool) :
      Move env s (.cancelling drained) { s with worker := s.worker.cancel } (.committing drained) []
  | committed (drained : Bool) (fine : s.crashing? env s.worker.partition .commit = none) :
      Move env s (.committing drained) (s.performed env s.worker.partition .commit)
        (.resuming drained) (s.performing env s.worker.partition .commit)
  | resumed (drained : Bool) (fine : s.crashing? env s.worker.partition .resume = none) :
      Move env s (.resuming drained) (s.performed env s.worker.partition .resume)
        (.revoking drained) (s.performing env s.worker.partition .resume)
  | revoked (drained : Bool) :
      Move env s (.revoking drained) (s.performed env s.worker.partition .revoke)
        (.closing drained) (s.performing env s.worker.partition .revoke)
  | crashed {i : Disposal} {op : StateOp} {text : String}
      (operating : ∃ drained, i = .committing drained ∧ op = .commit ∨
        i = .resuming drained ∧ op = .resume)
      (broken : s.crashing? env s.worker.partition op = some text) :
      Move env s i (s.performed env s.worker.partition op) (.crashed text)
        (s.performing env s.worker.partition op)
  | closed (drained : Bool) (line : LogLine) :
      Move env s (.closing drained) { s with worker := { s.worker with status := .closed } }
        .returned [.log line]

/-- The first move of a call that closes the worker claims this, or comes too late for it. -/
theorem Disposal.Move.of_claiming {env : Surroundings} {s t : Station} {e : Disposal}
    {events : List Event} (move : Disposal.Move env s .claiming t e events) :
    (s.worker.status = .active ∧ t = { s with worker := { s.worker with status := .draining } } ∧
      e = .closingIntake ∧ ∃ line, events = [.log line]) ∨
    (s.worker.status ≠ .active ∧ t = s ∧ e = .returned ∧ events = []) := by
  cases move with
  | claimed active line => exact .inl ⟨active, rfl, rfl, line, rfl⟩
  | late inactive => exact .inr ⟨inactive, rfl, rfl, rfl⟩
  | crashed operating =>
    obtain ⟨_, ⟨h, -⟩ | ⟨h, -⟩⟩ := operating <;> cases h

/-- A call that has returned makes no move. -/
theorem Disposal.Move.ne_returned {env : Surroundings} {s t : Station} {d e : Disposal}
    {events : List Event} (move : Disposal.Move env s d t e events) : d ≠ .returned := by
  rintro rfl
  cases move with
  | crashed operating =>
    obtain ⟨_, ⟨h, -⟩ | ⟨h, -⟩⟩ := operating <;> cases h

theorem Disposal.move_of_step {env : Surroundings} {s t : Station} {i j : Disposal}
    {events : List Event} (h : i.step env s = some (t, j, events)) :
    Disposal.Move env s i t j events := by
  cases i with
  | claiming =>
    simp only [step] at h
    split at h
    · next active => cases h; exact .claimed active _
    · next inactive => cases h; exact .late inactive
  | closingIntake => cases h; exact .shut
  | draining deadline =>
    simp only [step] at h
    split at h
    · next ended => cases h; exact .drained ended
    · next working =>
      split at h
      · next due =>
        cases h
        refine .timedOut due ?_
        cases hb : s.worker.batcher <;> first | rfl | exact absurd hb (working _)
      · cases h
  | aborting =>
    simp only [step] at h
    split at h
    · next ended => cases h; exact .aborted ended
    · cases h
  | cancelling drained => cases h; exact .cancelled drained
  | committing drained =>
    simp only [step, step.operation, Station.operate_eq] at h
    cases broken : s.crashing? env s.worker.partition .commit with
    | none => rw [broken] at h; cases h; exact .committed drained broken
    | some text => rw [broken] at h; cases h; exact .crashed ⟨drained, .inl ⟨rfl, rfl⟩⟩ broken
  | resuming drained =>
    simp only [step, step.operation, Station.operate_eq] at h
    cases broken : s.crashing? env s.worker.partition .resume with
    | none => rw [broken] at h; cases h; exact .resumed drained broken
    | some text => rw [broken] at h; cases h; exact .crashed ⟨drained, .inr ⟨rfl, rfl⟩⟩ broken
  | revoking drained => cases h; exact .revoked drained
  | closing drained => cases h; exact .closed drained _
  | returned => cases h
  | crashed text => cases h

end TopicConsumer
