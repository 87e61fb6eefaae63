import TopicConsumer.Proofs.Worker.Account

/-!
# Where the records begin that nobody answers for

A worker answers for the records that it has admitted. `Front` says that nothing is missing between
these and what the broker feeds next: as long as the worker takes records, everything before the
position of the feed is done with or pending; if the partition is paused, everything before the
offset of the pause is; and if a call carries a record, everything before this record is.

The offset of a pause is where the feed continues, so that a record that could not be admitted is
fed again. This does not depend on who resumes the partition.
-/

namespace TopicConsumer

/-- The call has its record still and may admit it or pause the partition there. -/
def Intake.Carries : Intake → Prop
  | .rechecking | .resuming | .returned _ | .crashed _ => False
  | _ => True

theorem Intake.not_carries_of_isOver {i : Intake} (h : i.isOver = true) : ¬ i.Carries := by
  cases i <;> first | exact id | cases h

variable {p : TopicPartition} {log : PartitionLog p} {start : Offset} {done more : Record → Prop}

/-- Nothing is missing between what the worker answers for and what is fed to it next. A worker that
is being closed refuses every further call; only the call that is under way matters then. -/
structure Front (log : PartitionLog p) (start : Offset) (done : Record → Prop) (feed : Feed)
    (s : Station) (call : Option (Record × Intake)) : Prop where
  carried : ∀ r i, call = some (r, i) → i.Carries →
    (i = .checkingStatus → s.worker.status = .active) →
      r ∈ log ∧ s.pausedAt = none ∧ feed.position = r.offset + 1 ∧
        log.Accounted start done s.worker.pending r.offset
  paused : s.worker.status = .active → ∀ y, s.pausedAt = some y →
    feed.paused = true ∧ log.Accounted start done s.worker.pending y
  flowing : s.worker.status = .active → s.pausedAt = none → feed.paused = false →
    (∀ r i, call = some (r, i) → ¬ i.Carries) →
      log.Accounted start done s.worker.pending feed.position

/-- The broker may fail, but what it misses by that is accounted for: the record at which a
partition was paused that cannot be sought there, and the record of a call that cannot pause the
partition. -/
structure Forgiven (log : PartitionLog p) (start : Offset) (done : Record → Prop)
    (env : Surroundings) (feed : Feed) (s : Station) (call : Option (Record × Intake))
    (events : List Event) : Prop where
  composed : env.answers.Composed
  sought : s.worker.status = .active → ∀ y e, s.pausedAt = some y →
    env.answers (.seek ⟨p, y⟩) = .failed e → .call (.seek ⟨p, y⟩) (.failed e) ∈ events →
      log.Accounted start done s.worker.pending feed.position
  stopped : ∀ r e, call = some (r, .pausing) → env.answers (.pause p) = .failed e →
    [.operation p (.pause r.offset), .call (.pause p) (.failed e)] <:+: events →
      log.Accounted start done s.worker.pending (r.offset + 1)

/-- A broker that does not fail needs no forgiveness. -/
theorem Answers.Willing.forgiven {env : Surroundings} {feed : Feed} {s : Station}
    {call : Option (Record × Intake)} {events : List Event} (willing : env.answers.Willing) :
    Forgiven log start done env feed s call events where
  composed := willing.composed
  sought _ _ _ _ failed := by cases (willing _).symm.trans failed
  stopped _ _ _ failed := by cases (willing _).symm.trans failed

namespace Front

variable {env : Surroundings} {feed : Feed} {s t : Station} {call : Option (Record × Intake)}

/-- A feed that begins where everything is done with. -/
theorem opening (unpaused : s.pausedAt = none) (covered : log.Covered start done feed.position)
    (free : ∀ r i, call = some (r, i) → ¬ i.Carries) : Front log start done feed s call where
  carried r i hc carries := absurd carries (free r i hc)
  paused _ _ hy := by cases unpaused.symm.trans hy
  flowing _ _ _ _ := covered.accounted

/-- Whatever neither pauses nor resumes the partition and loses no record. -/
theorem worker_change (front : Front log start done feed s call)
    (pausedAt : t.pausedAt = s.pausedAt)
    (active : t.worker.status = .active → s.worker.status = .active)
    (kept : ∀ x, log.Accounted start done s.worker.pending x →
      log.Accounted start more t.worker.pending x) : Front log start more feed t call := by
  refine ⟨fun r i hc carries hi => ?_, fun ha y hy => ?_, fun ha hp hf hc => ?_⟩
  · obtain ⟨hr, unpaused, position, accounted⟩ :=
      front.carried r i hc carries fun hs => active (hi hs)
    exact ⟨hr, pausedAt.trans unpaused, position, kept _ accounted⟩
  · obtain ⟨stopped, accounted⟩ := front.paused (active ha) y (pausedAt ▸ hy)
    exact ⟨stopped, kept _ accounted⟩
  · exact kept _ (front.flowing (active ha) (pausedAt ▸ hp) hf hc)

theorem mono (front : Front log start done feed s call) (grow : ∀ r, done r → more r) :
    Front log start more feed s call :=
  front.worker_change rfl id fun _ known => known.mono grow fun _ _ _ mem => .inr mem

/-- Only the place of the feed matters, and whether it is paused. -/
theorem feed_change {fed : Feed} (front : Front log start done feed s call)
    (position : fed.position = feed.position) (stopped : fed.paused = feed.paused) :
    Front log start done fed s call where
  carried := by
    rw [position]
    exact front.carried
  paused := by
    rw [stopped]
    exact front.paused
  flowing := by
    rw [position, stopped]
    exact front.flowing

/-- Storing, committing or forgetting the position leaves the feed where it is. -/
theorem still (front : Front log start done feed s call) (own : s.worker.partition = p)
    {op : StateOp} (still : (∃ offset, op = .store offset) ∨ op = .commit ∨ op = .revoke) :
    Front log start done (feed.hearAll p ((s.performing env p op).map .event))
      (s.performed env p op) call := by
  obtain ⟨position, stopped⟩ := feed.hearAll_still p env s op (q := p) still
  have pausedAt := Station.pausedAt_performed_still env s still
  rw [own] at pausedAt
  refine ⟨fun r i hc carries hi => ?_, fun ha y hy => ?_, fun ha hp hf hc => ?_⟩
  · obtain ⟨hr, unpaused, hposition, accounted⟩ := front.carried r i hc carries hi
    rw [position]
    exact ⟨hr, by rcases pausedAt with h | h <;> simp [h, unpaused], hposition, accounted⟩
  · rw [stopped]
    rcases pausedAt with h | h
    · exact front.paused ha y (h ▸ hy)
    · cases h.symm.trans hy
  · rw [stopped] at hf
    rw [position]
    rcases hs : s.pausedAt with - | y
    · exact front.flowing ha hs hf hc
    · cases (front.paused ha y hs).1.symm.trans hf

/-- A resume continues the feed where everything before is done with or pending. -/
theorem resume (front : Front log start done feed s call) (own : s.worker.partition = p)
    {events : List Event} (forgiven : Forgiven log start done env feed s call events)
    (made : s.performing env p .resume ⊆ events) :
    Front log start done (feed.hearAll p ((s.performing env p .resume).map .event))
      (s.performed env p .resume) call := by
  subst own
  have unpaused := Station.pausedAt_performed_resume env s forgiven.composed
  have heard := feed.hearAll_resume s forgiven.composed (p := s.worker.partition)
  rw [← Station.pausedAt] at heard
  rw [heard]
  refine ⟨fun r i hc carries hi => ?_, fun ha y hy => ?_, fun ha hp hf hc => ?_⟩
  · obtain ⟨hr, before, position, accounted⟩ := front.carried r i hc carries hi
    rw [before]
    exact ⟨hr, unpaused, position, accounted⟩
  · cases unpaused.symm.trans hy
  · cases hs : s.pausedAt with
    | none =>
      rw [hs] at hf
      exact front.flowing ha hs hf hc
    | some y =>
      rw [Option.elim_some, Feed.answer_resume_position]
      cases sought : env.answers (.seek ⟨s.worker.partition, y⟩) with
      | done =>
        rw [Feed.answer_seek_position]
        exact (front.paused ha y hs).2
      | failed e =>
        have mem := made (Station.seek_mem_performing env s.worker.partition s forgiven.composed hs)
        rw [sought] at mem
        rw [Feed.answer_failed]
        exact forgiven.sought ha y e hs sought mem
      | crashed text => exact absurd sought (forgiven.composed _ _)

/-- A record is fed, and a call begins with it. -/
theorem poll (front : Front log start done feed s call) {r : Record} (feeds : feed.Feeds log r)
    (free : ∀ q i, call = some (q, i) → ¬ i.Carries) :
    Front log start done (feed.past r) s (some (r, .checkingStatus)) := by
  obtain ⟨-, running, next⟩ := feeds
  refine ⟨?_, fun ha y hy => ?_, fun _ _ _ hc => absurd trivial (hc r _ rfl)⟩
  · rintro _ _ ⟨rfl, rfl⟩ - active
    have unpaused : s.pausedAt = none := by
      rcases hs : s.pausedAt with - | y
      · rfl
      · cases (front.paused (active rfl) y hs).1.symm.trans running
    have accounted := front.flowing (active rfl) unpaused running free
    exact ⟨next.1, unpaused, rfl, accounted.next next⟩
  · exact front.paused ha y hy

/-! ## The machines of the worker -/

variable {events : List Event}

theorem batcher_move (front : Front log start done feed s call) (own : s.worker.partition = p)
    (forgiven : Forgiven log start done env feed s call events)
    (sound : s.worker.Sound log start done)
    (cached : ∀ n, s.committed = some n → log.Covered start done n)
    (move : Batcher.Move env s t events) (live : t.worker.cancelled = false)
    (alive : t.worker.batcher.hasEnded = false) :
    Front log start done (feed.hearAll p (events.map .event)) t call := by
  have kept : ∀ x, log.Accounted start done s.worker.pending x →
      log.Accounted start done t.worker.pending x :=
    fun _ => move.accounted sound cached live alive
  cases move with
  | stored =>
    rw [own]
    exact (front.still own (.inl ⟨_, rfl⟩)).worker_change rfl id kept
  | resumed =>
    rw [own, List.map_append, Feed.hearAll_append]
    exact (front.resume own forgiven (own ▸ List.subset_append_left _ _)).worker_change rfl id kept
  | finish | overflowed | crashed => cases alive
  | givenUp _ cancelled => cases live.symm.trans cancelled
  | _ => exact front.worker_change rfl id kept

theorem handler_ends {ending : Batcher.Ending} (front : Front log start done feed s call)
    (grow : ∀ r, done r → more r) (ends : Batcher.Ends env s ending t events)
    (alive : t.worker.batcher.hasEnded = false) : Front log start more feed t call := by
  cases ends with
  | handled handling | failed handling =>
    refine front.worker_change rfl id fun x h => ?_
    rw [Worker.pending, handling] at h
    exact h.mono grow fun _ _ _ mem => .inr mem
  | crashed => cases alive

/-- Closing the worker loses nothing of what it still takes. -/
theorem disposal_move {d e : Disposal} (front : Front log start done feed s call)
    (own : s.worker.partition = p) (forgiven : Forgiven log start done env feed s call events)
    (move : Disposal.Move env s d t e events) :
    Front log start done (feed.hearAll p (events.map .event)) t call := by
  cases move with
  | claimed => exact front.worker_change rfl (by simp) fun _ => id
  | closed => exact front.worker_change rfl (by simp) fun _ => id
  | late => exact front
  | shut | timedOut | cancelled => exact front.worker_change rfl id fun _ => id
  | @drained _ crash | @aborted crash => cases crash <;> exact front
  | committed =>
    rw [own]
    exact front.still own (.inr (.inl rfl))
  | revoked =>
    rw [own]
    exact front.still own (.inr (.inr rfl))
  | resumed =>
    rw [own] at forgiven ⊢
    exact front.resume own forgiven (List.Subset.refl _)
  | crashed operating broken =>
    rw [Station.crashing?_of_composed _ _ _ _ forgiven.composed] at broken
    · cases broken
    · rcases operating with ⟨_, ⟨-, rfl⟩ | ⟨-, rfl⟩⟩ <;> simp

variable {r : Record} {i j : Intake}

/-- The call carries its record on. -/
theorem carry (front : Front log start done feed s (some (r, i))) (hi : i.Carries) (hj : j.Carries)
    (active : i = .checkingStatus → s.worker.status = .active) :
    Front log start done feed s (some (r, j)) := by
  refine ⟨?_, front.paused, fun _ _ _ hc => absurd hj (hc r j rfl)⟩
  rintro _ _ ⟨rfl, rfl⟩ - -
  exact front.carried r i rfl hi active

/-- The call has dropped its record before and goes on without it. -/
theorem goOn (front : Front log start done feed s (some (r, i))) (hi : ¬ i.Carries)
    (hj : ¬ j.Carries) : Front log start done feed s (some (r, j)) := by
  refine ⟨?_, front.paused, fun ha hp hf _ => front.flowing ha hp hf ?_⟩
  · rintro _ _ ⟨rfl, rfl⟩ carries -
    exact absurd carries hj
  · rintro _ _ ⟨rfl, rfl⟩
    exact hi

/-- The call leaves its record out since it is done with or pending already. -/
theorem leaveOut (front : Front log start done feed s (some (r, i))) (hi : i.Carries)
    (hs : i ≠ .checkingStatus) (hj : ¬ j.Carries)
    (known : log.Accounted start done s.worker.pending (r.offset + 1)) :
    Front log start done feed s (some (r, j)) := by
  obtain ⟨-, -, position, -⟩ := front.carried r i rfl hi fun h => absurd h hs
  refine ⟨?_, front.paused, fun _ _ _ _ => by rw [position]; exact known⟩
  rintro _ _ ⟨rfl, rfl⟩ carries -
  exact absurd carries hj

/-- The record of the call is put into the queue. -/
theorem admission (front : Front log start done feed s (some (r, .admitting)))
    (pausedAt : t.pausedAt = s.pausedAt) (pending : t.worker.pending = s.worker.pending ++ [r])
    {result : Except WorkerError Unit} :
    Front log start done feed t (some (r, .returned result)) := by
  obtain ⟨hr, unpaused, position, accounted⟩ := front.carried r _ rfl trivial (by simp)
  refine ⟨?_, fun _ y hy => ?_, fun _ _ _ _ => ?_⟩
  · rintro _ _ ⟨rfl, rfl⟩ carries
    exact carries.elim
  · cases (pausedAt.trans unpaused).symm.trans hy
  · rw [position, pending]
    exact accounted.append hr

/-- The call pauses the partition at its record. -/
theorem pause (front : Front log start done feed s (some (r, .pausing)))
    (own : s.worker.partition = p)
    (forgiven : Forgiven log start done env feed s (some (r, .pausing))
      (s.performing env r.partition (.pause r.offset))) :
    Front log start done
      (feed.hearAll p ((s.performing env r.partition (.pause r.offset)).map .event))
      (s.performed env r.partition (.pause r.offset)) (some (r, .rechecking)) := by
  obtain ⟨hr, unpaused, position, accounted⟩ := front.carried r _ rfl trivial (by simp)
  obtain rfl : r.partition = p := PartitionLog.partition_of_mem hr
  have state : (s.manager.state r.partition).pausedAt = none := own ▸ unpaused
  have dropped : ∀ q i, some (r, Intake.rechecking) = some (q, i) → ¬ i.Carries := by
    rintro _ _ ⟨rfl, rfl⟩
    exact id
  rw [feed.hearAll_pause s forgiven.composed, state, Option.elim_none]
  cases stopped : env.answers (.pause r.partition) with
  | done =>
    have pausedAt := Station.pausedAt_performed_pause env s (own ▸ stopped) r.offset
    rw [own, unpaused] at pausedAt
    refine ⟨fun q i hc carries => absurd carries (dropped q i hc), fun _ y hy => ?_,
      fun _ hp => ?_⟩
    · cases pausedAt.symm.trans hy
      exact ⟨by simp [Feed.answer], accounted⟩
    · cases pausedAt.symm.trans hp
  | failed e =>
    -- The feed goes on, and the record is missed.
    have pausedAt := Station.pausedAt_performed_pause_of_failed env s (own ▸ stopped) r.offset
    rw [own, unpaused] at pausedAt
    have asked := Station.pause_infix_performing env r.partition s forgiven.composed r.offset state
    rw [stopped] at asked
    rw [Feed.answer_failed]
    refine ⟨fun q i hc carries => absurd carries (dropped q i hc), fun _ y hy => ?_,
      fun _ _ _ _ => ?_⟩
    · cases pausedAt.symm.trans hy
    · rw [position]
      exact forgiven.stopped r e rfl stopped asked
  | crashed text => exact absurd stopped (forgiven.composed _ _)

theorem intake_move (front : Front log start done feed s (some (r, i)))
    (own : s.worker.partition = p)
    (forgiven : Forgiven log start done env feed s (some (r, i)) events)
    (sound : s.worker.Sound log start done)
    (cached : ∀ n, s.committed = some n → log.Covered start done n)
    (live : s.worker.cancelled = false) (alive : s.worker.batcher.hasEnded = false)
    (accepting : s.worker.intakeOpen = true) (move : Intake.Move env r s i t j events) :
    Front log start done (feed.hearAll p (events.map .event)) t (some (r, j)) := by
  cases move with
  | refused inactive =>
    refine ⟨?_, fun ha => absurd ha inactive, fun ha => absurd ha inactive⟩
    rintro _ _ ⟨rfl, rfl⟩ carries
    exact carries.elim
  | welcomed active => exact front.carry trivial trivial fun _ => active
  | leftOutPaused paused =>
    obtain ⟨-, unpaused, -⟩ := front.carried r _ rfl trivial (by simp)
    rw [Station.isPaused_eq, unpaused] at paused
    cases paused
  | leftOutStale committed stale =>
    obtain ⟨hr, -, -, accounted⟩ := front.carried r _ rfl trivial (by simp)
    exact front.leaveOut trivial (by simp) id
      (accounted.succ hr fun ge => cached _ committed r hr ge stale)
  | leftOutQueued latest late =>
    exact front.leaveOut trivial (by simp) id
      ((sound.tail live alive _ latest).of_le (Int.add_le_add_right late 1))
  | unpaused | current | fresh | exhausted | delayed | woken =>
    exact front.carry trivial trivial (by simp)
  | acquired =>
    have front : Front log start done feed s (some (r, .admitting)) :=
      front.carry trivial trivial (by simp)
    exact front.worker_change rfl id fun _ => id
  | cancelled _ _ cancelled => cases live.symm.trans cancelled
  | admitted =>
    refine front.admission ?_ ?_
    · rfl
    · exact (List.append_assoc ..).symm
  | turnedAway shut =>
    rcases shut with shut | ended
    · cases accepting.symm.trans shut
    · cases alive.symm.trans ended
  | paused => exact front.pause own forgiven
  | pauseCrashed broken | resumeCrashed broken =>
    rw [Station.crashing?_of_composed _ _ _ _ forgiven.composed (by simp)] at broken
    cases broken
  | found | left => exact front.goOn id id
  | resumed =>
    rw [own] at forgiven ⊢
    exact (front.goOn id id).resume own ⟨forgiven.composed, forgiven.sought, by simp⟩
      (List.Subset.refl _)

end Front

/-! ## The feed of a partition that only one worker pauses -/

/-- If the partition is paused, the feed is stopped behind the offset of the pause. -/
def Anchored (feed : Feed) (s : Station) : Prop :=
  ∀ y, s.pausedAt = some y → feed.paused = true ∧ feed.position = y + 1

namespace Anchored

variable {env : Surroundings} {feed : Feed} {s t : Station} {events : List Event}

theorem of_unpaused (unpaused : s.pausedAt = none) : Anchored feed s := by
  intro y hy
  cases unpaused.symm.trans hy

theorem still (anchored : Anchored feed s) (own : s.worker.partition = p) {op : StateOp}
    (still : (∃ offset, op = .store offset) ∨ op = .commit ∨ op = .revoke) :
    Anchored (feed.hearAll p ((s.performing env p op).map .event)) (s.performed env p op) := by
  obtain ⟨position, stopped⟩ := feed.hearAll_still p env s op (q := p) still
  have pausedAt := Station.pausedAt_performed_still env s still
  rw [own] at pausedAt
  intro y hy
  rw [position, stopped]
  rcases pausedAt with same | unpaused
  · exact anchored y (same ▸ hy)
  · cases unpaused.symm.trans hy

/-- A record is fed only if the partition is not paused. -/
theorem poll {log : PartitionLog p} {r : Record} (anchored : Anchored feed s)
    (feeds : feed.Feeds log r) : Anchored (feed.past r) s := by
  intro y hy
  cases (anchored y hy).1.symm.trans feeds.2.1

theorem batcher_move (anchored : Anchored feed s) (own : s.worker.partition = p)
    (composed : env.answers.Composed) (move : Batcher.Move env s t events) :
    Anchored (feed.hearAll p (events.map .event)) t := by
  cases move with
  | stored =>
    rw [own]
    exact anchored.still own (.inl ⟨_, rfl⟩)
  | resumed => exact of_unpaused (Station.pausedAt_performed_resume env s composed)
  | crashed operating broken =>
    rw [Station.crashing?_of_composed _ _ _ _ composed] at broken
    · cases broken
    · rcases operating with ⟨_, _, rfl⟩ | ⟨_, rfl⟩ <;> simp
  | givenUp _ _ quiet =>
    rw [Feed.hearAll_of_silent]
    · exact anchored
    · intro call answered h
      obtain ⟨e, he, heq⟩ := List.mem_map.mp h
      rcases quiet e he with ⟨line, rfl⟩ | rfl <;> cases heq
  | _ => exact anchored

theorem disposal_move {c e : Disposal} (anchored : Anchored feed s) (own : s.worker.partition = p)
    (composed : env.answers.Composed) (move : Disposal.Move env s c t e events) :
    Anchored (feed.hearAll p (events.map .event)) t := by
  cases move with
  | committed =>
    rw [own]
    exact anchored.still own (.inr (.inl rfl))
  | revoked =>
    rw [own]
    exact anchored.still own (.inr (.inr rfl))
  | resumed => exact of_unpaused (Station.pausedAt_performed_resume env s composed)
  | crashed operating broken =>
    rw [Station.crashing?_of_composed _ _ _ _ composed] at broken
    · cases broken
    · rcases operating with ⟨_, ⟨-, rfl⟩ | ⟨-, rfl⟩⟩ <;> simp
  | @drained _ crash | @aborted crash => cases crash <;> exact anchored
  | _ => exact anchored

/-- A call pauses the partition at the record that was fed last. -/
theorem intake_move {log : PartitionLog p} {r : Record} {i j : Intake} (anchored : Anchored feed s)
    (front : Front log start done feed s (some (r, i))) (own : s.worker.partition = p)
    (composed : env.answers.Composed) (move : Intake.Move env r s i t j events) :
    Anchored (feed.hearAll p (events.map .event)) t := by
  cases move with
  | paused =>
    obtain ⟨hr, unpaused, position, -⟩ := front.carried r _ rfl trivial (by simp)
    obtain rfl : r.partition = p := PartitionLog.partition_of_mem hr
    have state : (s.manager.state r.partition).pausedAt = none := own ▸ unpaused
    rw [feed.hearAll_pause s composed, state, Option.elim_none]
    cases stopped : env.answers (.pause r.partition) with
    | done =>
      have pausedAt := Station.pausedAt_performed_pause env s (own ▸ stopped) r.offset
      rw [own, unpaused] at pausedAt
      intro y hy
      cases pausedAt.symm.trans hy
      simpa [Feed.answer] using position
    | failed e =>
      have pausedAt := Station.pausedAt_performed_pause_of_failed env s (own ▸ stopped) r.offset
      rw [own, unpaused] at pausedAt
      exact of_unpaused pausedAt
    | crashed text => exact absurd stopped (composed _ _)
  | resumed => exact of_unpaused (Station.pausedAt_performed_resume env s composed)
  | pauseCrashed broken | resumeCrashed broken =>
    rw [Station.crashing?_of_composed _ _ _ _ composed (by simp)] at broken
    cases broken
  | _ => exact anchored

end Anchored

end TopicConsumer
