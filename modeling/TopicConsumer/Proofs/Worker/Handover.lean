import TopicConsumer.Proofs.Worker.Admission

/-!
# Handing batches over

A batch that was handed over is handed over once more if it failed. Any other batch has to wait
until the handler has returned from it without an error, or until it is left out since it lies
before the committed position. `Batcher.Follows b since` says where the batcher can be after `b` was
handed over and the moments `since` have passed, and `Worksite.Sequenced` says what stands between
one batch that is handed over and the next one.

A handler that crashes ends the batch task, and a cancelled batcher hands nothing over any more.
-/

namespace TopicConsumer

/-! ## After a batch was handed over -/

/-- The handler has returned from the batch without an error, or the batch was left out. -/
def Settled (b : List Record) (since : List Moment) : Prop :=
  .handled b ∈ since ∨ .skipped b ∈ since

/-- A batch has failed. -/
def HasFailed (since : List Moment) : Prop :=
  ∃ failures pause fault, .event (.failed failures pause fault) ∈ since

/-- Since `b` was handed over it has failed and was not settled, and `c` is the same batch. -/
def Retries (b : List Record) (since : List Moment) (c : List Record) : Prop :=
  c = b ∧ HasFailed since ∧ ¬ Settled b since

/-- Since `b` was handed over it was settled, and `c` was formed. -/
def Succeeds (b : List Record) (since : List Moment) (c : List Record) : Prop :=
  Settled b since ∧ .formed c ∈ since

/-- Neither the handling of a batch has ended here nor was one left out. -/
def Pending (moments : List Moment) : Prop :=
  (∀ b, .handled b ∉ moments) ∧ ∀ b, .skipped b ∉ moments

section Append

variable {b c : List Record} {since moments : List Moment}

theorem Settled.append (h : Settled b since) : Settled b (since ++ moments) :=
  h.imp (List.mem_append_left _) (List.mem_append_left _)

theorem HasFailed.append (h : HasFailed since) : HasFailed (since ++ moments) := by
  obtain ⟨failures, pause, fault, h⟩ := h
  exact ⟨failures, pause, fault, List.mem_append_left _ h⟩

theorem Pending.not_settled (h : Pending moments) (not : ¬ Settled b since) :
    ¬ Settled b (since ++ moments) := by
  rintro (settled | settled) <;> rcases List.mem_append.mp settled with old | new
  · exact not (.inl old)
  · exact h.1 b new
  · exact not (.inr old)
  · exact h.2 b new

theorem Retries.append (h : Retries b since c) (pending : Pending moments) :
    Retries b (since ++ moments) c :=
  ⟨h.1, h.2.1.append, pending.not_settled h.2.2⟩

theorem Succeeds.append (h : Succeeds b since c) : Succeeds b (since ++ moments) c :=
  ⟨h.1.append, List.mem_append_left _ h.2⟩

theorem Pending.map_event (events : List Event) : Pending (events.map .event) := by
  constructor <;> simp

theorem Pending.of_intake (events : List Event) (r : Record) (s : Station) (i j : Intake) :
    Pending (events.map .event ++ Moment.ofIntake r s i j) := by
  have no : Pending (Moment.ofIntake r s i j) := by
    unfold Moment.ofIntake
    split <;> simp [Pending]
  constructor <;> intro b hb <;> rcases List.mem_append.mp hb with hb | hb
  · exact (map_event events).1 b hb
  · exact no.1 b hb
  · exact (map_event events).2 b hb
  · exact no.2 b hb

end Append

/-- Where the batcher can be when `b` was the last batch handed over. -/
def Batcher.Follows (b : List Record) (since : List Moment) (cancelled : Bool) : Batcher → Prop
  | .handling c _ => c = b ∧ ¬ Settled b since
  | .backingOff c _ _ => Retries b since c
  | .checking c _ | .comparing c _ | .starting c _ => Retries b since c ∨ Succeeds b since c
  | .collecting _ _ | .releasing _ | .storing _ | .resuming => Settled b since
  | .idle => Settled b since ∨ cancelled = true
  | .ended _ => True

namespace Batcher.Follows

variable {env : Surroundings} {s t : Station} {events : List Event} {b : List Record}
  {since moments : List Moment}

/-- What does not concern the batch changes nothing about it. -/
theorem append {batcher : Batcher} {cancelled : Bool} (h : batcher.Follows b since cancelled)
    (pending : Pending moments) {later : Bool} (kept : cancelled = true → later = true) :
    batcher.Follows b (since ++ moments) later := by
  cases batcher with
  | idle => exact h.imp Settled.append kept
  | collecting | releasing | storing | resuming => exact Settled.append h
  | checking | comparing | starting => exact h.imp (·.append pending) (·.append)
  | handling => exact ⟨h.1, pending.not_settled h.2⟩
  | backingOff => exact Retries.append h pending
  | ended => trivial

/-- A step of the batcher that hands nothing over. -/
theorem move (h : s.worker.batcher.Follows b since s.worker.cancelled)
    (move : Batcher.Move env s t events) (silent : ∀ c, .handed c ∉ events) :
    t.worker.batcher.Follows b
      (since ++ (events.map .event ++ Moment.ofBatcher s.worker.batcher t.worker.batcher))
      t.worker.cancelled := by
  cases move with
  | finish | overflowed => trivial
  | opened idle live =>
    rw [idle, live] at h
    exact (h.resolve_right (by simp)).append
  | taken collecting =>
    rw [collecting] at h
    exact Settled.append h
  | formed collecting =>
    rw [collecting] at h ⊢
    exact .inr ⟨Settled.append h, by simp [Moment.ofBatcher]⟩
  | checked phase | compared phase =>
    rw [phase] at h ⊢
    exact append h (.map_event []) id
  | skipped comparing =>
    rw [comparing] at h ⊢
    rcases h with again | next
    · exact .inl (.inr (by simp [Moment.ofBatcher, Worker.dropBatch, again.1]))
    · exact .inl next.1.append
  | handed => exact absurd List.mem_cons_self (silent _)
  | woken waiting =>
    rw [waiting] at h ⊢
    exact .inl (Retries.append h (.map_event []))
  | givenUp trying cancelled => exact .inr cancelled
  | released phase | stored phase =>
    rw [phase] at h
    exact Settled.append h
  | resumed resuming =>
    rw [resuming] at h
    exact .inl (Settled.append h)
  | crashed => trivial

theorem ends {ending : Batcher.Ending} (h : s.worker.batcher.Follows b since s.worker.cancelled)
    (ends : Batcher.Ends env s ending t events) :
    t.worker.batcher.Follows b
      (since ++ (Moment.ofEnding s.worker.batcher.batch ending ++ events.map .event))
      t.worker.cancelled := by
  cases ends with
  | handled handling =>
    rw [handling] at h ⊢
    exact .inl (by simp [Moment.ofEnding, batch, h.1])
  | @failed c n fault handling live pause wake =>
    rw [handling] at h ⊢
    have failed : HasFailed (since ++ [.event (.failed (Retry.countFailure n) pause fault)]) :=
      ⟨_, _, _, List.mem_concat_self⟩
    exact ⟨h.1, failed, (Pending.map_event [_]).not_settled h.2⟩
  | crashed => trivial

end Batcher.Follows

/-! ## The whole history -/

/-! ## Who hands over -/

theorem Station.handed_notMem_performing (env : Surroundings) (p : TopicPartition) (op : StateOp)
    (s : Station) (b : List Record) : .handed b ∉ s.performing env p op := by
  simp [Station.performing]

theorem Intake.Move.handed_notMem {env : Surroundings} {r : Record} {s t : Station} {i j : Intake}
    {events : List Event} (h : Intake.Move env r s i t j events) (b : List Record) :
    .handed b ∉ events := by
  cases h with
  | paused | pauseCrashed | resumed | resumeCrashed =>
    exact Station.handed_notMem_performing env _ _ s b
  | _ => simp

theorem Disposal.Move.handed_notMem {env : Surroundings} {s t : Station} {d e : Disposal}
    {events : List Event} (h : Disposal.Move env s d t e events) (b : List Record) :
    .handed b ∉ events := by
  cases h with
  | committed | resumed | revoked | crashed => exact Station.handed_notMem_performing env _ _ s b
  | @drained _ crash | @aborted crash => cases crash <;> simp [crashLines]
  | _ => simp

/-- A step of the batcher hands over the batch that it was about to hand over, or nothing. -/
theorem Batcher.Move.handed_notMem {env : Surroundings} {s t : Station} {events : List Event}
    (h : Batcher.Move env s t events) :
    (∃ b n, s.worker.batcher = .starting b n ∧ t.worker.batcher = .handling b n ∧
        events = [.handed b]) ∨ ∀ b, .handed b ∉ events := by
  cases h with
  | handed starting => exact .inl ⟨_, _, starting, rfl, rfl⟩
  | stored | crashed => exact .inr (Station.handed_notMem_performing env _ _ s)
  | resumed => exact .inr fun b hb => by simp [Station.handed_notMem_performing] at hb
  | givenUp _ _ quiet =>
    refine .inr fun b hb => ?_
    rcases quiet _ hb with ⟨line, e⟩ | e <;> cases e
  | _ => exact .inr (by simp)

theorem Batcher.Ends.handed_notMem {env : Surroundings} {s t : Station} {ending : Batcher.Ending}
    {events : List Event} (ends : Batcher.Ends env s ending t events) (b : List Record) :
    .handed b ∉ events := by
  cases ends <;> simp

namespace Worksite

/-- What was handed over is either the first batch, or the one that failed before, or one that was
formed after the one before had been settled. -/
structure Sequenced (h : List Moment) (w : Worksite) : Prop where
  last : ∀ before b since, h = before ++ .event (.handed b) :: since →
    (∀ c, .event (.handed c) ∉ since) →
      w.station.worker.batcher.Follows b since w.station.worker.cancelled
  pairs : ∀ before b since c after,
    h = before ++ .event (.handed b) :: (since ++ .event (.handed c) :: after) →
      (∀ c, .event (.handed c) ∉ since) → Retries b since c ∨ Succeeds b since c

namespace Sequenced

variable {h moments : List Moment} {w t : Worksite}

theorem start (w : Worksite) : Sequenced [] w where
  last before b since e := by simp at e
  pairs before b since c after e := by simp at e

/-- Moments among which nothing is handed over. -/
theorem silent (seq : Sequenced h w) (silent : ∀ c, .event (.handed c) ∉ moments)
    (follows : ∀ b since,
      w.station.worker.batcher.Follows b since w.station.worker.cancelled →
        t.station.worker.batcher.Follows b (since ++ moments) t.station.worker.cancelled) :
    Sequenced (h ++ moments) t where
  last before b since e none := by
    rcases append_eq_append_cons e with ⟨between, old, rfl⟩ | ⟨between, -, new⟩
    · exact follows b between
        (seq.last before b between old fun c hc => none c (List.mem_append_left _ hc))
    · exact absurd (new ▸ List.mem_append_right _ List.mem_cons_self) (silent b)
  pairs before b since c after e none := by
    rw [← List.cons_append, ← List.append_assoc] at e
    rcases append_eq_append_cons e with ⟨between, old, -⟩ | ⟨between, -, new⟩
    · rw [List.append_assoc, List.cons_append] at old
      exact seq.pairs before b since c between old none
    · exact absurd (new ▸ List.mem_append_right _ List.mem_cons_self) (silent c)

theorem hand {b : List Record} {n : Nat} {s : Station} (seq : Sequenced h w)
    (starting : w.station.worker.batcher = .starting b n)
    (handling : s.worker.batcher = .handling b n) :
    Sequenced (h ++ [.event (.handed b)]) { w with station := s } where
  last before c since e none := by
    rcases append_eq_append_cons e with ⟨between, -, rfl⟩ | ⟨between, -, new⟩
    · exact absurd List.mem_concat_self (none b)
    · rcases between with - | ⟨first, between⟩
      · cases new
        rw [handling]
        exact ⟨rfl, by simp [Settled]⟩
      · cases between <;> cases new
  pairs before c since d after e none := by
    rw [← List.cons_append, ← List.append_assoc] at e
    rcases append_eq_append_cons e with ⟨between, old, -⟩ | ⟨between, all, new⟩
    · rw [List.append_assoc, List.cons_append] at old
      exact seq.pairs before c since d between old none
    · rcases between with - | ⟨first, between⟩
      -- The new batch is the later one of the two, so that the batcher knows what became of `c`.
      · cases new
        rw [List.append_nil] at all
        have follows := seq.last before c since all.symm none
        rw [starting] at follows
        exact follows
      · cases between <;> cases new

/-- Every move keeps the batches in sequence. -/
theorem move {env : Surroundings} {act : Act} (seq : Sequenced h w)
    (move : Move env w act t moments) :
    Sequenced (h ++ moments) t := by
  cases move with
  | enqueue r free => exact seq.silent (by simp) fun b since f => f.append (by simp [Pending]) id
  | @intake r i j s events call move =>
    refine seq.silent ?_ fun b since f => ?_
    · intro c hc
      rcases List.mem_append.mp hc with hc | hc
      · exact move.handed_notMem c (by simpa using hc)
      · exact Moment.event_notMem_ofIntake hc
    · rcases move.worker_eq with ⟨-, -, -, -, same⟩ | ⟨-, same⟩ <;> rw [same] <;>
        exact f.append (Pending.of_intake events r w.station i j) id
  | @batch s events move =>
    rcases move.handed_notMem with ⟨b, n, starting, handling, rfl⟩ | silent
    · rw [starting, handling]
      exact seq.hand starting handling
    · refine seq.silent (fun c hc => ?_) fun b since f => f.move move silent
      rcases List.mem_append.mp hc with hc | hc
      · exact silent c (by simpa using hc)
      · exact Moment.event_notMem_ofBatcher hc
  | @handler ending s events ends =>
    refine seq.silent (fun c hc => ?_) fun b since f => f.ends ends
    cases ends <;> simp [Moment.ofEnding] at hc
  | dispose =>
    rw [List.append_nil]
    exact ⟨seq.last, seq.pairs⟩
  | @disposal n d e s events call move =>
    obtain ⟨same, -, later⟩ := move.worker_eq
    refine seq.silent (by simpa using move.handed_notMem) fun b since f => ?_
    rw [same]
    exact f.append (Pending.map_event _) later
  | cancel => exact seq.silent (by simp) fun b since f => f.append (by simp [Pending]) fun _ => rfl
  | elsewhere p op =>
    refine seq.silent ?_ fun b since f => f.append (Pending.map_event _) id
    simpa using Station.handed_notMem_performing env p op w.station

end Sequenced

end Worksite

end TopicConsumer
