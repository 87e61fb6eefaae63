import TopicConsumer.Proofs.Worker.Delivery

/-!
# Delivery by a worker whose broker fails

If the queue is full the worker pauses its partition at the record that it could not admit, and the
resume seeks this record. Both are best effort: a pause that fails leaves the partition unpaused, so
that the feed goes on behind the record, and a seek that fails leaves the feed where it is.

`Delivery.failingRun_backed` is about every run in which each call to the broker may fail by itself.
Nothing else is ever missed: before a position is stored or committed, every record up to it was
handled, unless the pause at this very record or a seek back to it has failed.
`Delivery.not_overflowsBacked` shows that either failure alone may lose a record.
-/

namespace TopicConsumer

/-- Circumstances in which exactly these calls fail. -/
def Surroundings.refusing (refused : List BrokerCall) (now : Nat) : Surroundings where
  now := now
  reading := .shown .epoch
  answers call := if call ∈ refused then .failed (.transient "") else .done
  jitter := .smallest

theorem Surroundings.composed_refusing (refused : List BrokerCall) (now : Nat) :
    (refusing refused now).answers.Composed := by
  intro call text crashed
  simp only [refusing] at crashed
  split at crashed <;> cases crashed

/-- The broker failed to stop at the record, or failed to return to it. -/
def Forfeited (p : TopicPartition) (history : List Moment) (r : Record) : Prop :=
  ∃ e, [.event (.operation p (.pause r.offset)), .event (.call (.pause p) (.failed e))] <:+:
      history ∨
    .event (.call (.seek ⟨p, r.offset⟩) (.failed e)) ∈ history

theorem Forfeited.append {p : TopicPartition} {history : List Moment} {r : Record}
    (forfeited : Forfeited p history r) (more : List Moment) : Forfeited p (history ++ more) r := by
  obtain ⟨e, stopped | sought⟩ := forfeited
  · exact ⟨e, .inl (stopped.trans (List.prefix_append history more).isInfix)⟩
  · exact ⟨e, .inr (List.mem_append_left more sought)⟩

/-- A record is done with when it was handled or forfeited. -/
def Ledger.forgiving (p : TopicPartition) : Ledger where
  done history r := HandledIn history r ∨ Forfeited p history r
  grows history more r h := h.imp (HandledIn.append history more r) (Forfeited.append · more)
  handled _ _ := .inl

namespace Delivery

/-- The record of a call that begins comes from the feed, nobody else uses the states of the
partitions, and the broker does not crash but may fail. -/
structure MayFailing {p : TopicPartition} (log : PartitionLog p) (d : Delivery)
    (env : Surroundings) (act : Worksite.Act) : Prop where
  composed : env.answers.Composed
  feeds : ∀ r, act = .enqueue r → d.feed.Feeds log r
  alone : ∀ q op, act ≠ .elsewhere q op

/-- A run with its history, in which the broker may fail at any call. -/
inductive FailingRun {p : TopicPartition} (log : PartitionLog p) (d₀ : Delivery) :
    List Moment → Delivery → Prop
  | start : FailingRun log d₀ [] d₀
  | step {history : List Moment} {d e : Delivery} {env : Surroundings} {act : Worksite.Act}
      {moments : List Moment} (run : FailingRun log d₀ history d) (may : d.MayFailing log env act)
      (step : d.step p env act = some (e, moments)) : FailingRun log d₀ (history ++ moments) e

/-- The broker misses only what it forfeits. -/
theorem Excused.forgiving {p : TopicPartition} {log : PartitionLog p} {env : Surroundings}
    (composed : env.answers.Composed) (history moments : List Moment) :
    Excused (.forgiving p) log env history moments where
  composed := composed
  sought := by
    rintro _ e - mem r - rfl
    exact .inr ⟨e, .inr (List.mem_append_right history mem)⟩
  stopped := by
    rintro _ e - asked r - rfl
    exact .inr ⟨e, .inl (asked.trans (List.suffix_append history moments).isInfix)⟩

variable {p : TopicPartition} {log : PartitionLog p} {env : Surroundings} {m : Manager}
  {settings : BatchSettings} {feed : Feed} {history : List Moment} {d : Delivery} {start : Offset}

theorem FailingRun.accountable (ge : feed.position ≤ start)
    (current : ∀ n, (m.state p).committed = some n → n ≤ start)
    (run : FailingRun log ⟨.spawned env m p settings, feed⟩ history d) :
    Accountable (.forgiving p) log start history d := by
  induction run with
  | start => exact .spawned ge current
  | @step history d e env act moments run may step ih =>
    simp only [Delivery.step, bind, Option.bind_eq_some_iff, Prod.exists] at step
    obtain ⟨site, moments, step, h⟩ := step
    cases h
    exact ih.move may.feeds may.alone (.forgiving may.composed history moments)
      (Worksite.move_of_step step)

/-- Whichever calls to the broker fail, before a position is stored or committed every record up to
it was handled or forfeited. Records before the position that is cached when the worker starts are
not its own. -/
theorem failingRun_backed (ge : feed.position ≤ start)
    (current : ∀ n, (m.state p).committed = some n → n ≤ start)
    (run : FailingRun log ⟨.spawned env m p settings, feed⟩ history d) :
    ∀ before mark after n, history = before ++ mark :: after → mark.Marks p n →
      ∀ r ∈ log, start ≤ r.offset → r.offset < n → HandledIn before r ∨ Forfeited p before r :=
  (run.accountable ge current).backed

/-! ## Schedules -/

/-- Makes the moves of a schedule, each at its time, while the broker refuses some calls, and leaves
out those that cannot be made. -/
def playRefused (refused : List BrokerCall) (p : TopicPartition) (first last : Offset)
    (d : Delivery) : List (Nat × Worksite.Act) → Delivery × List Moment
  | [] => (d, [])
  | (now, act) :: rest =>
    match if d.mayPlain p first last act then d.step p (.refusing refused now) act else none with
    | some (e, moments) =>
      let played := e.playRefused refused p first last rest
      (played.1, moments ++ played.2)
    | none => d.playRefused refused p first last rest

theorem mayFailing_of_mayPlain {refused : List BrokerCall} {first last : Offset} {now : Nat}
    {act : Worksite.Act} (h : d.mayPlain p first last act = true) :
    d.MayFailing (.plain p first last) (.refusing refused now) act := by
  obtain ⟨-, feeds, alone⟩ := (@may_of_mayPlain p d first last now act h).cases
  exact ⟨Surroundings.composed_refusing refused now, feeds, alone⟩

theorem FailingRun.playRefused {first last : Offset} {d₀ : Delivery} (refused : List BrokerCall)
    (run : FailingRun (.plain p first last) d₀ history d) (schedule : List (Nat × Worksite.Act)) :
    FailingRun (.plain p first last) d₀
      (history ++ (d.playRefused refused p first last schedule).2)
      (d.playRefused refused p first last schedule).1 := by
  induction schedule generalizing history d with
  | nil => simpa [Delivery.playRefused] using run
  | cons move rest ih =>
    obtain ⟨now, act⟩ := move
    rw [Delivery.playRefused]
    split
    · next e moments made =>
      split at made
      · next may =>
        rw [← List.append_assoc]
        exact ih (run.step (mayFailing_of_mayPlain may) made)
      · cases made
    · exact ih run

/-- The queue has room for one record. The second record finds it full, the first one is handled,
and the third one is fed and handled. -/
def overtaken (p : TopicPartition) : List (Nat × Worksite.Act) :=
  let early : List (List Worksite.Act) :=
    [Worksite.enqueueing (.bare p 1), [.enqueue (.bare p 2)], List.replicate 5 .intake]
  let working : List (List Worksite.Act) :=
    [[.batch, .batch], Worksite.handling .handled, List.replicate 3 .batch]
  let late : List (List Worksite.Act) :=
    List.replicate 6 .intake :: working ++ Worksite.enqueueing (.bare p 3) :: working
  early.flatten.map (0, ·) ++ [(10, .intake), (10, .intake)] ++ late.flatten.map (20, ·)

/-- A worker that is fed from offset 1 on takes part in the schedule while the broker refuses some
calls. -/
def overtaking (p : TopicPartition) (refused : List BrokerCall) : Delivery × List Moment :=
  let site := Worksite.spawned (.calm 0) .empty p { batchSize := 1, queueCapacity := 1 }
  playRefused refused p 1 9 ⟨site, ⟨true, 1, false, none, 1⟩⟩ (overtaken p)

theorem overtaking_run (p : TopicPartition) (refused : List BrokerCall) :
    let site := Worksite.spawned (.calm 0) .empty p { batchSize := 1, queueCapacity := 1 }
    FailingRun (.plain p 1 9) ⟨site, ⟨true, 1, false, none, 1⟩⟩ (overtaking p refused).2
      (overtaking p refused).1 :=
  FailingRun.start.playRefused refused (overtaken p)

theorem overtaking_backed :
    let p : TopicPartition := ⟨"orders", 0⟩
    let history := (overtaking p [.pause p]).2
    (∀ before mark after n, history = before ++ mark :: after → mark.Marks p n →
      ∀ r ∈ PartitionLog.plain p 1 9, 1 ≤ r.offset → r.offset < n →
        HandledIn before r ∨ Forfeited p before r) ∧
      .event (.call (.store ⟨p, 4⟩) .done) ∈ history ∧ .handled [.bare p 3] ∈ history :=
  ⟨failingRun_backed (Int.le_refl 1) (fun _ h => by cases h) (overtaking_run ⟨"orders", 0⟩ _),
    by decide +kernel, by decide +kernel⟩

/-- No overflow is a loss: a record at which the worker was to pause was handled before a position
beyond it was stored or committed. -/
def OverflowsBacked {p : TopicPartition} (log : PartitionLog p) (history : List Moment) : Prop :=
  ∀ before mark after n, history = before ++ mark :: after → mark.Marks p n →
    ∀ r ∈ log, .event (.operation p (.pause r.offset)) ∈ before → r.offset < n → HandledIn before r

theorem OverflowsBacked.handledIn {r : Record} {n : Offset} {mark : Moment}
    (h : OverflowsBacked log history) (hr : r ∈ log) (marks : mark.Marks p n) (lt : r.offset < n)
    (order : List.Sublist [.event (.operation p (.pause r.offset)), mark] history) :
    HandledIn history r := by
  obtain ⟨early, late, rfl, paused, marked⟩ := List.cons_sublist_iff.mp order
  obtain ⟨between, after, rfl⟩ := List.append_of_mem (List.singleton_sublist.mp marked)
  rw [← List.append_assoc] at h ⊢
  exact (h _ mark after n rfl marks r hr (List.mem_append_left between paused) lt).append _ _ r

/-- The calls that failed. -/
def failedIn (history : List Moment) : List BrokerCall :=
  history.filterMap fun
    | .event (.call call (.failed _)) => some call
    | _ => none

/-- A single pause that fails may lose a record, and so may a single seek that fails. -/
theorem not_overflowsBacked :
    let p : TopicPartition := ⟨"orders", 0⟩
    let site := Worksite.spawned (.calm 0) .empty p { batchSize := 1, queueCapacity := 1 }
    ∀ refused ∈ [BrokerCall.pause p, .seek ⟨p, 2⟩],
      ∃ history d, FailingRun (.plain p 1 9) ⟨site, ⟨true, 1, false, none, 1⟩⟩ history d ∧
        failedIn history = [refused] ∧ ¬ OverflowsBacked (.plain p 1 9) history := by
  intro p site
  have skipped : ∀ refused ∈ [BrokerCall.pause p, .seek ⟨p, 2⟩],
      let history := (overtaking p [refused]).2
      failedIn history = [refused] ∧ ¬ HandledIn history (.bare p 2) ∧
        List.Sublist [.event (.operation p (.pause 2)), .event (.call (.store ⟨p, 4⟩) .done)]
          history := by
    decide +kernel
  have there : .bare p 2 ∈ PartitionLog.plain p 1 9 :=
    (PartitionLog.next_plain (by decide) (by decide)).1
  intro refused mem
  obtain ⟨failed, lost, order⟩ := skipped refused mem
  refine ⟨_, _, overtaking_run p [refused], failed, fun backed => lost ?_⟩
  exact backed.handledIn there ⟨.done, .inl rfl⟩ (by decide) order

end Delivery

end TopicConsumer
