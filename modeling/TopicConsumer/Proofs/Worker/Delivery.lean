import TopicConsumer.Proofs.Worker.Admission
import TopicConsumer.Proofs.Worker.Front

/-!
# At-least-once delivery by one worker

A worksite is fed by its partition: a call that enqueues a record begins with the record that is fed
next, and the broker hears the calls of everybody at the worksite. `Delivery.run_backed` says that
no position is stored or committed before every record up to it was handled, in any order of steps,
however the handler ends, and also while the worker is being closed or cancelled.

The partition may be paused when the worker starts. Then every record is left out, and the worker
stays untouched until it is closed.

The invariant `Accountable` is stated for any ledger, and a step keeps it if what the broker misses
by failing counts as done with (`Excused`). Here the broker does not fail in a way that loses a
record, so the strict ledger will do; the module on refusals takes a more lenient one.
-/

namespace TopicConsumer

/-- The call that closes the worker has done nothing to the partition. -/
def Disposal.Early (c : Disposal) : Prop := c = .claiming ∨ c = .closingIntake ∨ c = .returned

/-- A call that closes the worker closes the intake before it does anything to the partition. -/
theorem Disposal.Early.move {env : Surroundings} {s t : Station} {c e : Disposal}
    {events : List Event} (early : c.Early) (accepting : t.worker.intakeOpen = true)
    (move : Disposal.Move env s c t e events) : e.Early ∧ t.manager = s.manager := by
  cases move with
  | claimed => exact ⟨.inr (.inl rfl), rfl⟩
  | late => exact ⟨.inr (.inr rfl), rfl⟩
  | shut => cases accepting
  | crashed operating => rcases operating with ⟨_, ⟨rfl, -⟩ | ⟨rfl, -⟩⟩ <;> simp [Early] at early
  | _ => simp [Early] at early

/-- A worksite and the feed of its partition. -/
structure Delivery where
  site : Worksite
  feed : Feed

namespace Delivery

/-- The record of a call that begins comes from the feed, the broker is willing, and nobody else
uses the states of the partitions. -/
def May {p : TopicPartition} (log : PartitionLog p) (d : Delivery) (env : Surroundings) :
    Worksite.Act → Prop
  | .enqueue r => env.answers.Willing ∧ d.feed.Feeds log r
  | .elsewhere _ _ => False
  | _ => env.answers.Willing

theorem May.cases {p : TopicPartition} {log : PartitionLog p} {d : Delivery} {env : Surroundings}
    {act : Worksite.Act} (may : d.May log env act) :
    env.answers.Willing ∧ (∀ r, act = .enqueue r → d.feed.Feeds log r) ∧
      ∀ q op, act ≠ .elsewhere q op := by
  cases act with
  | enqueue r =>
    refine ⟨may.1, ?_, by simp⟩
    rintro _ ⟨rfl⟩
    exact may.2
  | elsewhere q op => exact may.elim
  | _ => exact ⟨may, by simp, by simp⟩

/-- The feed goes past the record of a call that begins. -/
def advance (feed : Feed) : Worksite.Act → Feed
  | .enqueue r => feed.past r
  | _ => feed

/-- A move at the worksite, which the broker hears. -/
def step (p : TopicPartition) (env : Surroundings) (d : Delivery) (act : Worksite.Act) :
    Option (Delivery × List Moment) := do
  let (site, moments) ← d.site.step env act
  some (⟨site, (advance d.feed act).hearAll p moments⟩, moments)

/-- A run with its history. -/
inductive Run {p : TopicPartition} (log : PartitionLog p) (d₀ : Delivery) :
    List Moment → Delivery → Prop
  | start : Run log d₀ [] d₀
  | step {history : List Moment} {d e : Delivery} {env : Surroundings} {act : Worksite.Act}
      {moments : List Moment} (run : Run log d₀ history d) (may : d.May log env act)
      (step : d.step p env act = some (e, moments)) : Run log d₀ (history ++ moments) e

/-- The partition was paused before the worker started, and the worker has not taken any record. -/
structure Untouched (s : Station) (call : Option (Record × Intake)) : Prop where
  paused : s.isPaused = true
  idle : s.worker.batcher = .idle
  empty : s.worker.queue = []
  call : ∀ r i, call = some (r, i) → i = .checkingStatus ∨ i = .checkingPause ∨ i.isOver = true

namespace Untouched

variable {env : Surroundings} {s t : Station} {events : List Event}
  {call : Option (Record × Intake)}

theorem batcher_move (untouched : Untouched s call)
    (move : Batcher.Move env s t events) : t.worker.batcher.hasEnded = true := by
  have idle := untouched.idle
  have empty := untouched.empty
  cases move with
  | finish => rfl
  | opened _ _ queue | overflowed _ _ queue => cases empty.symm.trans queue
  | taken phase | formed phase | checked phase | compared phase | skipped phase | handed phase
  | woken phase | released phase | stored phase | resumed phase => cases idle.symm.trans phase
  | givenUp trying =>
    rcases trying with phase | phase | phase | ⟨wake, phase⟩ <;> cases idle.symm.trans phase
  | crashed operating =>
    rcases operating with ⟨last, phase, -⟩ | ⟨phase, -⟩ <;> cases idle.symm.trans phase

theorem handler_ends {ending : Batcher.Ending} (untouched : Untouched s call) :
    ¬ Batcher.Ends env s ending t events := by
  have idle := untouched.idle
  rintro (phase | phase | phase) <;> cases idle.symm.trans phase

/-- A call leaves its record out since the partition is paused. -/
theorem intake_move {r : Record} {i j : Intake} (untouched : Untouched s (some (r, i)))
    (move : Intake.Move env r s i t j events) :
    t = s ∧ (∀ e ∈ events, ∃ line, e = .log line) ∧ Untouched s (some (r, j)) := by
  obtain ⟨paused, idle, empty, call⟩ := untouched
  have call := call r i rfl
  cases move with
  | refused =>
    exact ⟨rfl, by simp, paused, idle, empty, by rintro _ _ ⟨rfl, rfl⟩; simp [Intake.isOver]⟩
  | welcomed => exact ⟨rfl, by simp, paused, idle, empty, by rintro _ _ ⟨rfl, rfl⟩; simp⟩
  | leftOutPaused =>
    exact ⟨rfl, by simp, paused, idle, empty, by rintro _ _ ⟨rfl, rfl⟩; simp [Intake.isOver]⟩
  | unpaused running => cases paused.symm.trans running
  | _ => simp [Intake.isOver] at call

/-- As long as the intake is open, whoever closes the worker has done nothing to the partition. -/
theorem disposal_move {c e : Disposal} (untouched : Untouched s call)
    (early : c.Early)
    (accepting : t.worker.intakeOpen = true) (move : Disposal.Move env s c t e events) :
    Untouched t call := by
  obtain ⟨paused, idle, empty, call⟩ := untouched
  have manager := (early.move accepting move).2
  have worker := move.worker_eq.1
  refine ⟨?_, ?_, ?_, call⟩
  · rw [Station.isPaused, manager, worker]
    exact paused
  · rw [worker]
    exact idle
  · rw [worker]
    exact empty

end Untouched

/-- What holds in every run, whatever counts as done with. -/
structure Accountable (L : Ledger) {p : TopicPartition} (log : PartitionLog p) (start : Offset)
    (history : List Moment) (d : Delivery) : Prop where
  own : d.site.station.worker.partition = p
  ordered : d.site.Ordered
  backed : L.Backs log start history
  cached : ∀ n, d.site.station.committed = some n → log.Covered start (L.done history) n
  sound : d.site.station.worker.Sound log start (L.done history)
  /-- A call that closes the worker closes the intake before it does anything else. -/
  early : d.site.station.worker.intakeOpen = true →
    ∀ c ∈ d.site.disposals, c.Early
  front : d.site.station.worker.cancelled = false → d.site.station.worker.batcher.hasEnded = false →
    d.site.station.worker.intakeOpen = true → Untouched d.site.station d.site.call ∨
      Front log start (L.done history) d.feed d.site.station d.site.call ∧
        Anchored d.feed d.site.station

/-- What the broker misses by failing counts as done with. -/
structure Excused (L : Ledger) {p : TopicPartition} (log : PartitionLog p) (env : Surroundings)
    (history moments : List Moment) : Prop where
  composed : env.answers.Composed
  sought : ∀ y e, env.answers (.seek ⟨p, y⟩) = .failed e →
    .event (.call (.seek ⟨p, y⟩) (.failed e)) ∈ moments →
      ∀ r ∈ log, r.offset = y → L.done (history ++ moments) r
  stopped : ∀ y e, env.answers (.pause p) = .failed e →
    [.event (.operation p (.pause y)), .event (.call (.pause p) (.failed e))] <:+: moments →
      ∀ r ∈ log, r.offset = y → L.done (history ++ moments) r

namespace Excused

variable {L : Ledger} {p : TopicPartition} {log : PartitionLog p} {start : Offset}
  {env : Surroundings} {history moments : List Moment}

/-- A broker that does not fail misses nothing. -/
theorem of_willing (willing : env.answers.Willing) : Excused L log env history moments where
  composed := willing.composed
  sought _ _ failed := by cases (willing _).symm.trans failed
  stopped _ _ failed := by cases (willing _).symm.trans failed

/-- A seek that fails leaves the feed behind the record of the pause, and a pause that fails leaves
it behind the record of the call. -/
theorem forgiven {feed : Feed} {s : Station} {call : Option (Record × Intake)} {events : List Event}
    (excused : Excused L log env history moments)
    (front : Front log start (L.done (history ++ moments)) feed s call)
    (anchored : Anchored feed s) (made : events.map .event <:+: moments) :
    Forgiven log start (L.done (history ++ moments)) env feed s call events where
  composed := excused.composed
  sought active y e paused failed mem := by
    have among := made.subset (List.mem_map_of_mem mem)
    rw [(anchored y paused).2]
    exact (front.paused active y paused).2.advance fun r hr eq _ =>
      excused.sought y e failed among r hr eq
  stopped r e call failed asked := by
    obtain ⟨hr, -, -, known⟩ := front.carried r _ call trivial (by simp)
    exact known.succ hr fun _ =>
      excused.stopped _ e failed ((asked.map Moment.event).trans made) r hr rfl

end Excused

namespace Accountable

variable {L : Ledger} {p : TopicPartition} {log : PartitionLog p} {start : Offset}
  {history : List Moment} {d : Delivery} {env : Surroundings} {s : Station} {events : List Event}

theorem cached_state (h : Accountable L log start history d) :
    ∀ n, (d.site.station.manager.state p).committed = some n →
      log.Covered start (L.done history) n := by
  intro n hn
  rw [← h.own] at hn
  exact h.cached n hn

/-- A call begins with the record that is fed next. -/
theorem enqueue {r : Record} (h : Accountable L log start history d) (feeds : d.feed.Feeds log r)
    (free : d.site.isFree = true)
    (ordered : Worksite.Ordered { d.site with call := some (r, .checkingStatus) }) :
    Accountable L log start (history ++ [.called r])
      ⟨{ d.site with call := some (r, .checkingStatus) }, d.feed.past r⟩ where
  own := h.own
  ordered := ordered
  backed := by
    refine h.backed.append fun m hm n marks => ?_
    rw [List.mem_singleton.mp hm] at marks
    simp [Moment.Marks] at marks
  cached n hn := (h.cached n hn).mono (L.grows _ _)
  sound := h.sound.mono (L.grows _ _)
  early := h.early
  front live alive accepting := by
    rcases h.front live alive accepting with untouched | ⟨front, anchored⟩
    · refine .inl ⟨untouched.paused, untouched.idle, untouched.empty, ?_⟩
      rintro _ _ ⟨rfl, rfl⟩
      exact .inl rfl
    · have free : ∀ q i, d.site.call = some (q, i) → ¬ i.Carries := by
        intro q i hc
        rw [Worksite.isFree, hc] at free
        exact Intake.not_carries_of_isOver free
      have front := front.mono (L.grows _ [.called r])
      exact .inr ⟨front.poll feeds free, anchored.poll feeds⟩

theorem intake {r : Record} {i j : Intake} (h : Accountable L log start history d)
    (call : d.site.call = some (r, i)) (move : Intake.Move env r d.site.station i s j events)
    (ordered : Worksite.Ordered { d.site with station := s, call := some (r, j) })
    {rest : List Moment} (silent : ∀ e, .event e ∉ rest)
    (excused : Excused L log env history (events.map .event ++ rest)) :
    Accountable L log start (history ++ (events.map .event ++ rest))
      ⟨{ d.site with station := s, call := some (r, j) },
        d.feed.hearAll p (events.map .event)⟩ := by
  have same : s.worker.partition = d.site.station.worker.partition ∧
      s.worker.cancelled = d.site.station.worker.cancelled ∧
        s.worker.batcher = d.site.station.worker.batcher ∧
          s.worker.intakeOpen = d.site.station.worker.intakeOpen := by
    rcases move.worker_eq with ⟨-, -, -, -, worker⟩ | ⟨-, worker⟩ <;> rw [worker] <;> simp
  obtain ⟨partition, cancelled, batcher, intakeOpen⟩ := same
  have grow := L.grows history (events.map .event ++ rest)
  refine ⟨partition.trans h.own, ordered, ?_, fun n hn => ?_, ?_, ?_,
    fun live alive accepting => ?_⟩
  · refine h.backed.append_events (MarksOnly.intake_move h.cached_state move) fun e he => ?_
    rcases List.mem_append.mp he with he | he
    · simpa using he
    · exact absurd he (silent e)
  · rw [move.committed_eq] at hn
    exact (h.cached n hn).mono grow
  · refine Worker.Sound.mono ?_ grow
    refine h.sound.intake_move ?_ (fun hi live alive accepting => ?_) move
    · rintro rfl
      exact h.ordered.behind r _ call trivial
    · subst hi
      rcases h.front live alive accepting with untouched | ⟨front, -⟩
      · exact absurd (untouched.call r _ call) (by simp [Intake.isOver])
      · obtain ⟨hr, -, -, known⟩ := front.carried r _ call trivial (by simp)
        exact ⟨hr, known⟩
  · rw [intakeOpen]
    exact h.early
  · rw [cancelled] at live
    rw [batcher] at alive
    rw [intakeOpen] at accepting
    rcases h.front live alive accepting with untouched | ⟨front, anchored⟩
    -- A worker that starts paused leaves every record out, and nothing resumes its partition.
    · rw [call] at untouched
      obtain ⟨rfl, -, untouched⟩ := untouched.intake_move move
      exact .inl untouched
    · rw [call] at front
      have front := front.mono grow
      have forgiven := excused.forgiven front anchored (List.prefix_append _ rest).isInfix
      exact .inr ⟨front.intake_move h.own forgiven (h.sound.mono grow)
          (fun n hn => (h.cached n hn).mono grow) live alive accepting move,
        anchored.intake_move front h.own excused.composed move⟩

theorem batch (h : Accountable L log start history d)
    (move : Batcher.Move env d.site.station s events)
    (ordered : Worksite.Ordered { d.site with station := s })
    {rest : List Moment} (silent : ∀ e, .event e ∉ rest)
    (excused : Excused L log env history (events.map .event ++ rest)) :
    Accountable L log start (history ++ (events.map .event ++ rest))
      ⟨{ d.site with station := s }, d.feed.hearAll p (events.map .event)⟩ := by
  have same : s.worker.partition = d.site.station.worker.partition ∧
      s.worker.cancelled = d.site.station.worker.cancelled ∧
        s.worker.intakeOpen = d.site.station.worker.intakeOpen := by
    rw [move.worker_eq]
    simp
  obtain ⟨partition, cancelled, intakeOpen⟩ := same
  have grow := L.grows history (events.map .event ++ rest)
  have stored := fun (_ : d.site.station.worker.partition = p) => h.sound.storing
  refine ⟨partition.trans h.own, ordered, ?_, fun n hn => ?_, ?_, ?_,
    fun live alive accepting => ?_⟩
  · refine h.backed.append_events (MarksOnly.batcher_move h.cached_state stored move) fun e he => ?_
    rcases List.mem_append.mp he with he | he
    · simpa using he
    · exact absurd he (silent e)
  · exact (h.sound.covered_of_batcher_move h.cached move n hn).mono grow
  · exact (h.sound.batcher_move h.cached move).mono grow
  · rw [intakeOpen]
    exact h.early
  · rcases h.front (cancelled ▸ live) move.alive (intakeOpen ▸ accepting) with
      untouched | ⟨front, anchored⟩
    · cases alive.symm.trans (untouched.batcher_move move)
    · have front := front.mono grow
      have forgiven := excused.forgiven front anchored (List.prefix_append _ rest).isInfix
      exact .inr ⟨front.batcher_move h.own forgiven (h.sound.mono grow)
          (fun n hn => (h.cached n hn).mono grow) move live alive,
        anchored.batcher_move h.own excused.composed move⟩

theorem handler {ending : Batcher.Ending} (h : Accountable L log start history d)
    (ends : Batcher.Ends env d.site.station ending s events)
    (ordered : Worksite.Ordered { d.site with station := s }) :
    Accountable L log start
      (history ++ (Moment.ofEnding d.site.station.worker.batcher.batch ending ++ events.map .event))
      ⟨{ d.site with station := s }, d.feed⟩ := by
  have same : s.worker.partition = d.site.station.worker.partition ∧
      s.worker.cancelled = d.site.station.worker.cancelled ∧
        s.worker.intakeOpen = d.site.station.worker.intakeOpen := by
    rw [ends.worker_eq]
    simp
  obtain ⟨partition, cancelled, intakeOpen⟩ := same
  have committed : s.committed = d.site.station.committed := by
    rw [Station.committed, Station.committed, ends.manager_eq, partition]
  have grow := L.grows history
    (Moment.ofEnding d.site.station.worker.batcher.batch ending ++ events.map .event)
  have handled : ending = .handled → ∀ r ∈ d.site.station.worker.batcher.batch,
      L.done (history ++ (Moment.ofEnding d.site.station.worker.batcher.batch ending ++
        events.map .event)) r := by
    rintro rfl r hr
    exact L.handled _ r ⟨_, by simp [Moment.ofEnding], hr⟩
  refine ⟨partition.trans h.own, ordered, ?_, fun n hn => ?_, ?_, ?_,
    fun live alive accepting => ?_⟩
  · refine h.backed.append_events (?_ : MarksOnly p _ events) fun e he => ?_
    · exact MarksOnly.of_quiet (by cases ends <;> simp)
    · rcases List.mem_append.mp he with he | he
      · exact absurd he Moment.event_notMem_ofEnding
      · simpa using he
  · exact (h.cached n (committed ▸ hn)).mono grow
  · exact h.sound.handler_ends grow handled ends
  · rw [intakeOpen]
    exact h.early
  · have before : d.site.station.worker.batcher.hasEnded = false := by
      cases ends with
      | handled handling | failed handling => rw [handling]; rfl
      | crashed => cases alive
    have pausedAt : s.pausedAt = d.site.station.pausedAt := by
      rw [Station.pausedAt, Station.pausedAt, ends.manager_eq, partition]
    rcases h.front (cancelled ▸ live) before (intakeOpen ▸ accepting) with
      untouched | ⟨front, anchored⟩
    · exact absurd ends untouched.handler_ends
    · exact .inr ⟨front.handler_ends grow ends alive, fun y hy => anchored y (pausedAt ▸ hy)⟩

theorem disposal {n : Nat} {c e : Disposal} (h : Accountable L log start history d)
    (call : d.site.disposals[n]? = some c) (move : Disposal.Move env d.site.station c s e events)
    (ordered : Worksite.Ordered
      { d.site with station := s, disposals := d.site.disposals.set n e })
    (excused : Excused L log env history (events.map .event)) :
    Accountable L log start (history ++ events.map .event)
      ⟨{ d.site with station := s, disposals := d.site.disposals.set n e },
        d.feed.hearAll p (events.map .event)⟩ := by
  obtain ⟨worker, accepted, stays⟩ := move.worker_eq
  have grow := L.grows history (events.map .event)
  have closed : s.worker.intakeOpen = true → c.Early :=
    fun accepting => h.early (accepted accepting) c (List.mem_of_getElem? call)
  refine ⟨?_, ordered, ?_, fun k hk => ?_, ?_, fun accepting f hf => ?_,
    fun live alive accepting => ?_⟩
  · rw [worker]
    exact h.own
  · exact h.backed.append_events (MarksOnly.disposal_move h.cached_state move) (by simp)
  · rcases move.committed_eq with same | ⟨-, forgotten⟩
    · exact (h.cached k (same ▸ hk)).mono grow
    · cases forgotten.symm.trans hk
  · exact (h.sound.disposal_move move).mono grow
  · rcases List.mem_or_eq_of_mem_set hf with hf | rfl
    · exact h.early (accepted accepting) f hf
    · exact ((closed accepting).move accepting move).1
  · have before : d.site.station.worker.cancelled = false :=
      Bool.eq_false_iff.mpr (mt stays (Bool.eq_false_iff.mp live))
    have ongoing : d.site.station.worker.batcher.hasEnded = false := by
      rw [worker] at alive
      exact alive
    rcases h.front before ongoing (accepted accepting) with untouched | ⟨front, anchored⟩
    · exact .inl (untouched.disposal_move (closed accepting) accepting move)
    · have front := front.mono grow
      have forgiven := excused.forgiven front anchored List.infix_rfl
      exact .inr ⟨front.disposal_move h.own forgiven move,
        anchored.disposal_move h.own excused.composed move⟩

end Accountable

/-- Every move keeps the worker accountable if nobody else uses the states of the partitions. -/
theorem Accountable.move {L : Ledger} {p : TopicPartition} {log : PartitionLog p} {start : Offset}
    {history moments : List Moment} {d : Delivery} {env : Surroundings} {act : Worksite.Act}
    {t : Worksite} (h : Accountable L log start history d)
    (feeds : ∀ r, act = .enqueue r → d.feed.Feeds log r) (alone : ∀ q op, act ≠ .elsewhere q op)
    (excused : Excused L log env history moments) (move : Worksite.Move env d.site act t moments) :
    Accountable L log start (history ++ moments) ⟨t, (advance d.feed act).hearAll p moments⟩ := by
  have ordered := h.ordered.move move
  cases move with
  | enqueue r free => exact h.enqueue (feeds r rfl) free ordered
  | intake call move =>
    rw [Feed.hearAll_append, Feed.hearAll_of_silent _ _ fun _ _ => Moment.event_notMem_ofIntake]
    exact h.intake call move ordered (fun _ => Moment.event_notMem_ofIntake) excused
  | batch move =>
    rw [Feed.hearAll_append, Feed.hearAll_of_silent _ _ fun _ _ => Moment.event_notMem_ofBatcher]
    exact h.batch move ordered (fun _ => Moment.event_notMem_ofBatcher) excused
  | @handler ending s events ends =>
    rw [Feed.hearAll_append, Feed.hearAll_of_silent _ _ fun _ _ => Moment.event_notMem_ofEnding,
      Feed.hearAll_of_silent]
    · exact h.handler ends ordered
    · cases ends <;> simp
  | dispose =>
    rw [List.append_nil]
    refine ⟨h.own, ordered, h.backed, h.cached, h.sound, fun accepting c hc => ?_, h.front⟩
    rcases List.mem_append.mp hc with hc | hc
    · exact h.early accepting c hc
    · exact .inl (List.mem_singleton.mp hc)
  | disposal call move => exact h.disposal call move ordered excused
  | cancel =>
    rw [List.append_nil]
    exact ⟨h.own, ordered, h.backed, h.cached, h.sound.cancel, h.early, fun live => by cases live⟩
  | elsewhere q op => exact absurd rfl (alone q op)

variable {p : TopicPartition} {log : PartitionLog p} {env : Surroundings} {m : Manager}
  {settings : BatchSettings} {feed : Feed} {history : List Moment} {d : Delivery}

/-- A worker that has just been started is accountable for the records from the position of the feed
on that do not lie before the cached position. -/
theorem Accountable.spawned {L : Ledger} {log : PartitionLog p} {start : Offset}
    (ge : feed.position ≤ start) (cached : ∀ n, (m.state p).committed = some n → n ≤ start) :
    Accountable L log start [] ⟨.spawned env m p settings, feed⟩ := by
  have worker := Worksite.spawned_worker env m p settings
  have partition : (Worksite.spawned env m p settings).station.worker.partition = p := by
    rw [worker]
    rfl
  obtain ⟨pausedAt, committed⟩ := Worksite.spawned_state env m p settings
  refine ⟨partition, .spawned env m p settings, .nil, fun n hn => ?_, ?_, ?_, ?_⟩
  · rw [Station.committed, partition, committed] at hn
    exact PartitionLog.covered_start.of_le (cached n hn)
  · rw [worker]
    exact Worker.Sound.fresh settings
  · simp
  · intro _ _ _
    cases paused : (m.state p).pausedAt with
    | none =>
      have unpaused : (Worksite.spawned env m p settings).station.pausedAt = none := by
        rw [Station.pausedAt, partition, pausedAt, paused]
      exact .inr ⟨.opening unpaused (PartitionLog.covered_start.of_le ge) (by simp),
        .of_unpaused unpaused⟩
    | some y =>
      refine .inl ⟨?_, ?_, ?_, by simp⟩
      · rw [Station.isPaused_eq, Station.pausedAt, partition, pausedAt, paused]
        rfl
      · rw [worker]
        rfl
      · rw [worker]
        rfl

/-- In every run of a worker that starts with nothing cached, no position is stored or committed
before every record up to it was handled. -/
theorem run_backed (forgotten : (m.state p).committed = none)
    (run : Run log ⟨.spawned env m p settings, feed⟩ history d) :
    Backed log feed.position history := by
  -- What is marked says nothing about the next move; the place of the feed has to be carried along.
  have kept : Accountable .strict log feed.position history d := by
    induction run with
    | start => exact Accountable.spawned (Int.le_refl _) (by simp [forgotten])
    | @step history d e env act moments run may step ih =>
      obtain ⟨willing, feeds, alone⟩ := may.cases
      simp only [Delivery.step, bind, Option.bind_eq_some_iff, Prod.exists] at step
      obtain ⟨site, moments, step, h⟩ := step
      cases h
      exact ih.move feeds alone (.of_willing willing) (Worksite.move_of_step step)
  exact kept.backed

/-! ## Schedules -/

/-- The move of a schedule may be made if the partition holds bare records from `first` to `last`.
-/
def mayPlain (p : TopicPartition) (first last : Offset) (d : Delivery) : Worksite.Act → Bool
  | .enqueue r =>
    d.feed.isOpen && !d.feed.paused && decide (first ≤ d.feed.position) &&
      decide (d.feed.position ≤ last) && decide (r = .bare p d.feed.position)
  | .elsewhere _ _ => false
  | _ => true

theorem may_of_mayPlain {first last : Offset} {now : Nat} {act : Worksite.Act}
    (h : d.mayPlain p first last act = true) : d.May (.plain p first last) (.calm now) act := by
  have willing : (Surroundings.calm now).answers.Willing := fun _ => rfl
  cases act with
  | enqueue r =>
    simp only [mayPlain, Bool.and_eq_true, Bool.not_eq_true', decide_eq_true_eq] at h
    obtain ⟨⟨⟨⟨isOpen, running⟩, ge⟩, le⟩, rfl⟩ := h
    exact ⟨willing, isOpen, running, PartitionLog.next_plain ge le⟩
  | elsewhere q op => cases h
  | _ => exact willing

/-- Makes the moves of a schedule, each at its time, and leaves out those that cannot be made. -/
def play (p : TopicPartition) (first last : Offset) (d : Delivery) :
    List (Nat × Worksite.Act) → Delivery × List Moment
  | [] => (d, [])
  | (now, act) :: rest =>
    match if d.mayPlain p first last act then d.step p (.calm now) act else none with
    | some (e, moments) => ((e.play p first last rest).1, moments ++ (e.play p first last rest).2)
    | none => d.play p first last rest

theorem Run.play {first last : Offset} {d₀ : Delivery}
    (run : Run (.plain p first last) d₀ history d) (schedule : List (Nat × Worksite.Act)) :
    Run (.plain p first last) d₀ (history ++ (d.play p first last schedule).2)
      (d.play p first last schedule).1 := by
  induction schedule generalizing history d with
  | nil => simpa [Delivery.play] using run
  | cons move rest ih =>
    obtain ⟨now, act⟩ := move
    rw [Delivery.play]
    split
    · next e moments made =>
      split at made
      · next may =>
        rw [← List.append_assoc]
        exact ih (run.step (may_of_mayPlain may) made)
      · cases made
    · exact ih run

theorem run_play (p : TopicPartition) (first last : Offset) (d : Delivery)
    (schedule : List (Nat × Worksite.Act)) :
    Run (.plain p first last) d (d.play p first last schedule).2 (d.play p first last schedule).1 :=
  Run.start.play schedule

/-- The queue has room for one record. The second record finds it full, so that the partition is
paused there; it is fed again when the first one is handled, and it is not handled any more when the
worker is closed. -/
def fedAgain (p : TopicPartition) : List (Nat × Worksite.Act) :=
  let early := Worksite.enqueueing (.bare p 1) ++ .enqueue (.bare p 2) :: List.replicate 5 .intake
  let late := List.replicate 6 .intake ++ [.batch, .batch] ++ Worksite.handling .handled ++
    List.replicate 3 .batch ++ Worksite.enqueueing (.bare p 2) ++ List.replicate 5 .batch ++
    .dispose :: List.replicate 2 (.disposal 0)
  let closing := .disposal 0 :: List.replicate 2 .batch ++ List.replicate 3 (.disposal 0)
  early.map (0, ·) ++ [(10, .intake), (10, .intake)] ++ late.map (20, ·) ++ closing.map (5000, ·)

theorem fedAgain_backed :
    let p : TopicPartition := ⟨"orders", 0⟩
    let site := Worksite.spawned (.calm 0) .empty p { queueCapacity := 1 }
    let played := Delivery.play p 1 9 ⟨site, ⟨true, 1, false, none, 1⟩⟩ (fedAgain p)
    Backed (.plain p 1 9) 1 played.2 ∧ .event (.call (.commit ⟨p, 2⟩) .done) ∈ played.2 ∧
      Moment.event (.abandoned [.bare p 2]) ∈ played.2 :=
  ⟨run_backed rfl (run_play ⟨"orders", 0⟩ 1 9 _ _), by decide +kernel, by decide +kernel⟩

end Delivery

end TopicConsumer
