import TopicConsumer.Proofs.Consumer.Placement
import TopicConsumer.Proofs.Consumer.Service

/-!
# Which records a consumer answers for

`Consumer.Answerable log start done c feed` says of one partition that nothing is missing in `c`.
What is cached, stored and committed has nothing but done records before it, every worker of the
partition is sound, whether it is being closed or not, and the one that takes records has its front
at the feed.

Only one worker of a partition takes records: the one that is registered. Every other worker of the
partition is being closed. It shares the pause and the cached position with the one that takes
records, and it may store, commit, resume and forget, but it does not pause.
-/

namespace TopicConsumer.Consumer

/-- The worker takes the records of the partition. -/
def Serves (c : Consumer) (p : TopicPartition) (i : Nat) : Prop :=
  c.workerOf? p = some i ∨ ∃ r call, c.loop = some (.enqueuing i r call) ∧ r.partition = p

/-- The call that enqueues a record at the worker. -/
def callOn (c : Consumer) (i : Nat) : Option (Record × Intake) :=
  match c.loop with
  | some (.enqueuing j r call) => if j = i then some (r, call) else none
  | _ => none

section

variable {c : Consumer} {p : TopicPartition} {i j : Nat} {r : Record} {call : Intake}

theorem callOn_self (h : c.loop = some (.enqueuing i r call)) : c.callOn i = some (r, call) := by
  rw [callOn, h]
  exact if_pos rfl

theorem callOn_of_ne (h : c.loop = some (.enqueuing i r call)) (hij : i ≠ j) :
    c.callOn j = none := by
  rw [callOn, h]
  exact if_neg hij

theorem loop_of_callOn (h : c.callOn i = some (r, call)) : c.loop = some (.enqueuing i r call) := by
  unfold callOn at h
  split at h
  · next j q d loop =>
    split at h
    · next hj =>
      cases h
      rw [loop, hj]
    · cases h
  · cases h

theorem callOn_eq_none (h : ∀ r call, c.loop ≠ some (.enqueuing i r call)) : c.callOn i = none := by
  cases hc : c.callOn i with
  | none => rfl
  | some call => exact absurd (loop_of_callOn hc) (h _ _)

theorem Placed.serves (h : c.Placed) (serves : c.Serves p i) :
    ∃ w, c.workers[i]? = some w ∧ w.partition = p := by
  rcases serves with found | ⟨r, call, loop, hr⟩
  · exact h.found found
  · obtain ⟨w, hw, same, -⟩ := h.passing i r call loop
    exact ⟨w, hw, same.trans hr⟩

/-- A worker that takes the records of the partition is one of the partition. -/
theorem Placed.partition_of_serves (h : c.Placed) {w : Worker} (serves : c.Serves p i)
    (hw : c.workers[i]? = some w) : w.partition = p := by
  obtain ⟨v, hv, same⟩ := h.serves serves
  cases hw.symm.trans hv
  exact same

/-- As long as a record of the partition is passed on, nobody else takes its records. -/
theorem Placed.eq_of_serves (h : c.Placed) (loop : c.loop = some (.enqueuing i r call))
    (hr : r.partition = p) (serves : c.Serves p j) : j = i := by
  rcases serves with found | ⟨q, d, other, -⟩
  · subst hr
    exact h.sole i r call loop j found
  · cases loop.symm.trans other
    rfl

end

variable {p : TopicPartition} {log : PartitionLog p} {start : Offset} {done more : Record → Prop}
  {c d : Consumer} {feed : Feed}

/-- Nothing is missing in the consumer. -/
structure Answerable (log : PartitionLog p) (start : Offset) (done : Record → Prop) (c : Consumer)
    (feed : Feed) : Prop where
  cached : ∀ n, (c.manager.state p).committed = some n → log.Covered start done n
  stored : ∀ n, feed.stored = some n → log.Covered start done n
  committed : log.Covered start done feed.committed
  sound : ∀ (i : Nat) (w : Worker), c.workers[i]? = some w → w.partition = p →
    w.Sound log start done
  front : ∀ (i : Nat) (w : Worker), c.Serves p i → c.workers[i]? = some w → w.cancelled = false →
    w.batcher.hasEnded = false → w.intakeOpen = true →
      Front log start done feed ⟨c.manager, w⟩ (c.callOn i)

namespace Answerable

theorem mono (h : Answerable log start done c feed) (grow : ∀ r, done r → more r) :
    Answerable log start more c feed where
  cached n hn := (h.cached n hn).mono grow
  stored n hn := (h.stored n hn).mono grow
  committed := h.committed.mono grow
  sound i w hw own := (h.sound i w hw own).mono grow
  front i w serves hw live alive accepting :=
    (h.front i w serves hw live alive accepting).mono grow

/-! ## A worker moves -/

section Move

variable {env : Surroundings} {j : Nat} {w : Worker} {t : Station} {events : List Event}

/-- A worker moves: what it has to answer for is shown of it, and the fronts of all others stay. -/
theorem station (h : Answerable log start done c feed) (hw : c.workers[j]? = some w)
    (manager : d.manager = t.manager) (workers : d.workers = c.workers.set j t.worker)
    (serves : ∀ i, d.Serves p i → c.Serves p i) (calls : ∀ i, i ≠ j → d.callOn i = c.callOn i)
    (partition : t.worker.partition = w.partition)
    (cached : ∀ n, (t.manager.state p).committed = some n → log.Covered start done n)
    (only : MarksOnly p (log.Covered start done) events)
    (sound : w.partition = p → t.worker.Sound log start done)
    (mine : c.Serves p j → t.worker.cancelled = false → t.worker.batcher.hasEnded = false →
      t.worker.intakeOpen = true →
        Front log start done (feed.hearAll p (events.map .event)) t (d.callOn j))
    (others : ∀ i v, i ≠ j → c.Serves p i → c.workers[i]? = some v →
      Front log start done feed ⟨c.manager, v⟩ (c.callOn i) →
        Front log start done (feed.hearAll p (events.map .event)) ⟨t.manager, v⟩ (c.callOn i)) :
    Answerable log start done d (feed.hearAll p (events.map .event)) := by
  -- What the broker remembers is of the partition, whichever of its workers has told it.
  obtain ⟨stored, committed⟩ := feed.marked_hearAll only.of_mem h.stored h.committed
  refine ⟨by rw [manager]; exact cached, stored, committed, fun i v hv own => ?_,
    fun i v served hv live alive accepting => ?_⟩
  · rw [workers] at hv
    by_cases hij : j = i
    · subst hij
      rw [List.getElem?_set_self (List.getElem?_eq_some_iff.mp hw).1] at hv
      cases hv
      exact sound (partition.symm.trans own)
    · rw [List.getElem?_set_ne hij] at hv
      exact h.sound i v hv own
  · rw [workers] at hv
    by_cases hij : j = i
    · subst hij
      rw [List.getElem?_set_self (List.getElem?_eq_some_iff.mp hw).1] at hv
      cases hv
      rw [manager]
      exact mine (serves j served) live alive accepting
    · rw [List.getElem?_set_ne hij] at hv
      have hij : i ≠ j := Ne.symm hij
      rw [manager, calls i hij]
      exact others i v hij (serves i served) hv
        (h.front i v (serves i served) hv live alive accepting)

/-- The operations of a worker on another partition leave what is cached as it is. -/
theorem cached_of_shares {may : TopicPartition → StateOp → Prop}
    (h : Answerable log start done c feed) (shares : Station.Shares env ⟨c.manager, w⟩ t events may)
    (elsewhere : ∀ q op, may q op → q ≠ p) :
    ∀ n, (t.manager.state p).committed = some n → log.Covered start done n := by
  rw [(shares.elsewhere elsewhere feed).1]
  exact h.cached

theorem batch (h : Answerable log start done c feed) (placed : c.Placed)
    (willing : env.answers.Willing) (hw : c.workers[j]? = some w)
    (move : Batcher.Move env ⟨c.manager, w⟩ t events) :
    Answerable log start done (c.setStation j t) (feed.hearAll p (events.map .event)) := by
  have worker := move.worker_eq
  have partition : t.worker.partition = w.partition := by rw [worker]
  have cached : w.partition = p →
      ∀ n, Station.committed ⟨c.manager, w⟩ = some n → log.Covered start done n := by
    rintro rfl
    exact h.cached
  refine h.station hw rfl rfl (fun _ => id) (fun _ _ => rfl) partition ?_ ?_ ?_ ?_ ?_
  · by_cases own : w.partition = p
    · have after := (h.sound j w hw own).covered_of_batcher_move (cached own) move
      rw [Station.committed, partition, own] at after
      exact after
    · refine h.cached_of_shares move.shares ?_
      rintro q op ⟨rfl, -⟩
      exact own
  · exact MarksOnly.batcher_move h.cached (fun own => (h.sound j w hw own).storing) move
  · exact fun own => (h.sound j w hw own).batcher_move (cached own) move
  · intro serves live alive accepting
    have own := placed.partition_of_serves serves hw
    have before : w.cancelled = false ∧ w.intakeOpen = true := by
      rw [worker] at live accepting
      exact ⟨live, accepting⟩
    exact (h.front j w serves hw before.1 move.alive before.2).batcher_move own willing.forgiven
      (h.sound j w hw own) (cached own) move live alive
  · intro i v _ serves hv front
    refine front.others (placed.partition_of_serves serves hv) willing move.shares ?_
    rintro op ⟨-, storing | resuming⟩
    · exact .inl (.inl storing)
    · exact .inr resuming

theorem handler {ending : Batcher.Ending} (h : Answerable log start done c feed)
    (hw : c.workers[j]? = some w) (grow : ∀ r, done r → more r)
    (handled : ending = .handled → ∀ r ∈ w.batcher.batch, more r)
    (ends : Batcher.Ends env ⟨c.manager, w⟩ ending t events) :
    Answerable log start more (c.setStation j t) (feed.hearAll p (events.map .event)) := by
  have worker := ends.worker_eq
  have manager := ends.manager_eq
  have silent : ∀ call answered, .event (.call call answered) ∉ events.map Moment.event := by
    intro call answered mem
    obtain ⟨e, he, same⟩ := List.mem_map.mp mem
    cases same
    exact ends.silent call answered he
  have partition : t.worker.partition = w.partition := by rw [worker]
  refine (h.mono grow).station hw rfl rfl (fun _ => id) (fun _ _ => rfl) partition ?_ ?_ ?_ ?_ ?_
  · rw [manager]
    exact (h.mono grow).cached
  · exact MarksOnly.of_quiet fun e he call answered same => ends.silent call answered (same ▸ he)
  · exact fun own => (h.sound j w hw own).handler_ends grow handled ends
  · intro serves live alive accepting
    rw [feed.hearAll_of_silent p silent]
    have before : w.cancelled = false ∧ w.intakeOpen = true := by
      rw [worker] at live accepting
      exact ⟨live, accepting⟩
    have ongoing : w.batcher.hasEnded = false := by
      cases ends with
      | handled handling | failed handling => rw [show w.batcher = _ from handling]; rfl
      | crashed => cases alive
    exact (h.front j w serves hw before.1 ongoing before.2).handler_ends grow ends alive
  · intro i v _ _ _ front
    rw [feed.hearAll_of_silent p silent, manager]
    exact front

theorem disposal {e f : Disposal} (h : Answerable log start done c feed) (placed : c.Placed)
    (willing : env.answers.Willing) (hw : c.workers[j]? = some w)
    (move : Disposal.Move env ⟨c.manager, w⟩ e t f events) :
    Answerable log start done (c.setStation j t) (feed.hearAll p (events.map .event)) := by
  obtain ⟨worker, accepted, stays⟩ := move.worker_eq
  have partition : t.worker.partition = w.partition := by rw [worker]
  refine h.station hw rfl rfl (fun _ => id) (fun _ _ => rfl) partition ?_ ?_ ?_ ?_ ?_
  · by_cases own : w.partition = p
    · intro n hn
      rw [← own, ← partition] at hn
      rcases move.committed_eq with same | ⟨-, forgotten⟩
      · refine h.cached n ?_
        rw [← own]
        exact same.symm.trans hn
      · cases forgotten.symm.trans hn
    · refine h.cached_of_shares move.shares ?_
      rintro q op ⟨rfl, -⟩
      exact own
  · exact MarksOnly.disposal_move h.cached move
  · exact fun own => (h.sound j w hw own).disposal_move move
  · intro serves live alive accepting
    have own := placed.partition_of_serves serves hw
    have before : w.cancelled = false :=
      Bool.eq_false_iff.mpr (mt stays (Bool.eq_false_iff.mp live))
    have ongoing : w.batcher.hasEnded = false := by
      rw [worker] at alive
      exact alive
    exact (h.front j w serves hw before ongoing (accepted accepting)).disposal_move own
      willing.forgiven move
  · intro i v _ serves hv front
    refine front.others (placed.partition_of_serves serves hv) willing move.shares ?_
    rintro op ⟨-, rfl | rfl | rfl⟩
    · exact .inl (.inr (.inl rfl))
    · exact .inr rfl
    · exact .inl (.inr (.inr rfl))

/-- The call that enqueues a record makes a move. If the record is one of the partition, nobody else
takes records of the partition. -/
theorem intake {r : Record} {call next : Intake} (h : Answerable log start done c feed)
    (placed : c.Placed) (willing : env.answers.Willing)
    (loop : c.loop = some (.enqueuing j r call)) (hw : c.workers[j]? = some w)
    (move : Intake.Move env r ⟨c.manager, w⟩ call t next events) :
    Answerable log start done { c.setStation j t with loop := some (.enqueuing j r next) }
      (feed.hearAll p (events.map .event)) := by
  obtain ⟨_, hw', hr, behind⟩ := placed.passing j r call loop
  cases hw.symm.trans hw'
  have same : t.worker.partition = w.partition ∧ t.worker.cancelled = w.cancelled ∧
      t.worker.batcher = w.batcher ∧ t.worker.intakeOpen = w.intakeOpen := by
    rcases move.worker_eq with ⟨-, -, -, -, worker⟩ | ⟨-, worker⟩ <;> rw [worker] <;> simp
  obtain ⟨partition, cancelled, batcher, intakeOpen⟩ := same
  have here := callOn_self loop
  have cached : w.partition = p →
      ∀ n, Station.committed ⟨c.manager, w⟩ = some n → log.Covered start done n := by
    rintro rfl
    exact h.cached
  have serving : w.partition = p → c.Serves p j :=
    fun own => .inr ⟨r, call, loop, hr.symm.trans own⟩
  refine h.station hw rfl rfl ?_ ?_ partition ?_ ?_ ?_ ?_ ?_
  · rintro i (found | ⟨q, d, ⟨rfl, rfl, rfl⟩, hq⟩)
    · exact .inl found
    · exact .inr ⟨_, _, loop, hq⟩
  · intro i hij
    rw [callOn_of_ne loop hij.symm]
    exact callOn_of_ne rfl hij.symm
  · by_cases own : w.partition = p
    · intro n hn
      rw [← own, ← partition] at hn
      exact cached own n ((move.committed_eq).symm.trans hn)
    · refine h.cached_of_shares move.shares ?_
      rintro q op (⟨rfl, -⟩ | ⟨rfl, -⟩)
      · exact hr ▸ own
      · exact own
  · exact MarksOnly.intake_move h.cached move
  · -- What is admitted comes from the front of this very worker.
    intro own
    refine (h.sound j w hw own).intake_move ?_ (fun hc live alive accepting => ?_) move
    · rintro rfl
      exact behind trivial
    · subst hc
      have front := h.front j w (serving own) hw live alive accepting
      obtain ⟨mem, -, -, known⟩ := front.carried r _ here trivial (by simp)
      exact ⟨mem, known⟩
  · intro serves live alive accepting
    have own := placed.partition_of_serves serves hw
    rw [cancelled] at live
    rw [batcher] at alive
    rw [intakeOpen] at accepting
    have front := h.front j w serves hw live alive accepting
    rw [here] at front
    rw [callOn_self (c := { c.setStation j t with loop := some (.enqueuing j r next) }) rfl]
    exact front.intake_move own willing.forgiven (h.sound j w hw own) (cached own) live alive
      accepting move
  · -- Whoever else takes records of the partition, this call is about another one: it may pause.
    intro i v hij serves hv front
    have other : w.partition ≠ p := fun own =>
      hij (placed.eq_of_serves loop (hr.symm.trans own) serves)
    refine front.others (placed.partition_of_serves serves hv) willing move.shares ?_
    rintro op (⟨hp, -⟩ | ⟨hp, -⟩)
    · exact absurd (hr.trans hp.symm) other
    · exact absurd hp.symm other

end Move

/-! ## The consumer moves -/

theorem subsided (h : Answerable log start done c feed) (subsided : Subsided c d) :
    Answerable log start done d feed where
  cached := by
    rw [subsided.manager]
    exact h.cached
  stored := h.stored
  committed := h.committed
  sound i w hw own := by
    obtain ⟨v, hv, rfl | rfl | rfl⟩ := subsided.worker hw
    · exact h.sound i w hv own
    · exact (h.sound i v hv own).cancel
    · exact (h.sound i v hv own).closeIntake
  front i w serves hw live alive accepting := by
    have served : c.Serves p i := by
      rcases serves with found | ⟨r, call, loop, hr⟩
      · exact .inl (subsided.found found)
      · exact .inr ⟨r, call, subsided.loop.symm.trans loop, hr⟩
    have calls : d.callOn i = c.callOn i := by rw [callOn, callOn, subsided.loop]
    rw [subsided.manager, calls]
    obtain ⟨v, hv, rfl | rfl | rfl⟩ := subsided.worker hw
    · exact h.front i w served hv live alive accepting
    · cases live
    · cases accepting

/-- The loop goes on without a record, having none or being done with it. -/
theorem turn (h : Answerable log start done c feed)
    (finished : ∀ i r call, c.loop = some (.enqueuing i r call) → call.isOver = true)
    {next : PollLoop} (free : ∀ i r call, next ≠ .enqueuing i r call) :
    Answerable log start done { c with loop := some next } feed where
  cached := h.cached
  stored := h.stored
  committed := h.committed
  sound := h.sound
  front i w serves hw live alive accepting := by
    have served : c.Serves p i := by
      rcases serves with found | ⟨r, call, loop, -⟩
      · exact .inl found
      · exact absurd (Option.some.inj loop) (free i r call)
    have calls : callOn { c with loop := some next } i = none :=
      callOn_eq_none fun r call loop => free i r call (Option.some.inj loop)
    rw [calls]
    refine (h.front i w served hw live alive accepting).forget fun r call hc => ?_
    exact Intake.not_carries_of_isOver (finished i r call (loop_of_callOn hc))

/-- Nobody takes the records of the partition, wherever the feed stands. -/
theorem unserved (h : Answerable log start done c feed) (nobody : ∀ i, ¬ c.Serves p i)
    {r : Record} : Answerable log start done c (feed.past r) where
  cached := h.cached
  stored := h.stored
  committed := h.committed
  sound := h.sound
  front i _ serves := absurd serves (nobody i)

/-- The record that is fed next is passed on to the worker that takes the records of the partition.
-/
theorem polled (h : Answerable log start done c feed) (polling : c.loop = some .polling)
    {r : Record} {i : Nat} (found : c.workerOf? r.partition = some i) (hr : r.partition = p)
    (feeds : feed.Feeds log r) :
    Answerable log start done { c with loop := some (.enqueuing i r .checkingStatus) }
      (feed.past r) where
  cached := h.cached
  stored := h.stored
  committed := h.committed
  sound := h.sound
  front j w serves hw live alive accepting := by
    obtain rfl : j = i := by
      rcases serves with other | ⟨q, call, loop, -⟩
      · exact Option.some.inj (other.symm.trans (hr ▸ found))
      · cases loop
        rfl
    have idle : c.callOn j = none := callOn_eq_none (by simp [polling])
    have front := h.front j w (.inl (hr ▸ found)) hw live alive accepting
    rw [idle] at front
    rw [callOn_self (c := { c with loop := some (.enqueuing j r .checkingStatus) }) rfl]
    exact front.poll feeds (by simp)

/-- A record of another partition is passed on. -/
theorem polled_of_ne (h : Answerable log start done c feed) (placed : c.Placed)
    (polling : c.loop = some .polling) {r : Record} {i : Nat}
    (found : c.workerOf? r.partition = some i) (hr : r.partition ≠ p) :
    Answerable log start done { c with loop := some (.enqueuing i r .checkingStatus) } feed where
  cached := h.cached
  stored := h.stored
  committed := h.committed
  sound := h.sound
  front j w serves hw live alive accepting := by
    have served : c.Serves p j := by
      rcases serves with found | ⟨q, call, loop, hq⟩
      · exact .inl found
      · cases loop
        exact absurd hq hr
    have hij : i ≠ j := by
      rintro rfl
      exact hr ((placed.partition_of_serves (.inl found) hw).symm.trans
        (placed.partition_of_serves served hw))
    have idle : c.callOn j = none := callOn_eq_none (by simp [polling])
    have front := h.front j w served hw live alive accepting
    rw [idle] at front
    rw [callOn_of_ne (c := { c with loop := some (.enqueuing i r .checkingStatus) }) rfl hij]
    exact front

/-- The broker hands out partitions. If it begins to feed this one anew, everything before the
committed position is done with, whoever takes the records; otherwise a worker that starts is not
one of this partition. -/
theorem reassigned {ps : List TopicPartition} {wanted : TopicPartition → BatchSettings → Prop}
    (h : Answerable log start done c feed) (placed : c.Placed) (polling : c.loop = some .polling)
    (reassigned : Reassigned wanted c d)
    (asked : ∀ settings, wanted p settings → p ∈ ps)
    (served : feed.isOpen = true → c.workerOf? p = none → d.workerOf? p = none)
    (unpaused : p ∈ ps → feed.isOpen = false → (c.manager.state p).pausedAt = none) :
    Answerable log start done d (feed.handOut p ps) where
  cached := by
    rw [(reassigned.state p).2]
    exact h.cached
  stored := by
    unfold Feed.handOut
    split
    · split <;> exact h.stored
    · exact h.stored
  committed := by
    unfold Feed.handOut
    split
    · split <;> exact h.committed
    · exact h.committed
  sound i w hw own := by
    rcases reassigned.workers w (List.mem_of_getElem? hw) with old | ⟨q, settings, rfl | rfl⟩
    · obtain ⟨k, hk⟩ := List.getElem?_of_mem old
      exact h.sound k w hk own
    · obtain rfl : q = p := own
      exact Worker.Sound.fresh settings
    · obtain rfl : q = p := own
      exact (Worker.Sound.fresh settings).closeIntake
  front i w serves hw live alive accepting := by
    have polls : ∀ r call, d.loop ≠ some (.enqueuing i r call) := by
      simp [reassigned.loop.trans polling]
    have found : d.workerOf? p = some i := by
      rcases serves with found | ⟨r, call, loop, -⟩
      · exact found
      · exact absurd loop (polls r call)
    have idle : c.callOn i = none := callOn_eq_none (by simp [polling])
    rw [callOn_eq_none polls]
    by_cases anew : p ∈ ps ∧ feed.isOpen = false
    · -- Whoever takes the records from now on, the feed begins at the committed position.
      have begins : feed.handOut p ps =
          { feed with isOpen := true, position := feed.committed, paused := false } := by
        rw [Feed.handOut, if_pos anew.1, anew.2]
        rfl
      have own : w.partition = p := by
        rcases reassigned.registry p i (mem_of_lookup found) with old | ⟨settings, fresh⟩
        · obtain ⟨v, hv, same⟩ := placed.registered p i old
          cases hw.symm.trans (reassigned.worker i v hv)
          exact same
        · cases hw.symm.trans fresh
          rfl
      rw [begins]
      refine .opening ?_ h.committed (by simp)
      rw [Station.pausedAt, own, (reassigned.state p).1]
      exact unpaused anew.1 anew.2
    · -- The feed goes on where it was, so that its worker has to be the one that it had.
      have position : (feed.handOut p ps).position = feed.position ∧
          (feed.handOut p ps).paused = feed.paused := by
        unfold Feed.handOut
        split
        · next mem =>
          split
          · exact ⟨rfl, rfl⟩
          · next shut => exact absurd ⟨mem, by simpa using shut⟩ anew
        · exact ⟨rfl, rfl⟩
      have old : c.workerOf? p = some i := by
        rcases reassigned.found p i found with old | ⟨lacking, settings, want, -⟩
        · exact old
        · have isOpen : feed.isOpen = true := by
            cases ho : feed.isOpen with
            | true => rfl
            | false => exact absurd ⟨asked settings want, ho⟩ anew
          cases (served isOpen lacking).symm.trans found
      obtain ⟨v, hv, own⟩ := placed.found old
      cases hw.symm.trans (reassigned.worker i v hv)
      have front := h.front i w (.inl old) hv live alive accepting
      rw [idle] at front
      have moved : Front log start done feed ⟨d.manager, w⟩ none :=
        front.worker_change (reassigned.state w.partition).1 id fun _ => id
      exact moved.feed_change position.1 position.2

/-- What is committed again, and what is taken away, leaves the fronts as they are. -/
theorem revoked {m : Manager} {moments : List Moment} {fed : Feed}
    (h : Answerable log start done c feed) (state : ∀ q, m.state q = c.manager.state q)
    (commits : ∀ call answered, .event (.call call answered) ∈ moments →
      ∃ q n, call = .commit ⟨q, n⟩ ∧ (c.manager.state q).committed = some n)
    (position : fed.position = (feed.hearAll p moments).position)
    (paused : fed.paused = (feed.hearAll p moments).paused)
    (stored : fed.stored = (feed.hearAll p moments).stored)
    (committed : fed.committed = (feed.hearAll p moments).committed) :
    Answerable log start done { c with manager := m } fed := by
  have marks : ∀ moment ∈ moments, ∀ n, moment.Marks p n → log.Covered start done n := by
    rintro moment hm n ⟨answered, rfl | rfl⟩
    · obtain ⟨q, k, same, -⟩ := commits _ _ hm
      cases same
    · obtain ⟨q, k, same, cached⟩ := commits _ _ hm
      cases same
      exact h.cached n cached
  have still := feed.hearAll_of_marks p fun call answered hm => by
    obtain ⟨q, n, same, -⟩ := commits call answered hm
    exact ⟨_, .inr same⟩
  have known := feed.marked_hearAll marks h.stored h.committed
  refine ⟨by rw [state p]; exact h.cached, stored ▸ known.1, committed ▸ known.2, h.sound, ?_⟩
  intro i w serves hw live alive accepting
  have moved : Front log start done feed ⟨m, w⟩ (c.callOn i) :=
    (h.front i w serves hw live alive accepting).worker_change
      (congrArg PartitionState.pausedAt (state w.partition)) id fun _ => id
  exact moved.feed_change (position.trans still.1) (paused.trans still.2)

theorem flush (h : Answerable log start done c feed) :
    Answerable log start done c { feed with committed := feed.stored.getD feed.committed } where
  cached := h.cached
  stored := h.stored
  committed := by
    cases hs : feed.stored with
    | none => exact h.committed
    | some n => exact h.stored n hs
  sound := h.sound
  front i w serves hw live alive accepting :=
    (h.front i w serves hw live alive accepting).feed_change rfl rfl

end Answerable

end TopicConsumer.Consumer
