import TopicConsumer.Proofs.Consumer.Answerable

/-!
# At-least-once delivery across a handover

A partition may be taken away and given back while its earlier worker is still being closed.
`Service.backed_of_afresh` says that even then no position of the partition is stored or committed
before every record up to it was handled by some worker, provided that the partition is not paused
whenever the broker begins to feed it anew. It holds for every order of steps, for all endings of
handlers, for workers that are closed before they are drained, and while the consumer is shut down.
-/

namespace TopicConsumer

namespace Consumer

variable {env : Surroundings} {c d : Consumer} {events : List ConsumerEvent}

theorem Placed.windsDown (h : c.Placed) (winds : WindsDown env c d events) : d.Placed := by
  cases winds with
  | subsided subsided => exact h.subsided subsided
  | closed worker move =>
    refine h.station worker ?_ ?_ <;> rw [move.worker_eq.1]

namespace Answerable

variable {p : TopicPartition} {log : PartitionLog p} {start : Offset} {done : Record → Prop}
  {feed : Feed}

theorem windsDown (h : Answerable log start done c feed) (placed : c.Placed)
    (willing : env.answers.Willing) (winds : WindsDown env c d events) :
    Answerable log start done d (feed.hearAll p (ConsumerEvent.moments events)) := by
  cases winds with
  | subsided subsided quiet =>
    rw [quiet.hearAll]
    exact h.subsided subsided
  | closed worker move =>
    rw [ConsumerEvent.moments_map_work]
    exact h.disposal placed willing worker move

/-- What is marked while the consumer winds down has nothing but done records before it. -/
theorem marks_windsDown (h : Answerable log start done c feed) (winds : WindsDown env c d events) :
    ∀ m ∈ ConsumerEvent.moments events, ∀ n, m.Marks p n → log.Covered start done n := by
  cases winds with
  | subsided _ quiet => exact quiet.marks
  | closed worker move =>
    rw [ConsumerEvent.moments_map_work]
    exact (MarksOnly.disposal_move h.cached move).of_mem

end Answerable

end Consumer

namespace Service

variable {profile : ConsumerProfile} {p : TopicPartition} {log : PartitionLog p} {start : Offset}
  {history moments : List Moment} {v w : Service} {env : Surroundings}

/-- What holds in every run. -/
structure Faithful (profile : ConsumerProfile) (log : PartitionLog p) (start : Offset)
    (history : List Moment) (v : Service) : Prop where
  placed : v.consumer.Placed
  backed : Backed log start history
  answers : v.consumer.Answerable log start (HandledIn history) v.feed
  /-- A partition that is handed out has a worker. -/
  served : v.feed.isOpen = true → v.consumer.disposed = false →
    (∀ text, v.consumer.loop ≠ some (.crashed text)) →
      ∀ settings, profile.routing p.topic = some settings → (v.consumer.workerOf? p).isSome = true
  claimed : ∀ s, Closing.shuttingDown s ∈ v.closings → s = .claiming ∨ v.consumer.disposed = true

namespace Faithful

/-- A move that neither hands the partition out nor starts a worker. -/
theorem moved {c : Consumer} {closings : List Closing} {feed : Feed}
    (h : Faithful profile log start history v) (placed : c.Placed)
    (answers : c.Answerable log start (HandledIn (history ++ moments)) feed)
    (marks : ∀ m ∈ moments, ∀ n, m.Marks p n → log.Covered start (HandledIn history) n)
    (isOpen : feed.isOpen = true → v.feed.isOpen = true)
    (registry : c.registry = v.consumer.registry ∨ c.registry = [] ∧ c.disposed = true)
    (disposed : v.consumer.disposed = true → c.disposed = true)
    (loop : (∃ text, v.consumer.loop = some (.crashed text)) →
      ∃ text, c.loop = some (.crashed text))
    (claims : ∀ s, Closing.shuttingDown s ∈ closings →
      Closing.shuttingDown s ∈ v.closings ∨ s = .claiming ∨ c.disposed = true) :
    Faithful profile log start (history ++ moments) ⟨c, closings, feed⟩ where
  placed := placed
  backed := h.backed.append marks
  answers := answers
  served open_ live alive settings routed := by
    rcases registry with same | ⟨-, gone⟩
    · have before : v.consumer.disposed = false :=
        Bool.eq_false_iff.mpr (mt disposed (Bool.eq_false_iff.mp live))
      have ongoing : ∀ text, v.consumer.loop ≠ some (.crashed text) := by
        intro text crashed
        obtain ⟨text, crashed⟩ := loop ⟨text, crashed⟩
        exact alive text crashed
      rw [Consumer.workerOf?, same]
      exact h.served (isOpen open_) before ongoing settings routed
    · cases live.symm.trans gone
  claimed s hs := by
    rcases claims s hs with old | fine
    · exact (h.claimed s old).imp_right disposed
    · exact fine

/-- The loop turns without a record. -/
theorem turn {loop next : PollLoop} {events : List ConsumerEvent}
    (h : Faithful profile log start history v) (place : v.consumer.loop = some loop)
    (before : loop.Free) (alive : loop.isOver = false) (after : next.Free)
    (quiet : ConsumerEvent.Quiet events) :
    Faithful profile log start (history ++ ConsumerEvent.moments events)
      { v with consumer := turnTo v.consumer next } := by
  have finished : ∀ i r call, v.consumer.loop = some (.enqueuing i r call) → call.isOver = true :=
    fun i r call passes =>
      absurd (Option.some.inj (place.symm.trans passes)) (before.passes i r call)
  refine h.moved (h.placed.turn after) ?_ quiet.marks id (.inl rfl) id ?_ fun _ => .inl
  · exact (h.answers.turn finished after.passes).mono (HandledIn.append _ _)
  · rintro ⟨text, crashed⟩
    rw [Option.some.inj (place.symm.trans crashed)] at alive
    cases alive

/-- The call of the loop makes a move, with which it may be over. -/
theorem pass {i : Nat} {r : Record} {call next : Intake} {worker : Worker} {s : Station}
    {events : List Event} (h : Faithful profile log start history v)
    (willing : env.answers.Willing) (place : v.consumer.loop = some (.enqueuing i r call))
    (found : v.consumer.workers[i]? = some worker)
    (move : Intake.Move env r ⟨v.consumer.manager, worker⟩ call s next events) :
    let (loop, more) := PollLoop.ofIntake i r next
    Faithful profile log start (history ++ ConsumerEvent.moments (events.map .work ++ more))
      (v.heard p (turnTo (v.consumer.setStation i s) loop)
        (ConsumerEvent.moments (events.map .work ++ more))) := by
  have placed := h.placed.intake place found move
  have answers := h.answers.intake h.placed willing place found move
  have marks := (MarksOnly.intake_move h.answers.cached move).of_mem
  have alive : ¬ ∃ text, v.consumer.loop = some (.crashed text) := by
    rintro ⟨text, crashed⟩
    cases place.symm.trans crashed
  rcases PollLoop.ofIntake_spec i r next with ⟨-, goesOn⟩ | ⟨finished, free, quiet⟩
  · rw [goesOn]
    simp only [List.append_nil, ConsumerEvent.moments_map_work]
    exact h.moved placed (answers.mono (HandledIn.append _ _)) marks
      (v.feed.isOpen_hearAll _).symm.trans (.inl rfl) id (fun crashed => absurd crashed alive)
      fun _ => .inl
  · have done := answers.turn (by rintro _ _ _ ⟨rfl, rfl, rfl⟩; exact finished) free.passes
    simp only [ConsumerEvent.moments_append, ConsumerEvent.moments_map_work, heard,
      Feed.hearAll_append, quiet.hearAll]
    refine h.moved (placed.turn free) (done.mono (HandledIn.append _ _)) (fun m hm => ?_)
      (v.feed.isOpen_hearAll _).symm.trans (.inl rfl) id (fun crashed => absurd crashed alive)
      fun _ => .inl
    rcases List.mem_append.mp hm with hm | hm
    · exact marks m hm
    · exact quiet.marks m hm

theorem windsDown {c : Consumer} {closings : List Closing} {events : List ConsumerEvent}
    (h : Faithful profile log start history v) (willing : env.answers.Willing)
    (winds : Consumer.WindsDown env v.consumer c events)
    (claims : ∀ s, Closing.shuttingDown s ∈ closings →
      Closing.shuttingDown s ∈ v.closings ∨ s = .claiming ∨ c.disposed = true) :
    Faithful profile log start (history ++ ConsumerEvent.moments events)
      ⟨c, closings, v.feed.hearAll p (ConsumerEvent.moments events)⟩ := by
  obtain ⟨loop, registry, disposed⟩ := winds.rest
  have answers := h.answers.windsDown h.placed willing winds
  refine h.moved (h.placed.windsDown winds) (answers.mono (HandledIn.append _ _))
    (h.answers.marks_windsDown winds) (v.feed.isOpen_hearAll _).symm.trans registry disposed ?_
    claims
  rw [loop]
  exact id

/-- Something is logged. -/
theorem quietly {closings : List Closing} {events : List ConsumerEvent}
    (h : Faithful profile log start history v) (willing : env.answers.Willing)
    (quiet : ConsumerEvent.Quiet events)
    (claims : ∀ s, Closing.shuttingDown s ∈ closings →
      Closing.shuttingDown s ∈ v.closings ∨ s = .claiming ∨ v.consumer.disposed = true) :
    Faithful profile log start (history ++ ConsumerEvent.moments events)
      { v with closings := closings } := by
  have logged := h.windsDown willing (.subsided (.refl _) quiet) claims
  rwa [quiet.hearAll] at logged

/-- A shutdown that has disposed of the consumer goes on. -/
theorem shut {s : Shutdown} (h : Faithful profile log start history v)
    (place : v.consumer.loop = some (.shuttingDown s)) (disposed : v.consumer.disposed = true)
    (t : Shutdown) :
    Faithful profile log start history
      { v with consumer := turnTo v.consumer (.ofShutdown t) } where
  placed := h.placed.shut disposed t
  backed := h.backed
  answers := by
    refine h.answers.turn (by simp [place]) fun i r call => ?_
    cases t <;> simp [PollLoop.ofShutdown]
  served _ live := by cases live.symm.trans disposed
  claimed := h.claimed

theorem loop {loop next : PollLoop} {c : Consumer} {events : List ConsumerEvent}
    (h : Faithful profile log start history v) (willing : env.answers.Willing)
    (place : v.consumer.loop = some loop)
    (move : PollLoop.Move env profile v.consumer loop c next events) :
    Faithful profile log start (history ++ ConsumerEvent.moments events)
      (v.heard p (turnTo c next) (ConsumerEvent.moments events)) := by
  cases move with
  | turned before alive after quiet =>
    rw [heard, quiet.hearAll]
    exact h.turn place before alive after quiet
  | passed found move => exact h.pass willing place found move
  | @shut s t _ _ step =>
    obtain ⟨disposed, winds⟩ := Shutdown.step_spec step (h.placed.claimed s place)
    exact (h.windsDown willing winds fun _ => .inl).shut (winds.rest.1.trans place) disposed t

theorem polled (h : Faithful profile log start history v)
    (polling : v.consumer.loop = some .polling) (result : PollResult)
    (may : v.May log (.polled result)) :
    Faithful profile log start
      (history ++ ConsumerEvent.moments (PollLoop.polled v.consumer result).2)
      ⟨turnTo v.consumer (PollLoop.polled v.consumer result).1, v.closings,
        v.feed.polled p result⟩ := by
  have isOpen : (v.feed.polled p result).isOpen = true → v.feed.isOpen = true := by
    unfold Feed.polled
    split
    · split <;> exact id
    · exact id
  have alive : ¬ ∃ text, v.consumer.loop = some (.crashed text) := by
    rintro ⟨text, crashed⟩
    cases polling.symm.trans crashed
  rcases PollLoop.polled_spec v.consumer result with
    ⟨r, i, rfl, found, passes⟩ | ⟨free, quiet, lost⟩
  · rw [passes]
    refine h.moved (h.placed.polled found) ?_ (by simp [ConsumerEvent.moments]) isOpen (.inl rfl) id
      (fun crashed => absurd crashed alive) fun _ => .inl
    -- Only a record of this partition moves the feed.
    rw [Feed.polled]
    split
    · next hr => exact (h.answers.polled polling found hr (may hr)).mono (HandledIn.append _ _)
    · next hr =>
      exact (h.answers.polled_of_ne h.placed polling found hr).mono (HandledIn.append _ _)
  · have turned := h.answers.turn
      (by simp [polling]) free.passes
    have fed : (turnTo v.consumer (PollLoop.polled v.consumer result).1).Answerable log start
        (HandledIn history) (v.feed.polled p result) := by
      unfold Feed.polled
      split
      · next r =>
        split
        · next hr =>
          refine turned.unserved fun i serves => ?_
          rcases serves with found | ⟨q, call, loop, -⟩
          · cases (hr ▸ lost r rfl).symm.trans found
          · exact free.passes i q call (Option.some.inj loop)
        · exact turned
      · exact turned
    exact h.moved (h.placed.turn free) (fed.mono (HandledIn.append _ _)) quiet.marks isOpen
      (.inl rfl) id (fun crashed => absurd crashed alive) fun _ => .inl

/-- The broker hands out partitions, and if it begins to feed this one anew, it is not paused. -/
theorem assign (h : Faithful profile log start history v)
    (polling : v.consumer.loop = some .polling) (ps : List TopicPartition)
    (afresh : v.AfreshOnly p (.assign ps)) :
    let (c, events, crash) := v.consumer.assign env profile true ps
    Faithful profile log start (history ++ ConsumerEvent.moments events)
      ⟨rebalanced c crash, v.closings, v.feed.handOut p ps⟩ := by
  obtain ⟨reassigned, quiet, ignored, complete⟩ :=
    Consumer.reassigned_assign env v.consumer profile ps
  generalize v.consumer.assign env profile true ps = outcome at *
  obtain ⟨c, events, crash⟩ := outcome
  have stays : c.loop = some .polling := reassigned.loop.trans polling
  have alive : ∀ text, v.consumer.loop ≠ some (.crashed text) := by simp [polling]
  -- A partition that is fed already has its worker, so that none is started for it.
  have lacks : v.feed.isOpen = true → v.consumer.workerOf? p = none → c.workerOf? p = none := by
    intro isOpen lacking
    cases hd : v.consumer.disposed with
    | true =>
      have same : c = v.consumer := ignored hd
      rw [same]
      exact lacking
    | false =>
      cases found : c.workerOf? p with
      | none => rfl
      | some i =>
        rcases reassigned.found p i found with old | ⟨-, settings, want, -⟩
        · cases lacking.symm.trans old
        · have present := h.served isOpen hd alive settings want.2
          rw [lacking] at present
          cases present
  have answers := (h.answers.reassigned h.placed polling reassigned (fun _ want => want.1) lacks
    fun mem shut => afresh ⟨mem, shut⟩).mono (HandledIn.append _ (ConsumerEvent.moments events))
  have placed := h.placed.reassigned polling reassigned
  have claimed : ∀ s, Closing.shuttingDown s ∈ v.closings → s = .claiming ∨ c.disposed = true := by
    rw [reassigned.disposed]
    exact h.claimed
  have backed := h.backed.append (quiet.marks (p := p))
  cases crash with
  | none =>
    refine ⟨placed, backed, answers, fun isOpen live _ settings routed => ?_, claimed⟩
    have mem : p ∈ ps := by
      by_cases mem : p ∈ ps
      · exact mem
      · rw [Feed.handOut, if_neg mem] at isOpen
        cases isOpen
    exact complete (reassigned.disposed.symm.trans live) rfl p mem settings routed
  | some text =>
    have passes : ∀ i r call, PollLoop.crashed text ≠ .enqueuing i r call := by simp
    have turned := answers.turn (by simp [stays]) passes
    exact ⟨placed.turn trivial, backed, turned,
      fun _ _ going => absurd rfl (going text), claimed⟩

theorem revoke (h : Faithful profile log start history v)
    (polling : v.consumer.loop = some .polling) (ps : List TopicPartition) :
    let (c, events, crash) := Consumer.revoke env ps v.consumer
    Faithful profile log start (history ++ ConsumerEvent.moments events)
      ⟨rebalanced c crash, v.closings,
        (v.feed.hearAll p (ConsumerEvent.moments events)).takeBack p ps⟩ := by
  obtain ⟨m, heq, state, commits⟩ := Consumer.revoke_spec env v.consumer ps
  generalize Consumer.revoke env ps v.consumer = outcome at *
  obtain ⟨c, events, crash⟩ := outcome
  obtain rfl : c = { v.consumer with manager := m } := heq
  -- The feed keeps its place when it is shut: the worker may still resume the partition.
  have fed : ∀ feed : Feed, (feed.takeBack p ps).position = feed.position ∧
      (feed.takeBack p ps).paused = feed.paused ∧ (feed.takeBack p ps).stored = feed.stored ∧
        (feed.takeBack p ps).committed = feed.committed ∧
          ((feed.takeBack p ps).isOpen = true → feed.isOpen = true) := by
    intro feed
    unfold Feed.takeBack
    split <;> simp
  have commits : ∀ call answered, .event (.call call answered) ∈ ConsumerEvent.moments events →
      ∃ q n, call = .commit ⟨q, n⟩ ∧ (v.consumer.manager.state q).committed = some n :=
    fun call answered mem => commits call answered (ConsumerEvent.event_mem_moments.mp mem)
  obtain ⟨position, paused, stored, committed, isOpen⟩ :=
    fed (v.feed.hearAll p (ConsumerEvent.moments events))
  rw [Feed.isOpen_hearAll] at isOpen
  have answers := h.answers.revoked state commits position paused stored committed
  have placed : Consumer.Placed { v.consumer with manager := m } :=
    ⟨h.placed.registered, h.placed.passing, h.placed.sole, h.placed.claimed⟩
  have alive : ¬ ∃ text, v.consumer.loop = some (.crashed text) := by
    rintro ⟨text, crashed⟩
    cases polling.symm.trans crashed
  have marks : ∀ m ∈ ConsumerEvent.moments events, ∀ n, m.Marks p n →
      log.Covered start (HandledIn history) n := by
    rintro moment mem n ⟨answered, rfl | rfl⟩
    · obtain ⟨q, k, same, -⟩ := commits _ _ mem
      cases same
    · obtain ⟨q, k, same, cached⟩ := commits _ _ mem
      cases same
      exact h.answers.cached n cached
  cases crash with
  | none =>
    exact h.moved placed (answers.mono (HandledIn.append _ _)) marks isOpen (.inl rfl) id id
      fun _ => .inl
  | some text =>
    have passes : ∀ i r call, PollLoop.crashed text ≠ .enqueuing i r call := by simp
    have turned := answers.turn (by simp [polling]) passes
    exact h.moved (placed.turn trivial) (turned.mono (HandledIn.append _ _)) marks isOpen
      (.inl rfl) id (fun crashed => absurd crashed alive) fun _ => .inl

theorem batch {i : Nat} {worker : Worker} {s : Station} {events : List Event}
    (h : Faithful profile log start history v) (willing : env.answers.Willing)
    (found : v.consumer.workers[i]? = some worker)
    (move : Batcher.Move env ⟨v.consumer.manager, worker⟩ s events) :
    Faithful profile log start (history ++ events.map .event)
      (v.heard p (v.consumer.setStation i s) (events.map .event)) := by
  have worker := move.worker_eq
  have stored := fun own => (h.answers.sound i _ found own).storing
  refine h.moved (h.placed.station found (by rw [worker]) (by rw [worker])) ?_
    (MarksOnly.batcher_move h.answers.cached stored move).of_mem
    (v.feed.isOpen_hearAll _).symm.trans (.inl rfl) id id fun _ => .inl
  exact (h.answers.batch h.placed willing found move).mono (HandledIn.append _ _)

theorem handler {i : Nat} {worker : Worker} {s : Station} {ending : Batcher.Ending}
    {events : List Event} (h : Faithful profile log start history v)
    (found : v.consumer.workers[i]? = some worker)
    (ends : Batcher.Ends env ⟨v.consumer.manager, worker⟩ ending s events) :
    Faithful profile log start
      (history ++ (Moment.ofEnding worker.batcher.batch ending ++ events.map .event))
      (v.heard p (v.consumer.setStation i s)
        (Moment.ofEnding worker.batcher.batch ending ++ events.map .event)) := by
  have handled : ending = .handled → ∀ r ∈ worker.batcher.batch, HandledIn
      (history ++ (Moment.ofEnding worker.batcher.batch ending ++ events.map .event)) r := by
    rintro rfl r hr
    exact ⟨_, by simp [Moment.ofEnding], hr⟩
  have same := ends.worker_eq
  have answers := h.answers.handler found (HandledIn.append _ _) handled ends
  refine h.moved (h.placed.station found (by rw [same]) (by rw [same])) ?_ ?_
    (v.feed.isOpen_hearAll _).symm.trans (.inl rfl) id id fun _ => .inl
  · rw [Feed.hearAll_append, Feed.hearAll_of_silent _ _ fun _ _ => Moment.event_notMem_ofEnding]
    exact answers
  · rintro m hm n ⟨answered, rfl | rfl⟩ <;> rcases List.mem_append.mp hm with hm | hm
    · exact absurd hm Moment.event_notMem_ofEnding
    · exact absurd (by simpa using hm) (ends.silent _ _)
    · exact absurd hm Moment.event_notMem_ofEnding
    · exact absurd (by simpa using hm) (ends.silent _ _)

/-- Something changes that is of no account for the workers. -/
theorem aside {c : Consumer} (h : Faithful profile log start history v)
    (subsided : Consumer.Subsided v.consumer c) :
    Faithful profile log start history { v with consumer := c } := by
  refine ⟨h.placed.subsided subsided, h.backed, h.answers.subsided subsided, ?_, fun s hs => ?_⟩
  · rcases subsided.registry with same | ⟨-, gone⟩
    · intro isOpen live alive
      rw [subsided.loop] at alive
      rw [Consumer.workerOf?, same]
      have before : v.consumer.disposed = false :=
        Bool.eq_false_iff.mpr (mt subsided.disposed (Bool.eq_false_iff.mp live))
      exact h.served isOpen before alive
    · intro _ live
      cases live.symm.trans gone
  · exact (h.claimed s hs).imp_right subsided.disposed

theorem flush (h : Faithful profile log start history v) :
    Faithful profile log start history { v with feed := v.feed.flush } :=
  ⟨h.placed, h.backed, h.answers.flush, h.served, h.claimed⟩

/-- Every move keeps the service faithful, as long as the partition is not paused when the broker
begins to feed it anew. -/
theorem step {act : Act} (h : Faithful profile log start history v) (willing : env.answers.Willing)
    (may : v.May log act) (afresh : v.AfreshOnly p act)
    (step : v.step p profile env act = some (w, moments)) :
    Faithful profile log start (history ++ moments) w := by
  cases move_of_step step with
  | loop place move => exact h.loop willing place move
  | polled polling => exact h.polled polling _ may
  | @decided _ decision deciding =>
    obtain ⟨free, quiet⟩ := PollLoop.decided_spec decision
    exact h.turn deciding trivial rfl free quiet
  | notified place quiet =>
    have disposed := (h.placed.claimed _ place).resolve_left (by simp)
    exact (h.quietly willing quiet fun _ => .inl).shut place disposed .finishing
  | assign polling => exact h.assign polling _ afresh
  | revoke polling => exact h.revoke polling _
  | batch present move => exact h.batch willing present move
  | handler present ends => exact h.handler present ends
  | removal call present move =>
    have closed := h.windsDown willing (.closed present move) fun _ => .inl
    rw [ConsumerEvent.moments_map_work] at closed
    exact closed.aside ⟨rfl, rfl, fun _ => .inl rfl, .inl rfl, id⟩
  | stop =>
    rw [List.append_nil]
    exact h.aside ⟨rfl, rfl, fun _ => .inl rfl, .inl rfl, id⟩
  | close =>
    rw [List.append_nil]
    refine ⟨h.placed, h.backed, h.answers, h.served, fun s hs => h.claimed s ?_⟩
    simpa using hs
  | closing found move =>
    obtain ⟨claims, winds⟩ := Closing.step_spec move fun s hs =>
      h.claimed s (hs ▸ List.mem_of_getElem? found)
    refine h.windsDown willing winds fun s hs => ?_
    rcases List.mem_or_eq_of_mem_set hs with hs | hs
    · exact .inl hs
    · exact .inr (claims s hs.symm)
  | closingNotified found quiet =>
    have disposed := (h.claimed _ (List.mem_of_getElem? found)).resolve_left (by simp)
    refine h.quietly willing quiet fun s hs => ?_
    rcases List.mem_or_eq_of_mem_set hs with hs | hs
    · exact .inl hs
    · exact .inr (.inr disposed)
  | flush =>
    rw [List.append_nil]
    exact h.flush

theorem opened (profile : ConsumerProfile) (log : PartitionLog p) (start : Offset) :
    Faithful profile log start [] (opened profile start) where
  placed := {
    registered := fun _ _ h => by cases h
    passing := fun _ _ _ h => by cases h
    sole := fun _ _ _ h => by cases h
    claimed := fun _ h => by cases h }
  backed := backed_nil log start
  answers := {
    cached := fun _ h => by cases h
    stored := fun _ h => by cases h
    committed := PartitionLog.covered_start
    sound := fun _ _ h => by cases h
    front := fun _ _ _ h => by cases h }
  served := fun h => by cases h
  claimed := fun _ h => by cases h

end Faithful

/-- In every run of a consumer in which a partition is not paused whenever the broker begins to feed
it anew, no position of the partition is stored or committed before every record up to it was
handled by some worker. -/
theorem backed_of_afresh
    (run : Run profile log (fun v act => v.AfreshOnly p act) (opened profile start) history v) :
    Backed log start history := by
  -- The registry and the place of the loop are carried along, since they tell whose calls count.
  have faithful : Faithful profile log start history v := by
    induction run with
    | start => exact .opened profile log start
    | step run willing may afresh step ih => exact ih.step willing may afresh step
  exact faithful.backed

/-! ## Schedules -/

/-- The partition is taken away and given back, so that its next worker starts while the one before
is about to be closed. -/
def handover (p : TopicPartition) : List Act := [.revoke [p], .assign [], .assign [p]]

/-- The removed worker drains its queue and is closed. -/
def draining : List Act :=
  List.replicate 2 (.removal 0) ++ List.replicate 12 (.batch 0) ++ List.replicate 6 (.removal 0)

/-- The first worker has admitted two records when the partition is handed over. It handles the
first one, the second worker gets both of them again, and each of them handles what the other has
left. -/
def handedOver (p : TopicPartition) : List (Nat × Act) :=
  let acts := [.loop, .loop, .assign [p]] ++ passing p 1 ++ passing p 2 ++ handover p ++
    handling 0 ++ passing p 1 ++ passing p 2 ++ handling 1 ++ passing p 3 ++ handling 1 ++ draining
  acts.map (0, ·)

theorem handedOver_backed :
    let p : TopicPartition := ⟨"orders", 0⟩
    let played := (opened narrow 1).play p narrow (fun v act => v.afresh p act) 1 9 (handedOver p)
    Backed (.plain p 1 9) 1 played.2 ∧ .event (.call (.commit ⟨p, 4⟩) .done) ∈ played.2 ∧
      played.1.consumer.removals = [(0, .returned)] :=
  ⟨backed_of_afresh (run_play narrow ⟨"orders", 0⟩ 1 9 (fun v _ => v.afreshOnly_of_afresh) _ _),
    by decide +kernel, by decide +kernel⟩

/-- The first worker has admitted two records and paused the partition at the third one when the
partition is handed over. It handles the first record and resumes at the third one, which the second
worker handles. Thereby the second record has become stale, and the first worker leaves it out. -/
def handedOverPaused (p : TopicPartition) : List (Nat × Act) :=
  let early := [.loop, .loop, .assign [p]] ++ passing p 1 ++ passing p 2 ++
    .polled (.ok (some (.record (.bare p 3)))) :: List.replicate 5 .loop
  let late := List.replicate 5 .loop ++ handover p ++ handling 0 ++ passing p 3 ++ handling 1 ++
    draining
  early.map (0, ·) ++ [(10, .loop), (10, .loop)] ++ late.map (20, ·)

/-- Delivery is not at least once across every handover: if the partition is paused when the broker
begins to feed it anew, a record may be committed past that no worker has handled. -/
theorem not_backed_of_paused :
    ¬ ∀ (profile : ConsumerProfile) (p : TopicPartition) (log : PartitionLog p) (start : Offset)
      (history : List Moment) (v : Service),
        Run profile log (fun _ _ => True) (opened profile start) history v →
          Backed log start history := by
  intro all
  let p : TopicPartition := ⟨"orders", 0⟩
  let played := (opened narrow 1).play p narrow (fun _ _ => true) 1 9 (handedOverPaused p)
  have backed : Backed (.plain p 1 9) 1 played.2 :=
    all narrow p _ 1 _ _ (run_play narrow p 1 9 (fun _ _ _ => trivial) _ _)
  have marked : .event (.call (.commit ⟨p, 4⟩) .done) ∈ played.2 := by decide +kernel
  -- The second record is skipped by one worker as stale and has never reached the other one.
  have lost : ¬ HandledIn played.2 (.bare p 2) := by decide +kernel
  have there : .bare p 2 ∈ PartitionLog.plain p 1 9 :=
    (PartitionLog.next_plain (by decide) (by decide)).1
  exact lost (backed.handledIn marked ⟨.done, .inr rfl⟩ _ there (by decide) (by decide))

end Service

end TopicConsumer
