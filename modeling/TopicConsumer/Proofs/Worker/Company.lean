import TopicConsumer.Proofs.Worker.Front

/-!
# Workers in company

Workers share the states of the partitions. What a step of one of them does to these states is
nothing, or one operation of the state manager: `Station.Shares` says which one it may be. The
batcher and the calls that close a worker operate on the partition of their worker only, and none of
their operations pauses it. `Front.others` draws the conclusion for any other worker of the
partition: what its front says stays true.
-/

namespace TopicConsumer

/-- What a step does to the states of the partitions, and what the broker hears of it. -/
inductive Station.Shares (env : Surroundings) (s t : Station) (events : List Event)
    (may : TopicPartition → StateOp → Prop) : Prop
  | quiet (manager : t.manager = s.manager)
      (silent : ∀ call answered, .call call answered ∉ events)
  | operated {q : TopicPartition} {op : StateOp} {rest : List Event} (allowed : may q op)
      (manager : t.manager = (s.performed env q op).manager)
      (events : events = s.performing env q op ++ rest)
      (silent : ∀ call answered, .call call answered ∉ rest)

variable {env : Surroundings} {s t : Station} {events : List Event}

/-! ## The machines of a worker -/

theorem Batcher.Move.shares (move : Batcher.Move env s t events) :
    s.Shares env t events fun q op =>
      q = s.worker.partition ∧ ((∃ offset, op = .store offset) ∨ op = .resume) := by
  cases move with
  | stored storing =>
    exact .operated ⟨rfl, .inl ⟨_, rfl⟩⟩ rfl (List.append_nil _).symm (by simp)
  | resumed => exact .operated ⟨rfl, .inr rfl⟩ rfl rfl (by simp)
  | crashed operating =>
    rcases operating with ⟨last, -, rfl⟩ | ⟨-, rfl⟩
    · exact .operated ⟨rfl, .inl ⟨_, rfl⟩⟩ rfl (List.append_nil _).symm (by simp)
    · exact .operated ⟨rfl, .inr rfl⟩ rfl (List.append_nil _).symm (by simp)
  | givenUp _ _ quiet =>
    refine .quiet rfl fun call answered mem => ?_
    rcases quiet _ mem with ⟨line, h⟩ | h <;> cases h
  | _ => exact .quiet rfl (by simp)

theorem Batcher.Ends.silent {ending : Batcher.Ending} (ends : Batcher.Ends env s ending t events)
    (call : BrokerCall) (answered : Answer) : .call call answered ∉ events := by
  cases ends <;> simp

theorem Intake.Move.shares {r : Record} {i j : Intake} (move : Intake.Move env r s i t j events) :
    s.Shares env t events fun q op =>
      q = r.partition ∧ op = .pause r.offset ∨ q = s.worker.partition ∧ op = .resume := by
  cases move with
  | paused | pauseCrashed =>
    exact .operated (.inl ⟨rfl, rfl⟩) rfl (List.append_nil _).symm (by simp)
  | resumed | resumeCrashed =>
    exact .operated (.inr ⟨rfl, rfl⟩) rfl (List.append_nil _).symm (by simp)
  | _ => exact .quiet rfl (by simp)

theorem Disposal.Move.shares {d e : Disposal} (move : Disposal.Move env s d t e events) :
    s.Shares env t events fun q op =>
      q = s.worker.partition ∧ (op = .commit ∨ op = .resume ∨ op = .revoke) := by
  cases move with
  | committed | resumed | revoked =>
    exact .operated ⟨rfl, by simp⟩ rfl (List.append_nil _).symm (by simp)
  | crashed operating =>
    rcases operating with ⟨_, ⟨-, rfl⟩ | ⟨-, rfl⟩⟩ <;>
      exact .operated ⟨rfl, by simp⟩ rfl (List.append_nil _).symm (by simp)
  | @drained _ crash | @aborted crash =>
    exact .quiet rfl (by cases crash <;> simp [Disposal.crashLines])
  | _ => exact .quiet rfl (by simp)

/-! ## What the broker hears -/

namespace Feed

variable {p : TopicPartition} (feed : Feed)

/-- Whatever the broker hears, the partition stays handed out or not. -/
theorem isOpen_hearAll (moments : List Moment) : (feed.hearAll p moments).isOpen = feed.isOpen := by
  induction moments generalizing feed with
  | nil => rfl
  | cons m moments ih =>
    refine (ih (feed.hear p m)).trans ?_
    unfold hear
    split
    · unfold answer
      split <;> first | rfl | (split <;> rfl)
    · rfl

/-- A call changes what is stored and committed only by storing and committing. -/
theorem marked_answer (call : BrokerCall) (answered : Answer) :
    ((feed.answer p (call, answered)).stored = feed.stored ∨
        ∃ n, call = .store ⟨p, n⟩ ∧ (feed.answer p (call, answered)).stored = some n) ∧
      ((feed.answer p (call, answered)).committed = feed.committed ∨
        ∃ n, call = .commit ⟨p, n⟩ ∧ (feed.answer p (call, answered)).committed = n) := by
  cases answered with
  | done =>
    cases call with
    | store q | commit q =>
      obtain ⟨k, n⟩ := q
      by_cases hq : k = p <;> simp [answer, hq]
    | pause q | resume q => by_cases hq : q = p <;> simp [answer, hq]
    | seek q => by_cases hq : q.partition = p <;> simp [answer, hq]
  | failed e | crashed text => cases call <;> exact ⟨.inl rfl, .inl rfl⟩

/-- What the broker knows to be stored and committed was so before, or has been marked since. -/
theorem marked_hearAll {P : Offset → Prop} {moments : List Moment}
    (marks : ∀ m ∈ moments, ∀ n, m.Marks p n → P n) (stored : ∀ n, feed.stored = some n → P n)
    (committed : P feed.committed) :
    (∀ n, (feed.hearAll p moments).stored = some n → P n) ∧
      P (feed.hearAll p moments).committed := by
  induction moments generalizing feed with
  | nil => exact ⟨stored, committed⟩
  | cons m moments ih =>
    have here : (∀ n, (feed.hear p m).stored = some n → P n) ∧ P (feed.hear p m).committed := by
      unfold hear
      split
      · next call answered =>
        obtain ⟨hs, hc⟩ := feed.marked_answer (p := p) call answered
        constructor
        · rcases hs with same | ⟨k, rfl, new⟩
          · rw [same]
            exact stored
          · intro n hn
            cases new.symm.trans hn
            exact marks _ List.mem_cons_self _ ⟨answered, .inl rfl⟩
        · rcases hc with same | ⟨k, rfl, new⟩
          · rw [same]
            exact committed
          · rw [new]
            exact marks _ List.mem_cons_self k ⟨answered, .inr rfl⟩
      · exact ⟨stored, committed⟩
    exact ih (feed.hear p m) (fun m hm => marks m (List.mem_cons_of_mem _ hm)) here.1 here.2

/-- An operation on another partition is not heard here. -/
theorem hearAll_performing_of_ne {q : TopicPartition} (hq : q ≠ p) (env : Surroundings)
    (s : Station) (op : StateOp) : feed.hearAll p ((s.performing env q op).map .event) = feed := by
  have calls : ∀ (cs : List (BrokerCall × Answer)), (∀ c ∈ cs, c.1.partition = q) →
      ∀ feed : Feed, cs.foldl (answer p) feed = feed := by
    intro cs
    induction cs with
    | nil => exact fun _ _ => rfl
    | cons c cs ih =>
      intro about feed
      have here : feed.answer p c = feed := by
        have hc : c.1.partition ≠ p := fun h => hq ((about c List.mem_cons_self).symm.trans h)
        unfold answer
        split <;> first | exact if_neg hc | rfl
      rw [List.foldl_cons, here]
      exact ih (fun c hc => about c (List.mem_cons_of_mem _ hc)) feed
  rw [hearAll_performing]
  exact calls _ (fun c hc => PartitionState.partition_of_mem_calls q _ hc) feed

end Feed

/-! ## What the others do -/

variable {p : TopicPartition} {may : TopicPartition → StateOp → Prop}

/-- A step that operates on other partitions only leaves the partition as it is. -/
theorem Station.Shares.elsewhere (shares : s.Shares env t events may)
    (elsewhere : ∀ q op, may q op → q ≠ p) (feed : Feed) :
    t.manager.state p = s.manager.state p ∧ feed.hearAll p (events.map .event) = feed := by
  cases shares with
  | quiet manager silent =>
    rw [manager]
    exact ⟨rfl, feed.hearAll_of_silent p (by simpa using silent)⟩
  | @operated q op rest allowed manager heard silent =>
    have hq := elsewhere q op allowed
    rw [manager, heard, List.map_append, Feed.hearAll_append, feed.hearAll_performing_of_ne hq,
      feed.hearAll_of_silent p (by simpa using silent)]
    exact ⟨Manager.state_set_of_ne _ hq.symm _, rfl⟩

namespace Front

variable {log : PartitionLog p} {start : Offset} {done : Record → Prop} {feed : Feed} {m : Manager}
  {w : Worker} {call : Option (Record × Intake)}

/-- What a worker does that does not pause the partition of another one leaves the front of this one
as it is. -/
theorem others (front : Front log start done feed ⟨s.manager, w⟩ call) (own : w.partition = p)
    (willing : env.answers.Willing) (shares : s.Shares env t events may)
    (harmless : ∀ op, may p op →
      ((∃ offset, op = .store offset) ∨ op = .commit ∨ op = .revoke) ∨ op = .resume) :
    Front log start done (feed.hearAll p (events.map .event)) ⟨t.manager, w⟩ call := by
  cases shares with
  | quiet manager silent =>
    rw [manager, feed.hearAll_of_silent p (by simpa using silent)]
    exact front
  | @operated q op rest allowed manager heard silent =>
    rw [manager, heard, List.map_append, Feed.hearAll_append,
      Feed.hearAll_of_silent p _ (by simpa using silent)]
    by_cases hq : q = p
    · subst hq
      rcases harmless op allowed with still | rfl
      · exact front.still own still
      · exact front.resume own willing.forgiven (List.Subset.refl _)
    · rw [feed.hearAll_performing_of_ne hq]
      refine front.worker_change ?_ id fun _ => id
      subst own
      exact congrArg PartitionState.pausedAt (Manager.state_set_of_ne _ (Ne.symm hq) _)

/-- The call does not have its record any more and is forgotten. -/
theorem forget (front : Front log start done feed s call)
    (free : ∀ r i, call = some (r, i) → ¬ i.Carries) : Front log start done feed s none where
  carried _ _ hc := by cases hc
  paused := front.paused
  flowing ha hp hf _ := front.flowing ha hp hf free

end Front

end TopicConsumer
