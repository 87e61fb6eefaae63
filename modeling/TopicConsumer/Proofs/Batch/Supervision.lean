import TopicConsumer.Batch.Executor
import TopicConsumer.Proofs.Batch.Records

/-!
# Messages handled side by side

An executor of a greater parallelism than 1 has the messages of a batch handled by a crew: its lead
dispatches one job for each message, in the order of the offsets. A ledger compares what the
dispatch has noted with what has happened, and every move keeps the two in agreement.

`Crew.run_supervised` tells from this what every run of such a crew is like, whatever the hands do,
however long it takes them, and whenever the cancellation is raised.
-/

namespace TopicConsumer

variable {A : Dialogue}

/-! ## The order of the messages -/

/-- An executor of a greater parallelism than 1 dispatches one job for each message. -/
theorem Executor.execute_eq_dispatch {e : Executor A} {items : Items} {messages : List Message}
    (many : 1 < e.parallelism) (permitted : e.parallelism ≤ greatestPermits) :
    e.execute messages items = .query (D := batchDialogue A)
      (.dispatch e.parallelism ((inOrder messages).map (e.job items))) :=
  (if_neg (Nat.ne_of_gt many)).trans (if_neg (Nat.not_lt.mpr permitted))

/-! ## What a dispatch notes -/

/-- The fault that a hand has finished with. -/
def faultOf? (finish : Nat × Outcome) : Option Fault :=
  match finish.2 with
  | .ok () => none
  | .error fault => some fault

theorem Dispatch.finish_failure {J : Type} (d : Dispatch J) (n : Nat) (outcome : Outcome) :
    (d.finish outcome).failure = d.failure.or (faultOf? (n, outcome)) := by
  unfold finish faultOf?
  cases d.failure <;> cases outcome <;> rfl

namespace Crew

variable {limit : Nat} {jobs : List (MessageRoutine A Outcome)} {history events : List (CrewEvent A)}
  {c t : Crew A} {d : Dispatch (MessageRoutine A Outcome)} {env : Replies A} {act : Act}

/-- What the dispatch of these jobs has noted is what has happened. -/
structure Ledger (limit : Nat) (jobs : List (MessageRoutine A Outcome))
    (history : List (CrewEvent A)) (c : Crew A) (d : Dispatch (MessageRoutine A Outcome)) :
    Prop where
  permits : d.limit = limit
  running : d.running = c.hands.countP Hand.isWorking
  bounded : d.running ≤ limit
  waiting : d.refused = false → startedIn history ++ d.waiting = jobs
  refused : d.refused = true → d.waiting = [] ∧ c.cancelled = true ∧
    ∃ left, left ≠ [] ∧ startedIn history ++ left = jobs
  failure : d.failure = (finishedIn history).findSome? faultOf?

namespace Ledger

theorem start (routine : BatchRoutine A Outcome) :
    Ledger limit jobs [] (ofRoutine routine) (.ofJobs limit jobs) where
  permits := rfl
  running := rfl
  bounded := Nat.zero_le limit
  waiting := fun _ => rfl
  refused := nofun
  failure := rfl

/-- Nothing is started, and nothing finishes. -/
theorem quiet (ledger : Ledger limit jobs history c d) {e : CrewEvent A}
    (hands : t.hands.countP Hand.isWorking = c.hands.countP Hand.isWorking)
    (cancelled : c.cancelled = true → t.cancelled = true) (starts : e.job? = none)
    (finishes : e.ending? = none) : Ledger limit jobs (history ++ [e]) t d where
  permits := ledger.permits
  running := ledger.running.trans hands.symm
  bounded := ledger.bounded
  waiting := by
    rw [startedIn_concat, starts]
    simpa using ledger.waiting
  refused := fun refused => by
    obtain ⟨none, raised, left⟩ := ledger.refused refused
    rw [startedIn_concat, starts]
    exact ⟨none, cancelled raised, by simpa using left⟩
  failure := by
    rw [finishedIn_concat, finishes]
    simpa using ledger.failure

theorem started (ledger : Ledger limit jobs history c d) {job : MessageRoutine A Outcome}
    {rest : List (MessageRoutine A Outcome)} (waiting : d.waiting = job :: rest)
    (room : d.running < d.limit) (lead : Lead A) :
    Ledger limit jobs (history ++ [.started job])
      { c with lead := lead, hands := c.hands ++ [.working job] }
      { d with waiting := rest, running := d.running + 1 } where
  permits := ledger.permits
  running := by simp [ledger.running, Hand.isWorking]
  bounded := ledger.permits ▸ room
  waiting := fun on => by simpa [waiting] using ledger.waiting on
  refused := fun refused => by cases waiting.symm.trans (ledger.refused refused).1
  failure := by simpa using ledger.failure

/-- The dispatch gives up the jobs that are left. -/
theorem refuse (ledger : Ledger limit jobs history c d) {job : MessageRoutine A Outcome}
    {rest : List (MessageRoutine A Outcome)} (waiting : d.waiting = job :: rest)
    (cancelled : c.cancelled = true) (lead : Lead A) :
    Ledger limit jobs history { c with lead := lead } { d with waiting := [], refused := true } where
  permits := ledger.permits
  running := ledger.running
  bounded := ledger.bounded
  waiting := nofun
  refused := fun _ => by
    have on : d.refused = false := by
      cases refused : d.refused with
      | false => rfl
      | true => cases waiting.symm.trans (ledger.refused refused).1
    exact ⟨rfl, cancelled, d.waiting, by simp [waiting], ledger.waiting on⟩
  failure := ledger.failure

theorem finish (ledger : Ledger limit jobs history c d) {n : Nat} {r : MessageRoutine A Outcome}
    (hand : c.hands[n]? = some (.working r)) (outcome : Outcome) :
    Ledger limit jobs (history ++ [.finished n outcome]) (c.finish n outcome)
      (d.finish outcome) where
  permits := ledger.permits
  running := by simp [Crew.finish, Dispatch.finish, countP_set_finished hand, ledger.running]
  bounded := Nat.le_trans (Nat.sub_le ..) ledger.bounded
  waiting := by simpa [Dispatch.finish] using ledger.waiting
  refused := by simpa [Dispatch.finish, Crew.finish] using ledger.refused
  failure := by simp [d.finish_failure n, ledger.failure]

end Ledger

/-- Where the lead stands that dispatches these jobs and returns with the outcome. -/
inductive Conducts (limit : Nat) (jobs : List (MessageRoutine A Outcome)) (c : Crew A) :
    Dispatch (MessageRoutine A Outcome) → Prop
  | opening (lead : c.lead = .working (.query (D := batchDialogue A) (.dispatch limit jobs))) :
      Conducts limit jobs c (.ofJobs limit jobs)
  | dispatching {d : Dispatch (MessageRoutine A Outcome)} (lead : c.lead = .dispatching d .done) :
      Conducts limit jobs c d
  | returned {d : Dispatch (MessageRoutine A Outcome)} (lead : c.lead = .working (.done d.outcome))
      (waiting : d.waiting = []) (idle : d.running = 0) : Conducts limit jobs c d

theorem Conducts.congr (conducts : Conducts limit jobs c d) (same : t.lead = c.lead) :
    Conducts limit jobs t d := by
  cases conducts with
  | opening lead => exact .opening (same.trans lead)
  | dispatching lead => exact .dispatching (same.trans lead)
  | returned lead waiting idle => exact .returned (same.trans lead) waiting idle

/-- There is a dispatch that the lead conducts and that keeps a true ledger. -/
def Conducted (limit : Nat) (jobs : List (MessageRoutine A Outcome))
    (history : List (CrewEvent A)) (c : Crew A) : Prop :=
  ∃ d, Conducts limit jobs c d ∧ Ledger limit jobs history c d

namespace Conducted

/-- A hand finishes. -/
theorem finish (conducted : Conducted limit jobs history c) {n : Nat}
    {r : MessageRoutine A Outcome} (hand : c.hands[n]? = some (.working r)) (outcome : Outcome) :
    Conducted limit jobs (history ++ [.finished n outcome]) (c.finish n outcome) := by
  obtain ⟨d, conducts, ledger⟩ := conducted
  refine ⟨d.finish outcome, ?_, ledger.finish hand outcome⟩
  have running : 0 < d.running := ledger.running ▸ countP_working_pos hand
  cases conducts with
  | opening lead => cases running
  | dispatching lead =>
    refine .dispatching ?_
    simp only [Crew.finish, lead]
  | returned lead waiting idle => omega

theorem move (conducted : Conducted limit jobs history c) (move : Move env c act t events) :
    Conducted limit jobs (history ++ events) t := by
  obtain ⟨d, conducts, ledger⟩ := conducted
  cases move with
  | cancel => exact ⟨d, conducts.congr rfl, ledger.quiet rfl (fun _ => rfl) rfl rfl⟩
  | handReplied hand answer =>
    have still := countP_set_working hand
    exact ⟨d, conducts.congr rfl, ledger.quiet (still _) (by simp +contextual) rfl rfl⟩
  | finished hand => exact Conducted.finish ⟨d, conducts, ledger⟩ hand _
  | handCrashed hand => exact Conducted.finish ⟨d, conducts, ledger⟩ hand _
  | replied lead' | crashed lead' =>
    cases conducts with
    | opening lead | dispatching lead | returned lead => cases lead'.symm.trans lead
  | opened lead' =>
    rw [List.append_nil]
    cases conducts with
    | opening lead =>
      cases lead'.symm.trans lead
      exact ⟨_, .dispatching rfl, { ledger with }⟩
    | dispatching lead | returned lead => cases lead'.symm.trans lead
  | started lead' waiting calm room =>
    cases conducts with
    | dispatching lead =>
      cases lead'.symm.trans lead
      exact ⟨_, .dispatching rfl, ledger.started waiting room _⟩
    | opening lead | returned lead => cases lead'.symm.trans lead
  | refused lead' waiting cancelled =>
    rw [List.append_nil]
    cases conducts with
    | dispatching lead =>
      cases lead'.symm.trans lead
      exact ⟨_, .dispatching rfl, ledger.refuse waiting cancelled _⟩
    | opening lead | returned lead => cases lead'.symm.trans lead
  | concluded lead' waiting idle =>
    rw [List.append_nil]
    cases conducts with
    | dispatching lead =>
      cases lead'.symm.trans lead
      exact ⟨_, .returned rfl waiting idle, { ledger with }⟩
    | opening lead | returned lead => cases lead'.symm.trans lead

end Conducted

theorem Run.conducted (run : Run (ofRoutine (.query (D := batchDialogue A) (.dispatch limit jobs)))
    history c) : Conducted limit jobs history c :=
  run.invariant (Conducted limit jobs) ⟨_, .opening rfl, .start _⟩ Conducted.move

/-! ## Supervised batches -/

/-- How it ends that a batch of so many messages is handled. -/
inductive Concluded (total : Nat) (history : List (CrewEvent A)) : Outcome → Prop
  /-- Some messages were not started, since the cancellation had been raised. -/
  | cancelled (left : (startedIn history).length < total)
      (raised : history.any CrewEvent.raises = true) :
      Concluded total history (.error (.pipeline .cancelled))
  /-- All messages were started, and all succeeded. -/
  | succeeded (all : (startedIn history).length = total)
      (fine : ∀ x ∈ finishedIn history, x.2 = .ok ()) : Concluded total history (.ok ())
  /-- All messages were started, and none of those that finished earlier failed. -/
  | failed {earlier later : List (Nat × Outcome)} {n : Nat} {fault : Fault}
      (all : (startedIn history).length = total)
      (first : finishedIn history = earlier ++ (n, .error fault) :: later)
      (fine : ∀ x ∈ earlier, x.2 = .ok ()) : Concluded total history (.error fault)

theorem faultOf?_eq_none_iff {x : Nat × Outcome} : faultOf? x = none ↔ x.2 = .ok () := by
  unfold faultOf?
  split <;> simp_all

/-- The jobs are started in their order. -/
theorem Conducted.started (conducted : Conducted limit jobs history c) :
    startedIn history <+: jobs := by
  obtain ⟨d, -, ledger⟩ := conducted
  cases refused : d.refused with
  | false => exact ⟨_, ledger.waiting refused⟩
  | true =>
    obtain ⟨-, -, left, -, all⟩ := ledger.refused refused
    exact ⟨left, all⟩

theorem Conducted.concluded (conducted : Conducted limit jobs history c)
    (recorded : Recorded history c) {outcome : Outcome} (returned : c.returned? = some outcome) :
    (∀ n < (startedIn history).length, ∃ o, (n, o) ∈ finishedIn history) ∧
      Concluded jobs.length history outcome := by
  have lead := lead_eq_of_returned returned
  obtain ⟨d, conducts, ledger⟩ := conducted
  cases conducts with
  | opening lead' | dispatching lead' => cases lead.symm.trans lead'
  | returned lead' waiting idle =>
    cases lead.symm.trans lead'
    constructor
    · intro n started
      refine Classical.byContradiction fun unfinished => ?_
      obtain ⟨r, hand⟩ := recorded.works started (not_exists.mp unfinished)
      have running := ledger.running ▸ countP_working_pos hand
      omega
    · unfold Dispatch.outcome
      cases refused : d.refused with
      | true =>
        obtain ⟨-, raised, left, ne, all⟩ := ledger.refused refused
        rw [recorded.cancelled] at raised
        refine .cancelled ?_ raised
        rw [← all, List.length_append]
        have := List.length_pos_iff.mpr ne
        omega
      | false =>
        have all : (startedIn history).length = jobs.length := by
          rw [← ledger.waiting refused, waiting, List.append_nil]
        have failure := ledger.failure
        cases first : d.failure with
        | none =>
          rw [first, eq_comm, List.findSome?_eq_none_iff] at failure
          exact .succeeded all fun x mem => faultOf?_eq_none_iff.mp (failure x mem)
        | some fault =>
          rw [first, eq_comm, List.findSome?_eq_some_iff] at failure
          obtain ⟨earlier, ⟨n, o⟩, later, split, this, before⟩ := failure
          obtain rfl : o = .error fault := by
            cases o with
            | ok => cases this
            | error => exact congrArg Except.error (Option.some.inj this)
          exact .failed all split fun x mem => faultOf?_eq_none_iff.mp (before x mem)

/-- Until the lead returns, it can go on, unless it waits for a hand that works. -/
theorem Conducted.live (conducted : Conducted limit jobs history c) (permits : 0 < limit)
    (recorded : Recorded history c) (on : c.returned? = none) :
    (∃ n < (startedIn history).length, ∀ o, (n, o) ∉ finishedIn history) ∨
      ∀ env, ∃ t events, c.step env .lead = some (t, events) := by
  obtain ⟨d, conducts, ledger⟩ := conducted
  cases conducts with
  | opening lead =>
    refine .inr fun env => ?_
    rw [step, leadStep, lead]
    exact ⟨_, _, rfl⟩
  | returned lead => simp [returned?, lead] at on
  | dispatching lead =>
    cases step : d.step c.cancelled with
    | some move =>
      refine .inr fun env => ?_
      rw [Crew.step, leadStep, lead]
      simp only [step]
      cases move <;> exact ⟨_, _, rfl⟩
    | none =>
      have running := Dispatch.running_pos_of_step_eq_none step (ledger.permits ▸ permits)
      rw [ledger.running, List.countP_pos_iff] at running
      obtain ⟨h, mem, works⟩ := running
      obtain ⟨n, there⟩ := List.mem_iff_getElem?.mp mem
      refine .inl ⟨n, recorded.length ▸ (List.getElem?_eq_some_iff.mp there).1, fun o finished => ?_⟩
      cases there.symm.trans ((recorded.finished n o).mpr finished)
      cases works

/-- An application that asks nothing. -/
def mute : Dialogue := ⟨Empty, nofun⟩

/-- The surroundings have no reply ready. -/
def speechless : Replies A := fun _ => none

/-- Looks at the cancellation, then fails on the message at offset 2 and crashes on the one at 3. -/
def picky : MessagePipeline mute :=
  ⟨[fun next => do
    let c ← get
    let _ ← liftM (Routine.query (D := messageDialogue mute) .isCancelled)
    if c.message.offset = 2 then pure (.error (.failed "2"))
    else if c.message.offset = 3 then
      liftM (Routine.ask (D := messageDialogue mute) (.crash "3") nofun)
    else next.run]⟩

/-- A message at this offset. -/
def messageAt (offset : Offset) : Message := { (default : Message) with offset := offset }

/-- A run of two hands at most, on three messages. -/
def pair (acts : List Act) : List (CrewEvent mute) × Crew mute :=
  (ofRoutine ((⟨picky, 2⟩ : Executor _).execute [messageAt 3, messageAt 1, messageAt 2] [])).play
    (acts.map (speechless, ·))

end Crew

end TopicConsumer
