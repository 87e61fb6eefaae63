import TopicConsumer.Proofs.Batch.Crew
import TopicConsumer.Simulation.Stage

/-!
# What a stage replies

A stage replies to a question at once, or makes the routine pause until it can. Either way the reply
is one that the surroundings of a crew can give. So while a routine runs on the stage up to an end
or a pause, a lead or a hand that does the same routine can get along with it, reply by reply:
`along_run_lead` and `along_run_hand`.

The clock of the stage must always have something to show, since a crew has no word for a clock that
runs out of dates.
-/

namespace TopicConsumer.Simulation

open Crew

variable {R S : Type}

/-! ## Pauses and replies -/

theorem Pause.end?_map (f : R → S) (p : Pause R) (stage : Stage) (cancelled : Bool) :
    (p.map f).end? stage cancelled =
      (p.end? stage cancelled).map fun (stage, r) => (stage, f r) := by
  cases p with
  | sleeping wake cancellable counted resume =>
    simp only [map, end?]
    split
    · rfl
    · split <;> rfl
  | atGate ticket resume =>
    simp only [map, end?]
    cases stage.gate.grant? ticket <;> rfl
  | untilCancelled resume =>
    simp only [map, end?]
    split <;> rfl
  | crashed | forever | dispatching => rfl

theorem Pause.clock_of_end? {p : Pause R} {stage stage' : Stage} {cancelled : Bool} {r : R}
    (ended : p.end? stage cancelled = some (stage', r)) : stage'.clock = stage.clock := by
  cases p with
  | sleeping wake cancellable counted resume =>
    simp only [end?] at ended
    split at ended
    · cases ended
      rfl
    · split at ended
      · cases counted <;> cases ended <;> rfl
      · cases ended
  | atGate ticket resume =>
    obtain ⟨gate, -, same⟩ := Option.map_eq_some_iff.mp ended
    cases same
    rfl
  | untilCancelled resume =>
    simp only [end?] at ended
    split at ended
    · cases ended
      rfl
    · cases ended
  | crashed | forever | dispatching => cases ended

/-- The clock has something to show at any time. -/
def Clock.Shows (clock : Clock) : Prop :=
  ∀ elapsed, ∃ instant, clock.reading elapsed = .shown instant

/-- It neither is a crash nor waits for tasks. -/
def Pause.IsPlain : Pause R → Prop
  | .crashed _ | .dispatching _ _ => False
  | _ => True

/-- The pause is one until there is a reply to the question, and goes on with it. -/
structure Pause.Awaits (q : MessageQuery staging) (k : q.Reply → R) (p : Pause R) : Prop where
  plain : p.IsPlain
  calm : q.isCancel = false
  reply : ∀ {stage cancelled stage' r}, p.end? stage cancelled = some (stage', r) →
    ∃ (env : Replies staging) (a : q.Reply), env.answer cancelled q = some a ∧ r = k a

theorem Pause.Awaits.map {q : MessageQuery staging} {p : Pause q.Reply} (awaits : p.Awaits q id)
    (k : q.Reply → R) : (p.map k).Awaits q k where
  plain := by
    have plain := awaits.plain
    cases p <;> exact plain
  calm := awaits.calm
  reply ended := by
    rw [end?_map, Option.map_eq_some_iff] at ended
    obtain ⟨⟨stage, a⟩, ended, same⟩ := ended
    obtain ⟨env, b, answer, is⟩ := awaits.reply ended
    exact ⟨env, b, answer, (Prod.mk.inj same).2.symm.trans (congrArg k is)⟩

/-- Every reply to a question of the application can be given. -/
theorem exists_answer_app (cancelled : Bool) (cue : Cue) (a : cue.Reply) :
    ∃ env : Replies staging, env.answer cancelled (.app cue) = some a := by
  classical
  exact ⟨fun q => if same : q = .app cue then some (same ▸ a) else none, dif_pos rfl⟩

theorem awaits_app {cue : Cue} {p : Pause cue.Reply} (plain : p.IsPlain) :
    p.Awaits (.app cue) id where
  plain := plain
  calm := rfl
  reply {_ cancelled _ a} _ := by
    obtain ⟨env, answer⟩ := exists_answer_app cancelled cue a
    exact ⟨env, a, answer, rfl⟩

theorem awaits_wait (nanos wake : Nat) :
    Pause.Awaits (.wait nanos) id (.sleeping wake true false id) where
  plain := trivial
  calm := rfl
  reply {_ cancelled _ a} ended := by
    cases cancelled with
    | true =>
      obtain ⟨-, rfl⟩ := Prod.mk.inj (Option.some.inj ended)
      exact ⟨fun _ => none, false, rfl, rfl⟩
    | false =>
      simp only [Pause.end?] at ended
      split at ended
      · next raised => cases raised
      · split at ended
        · obtain ⟨-, rfl⟩ := Prod.mk.inj (Option.some.inj ended)
          obtain ⟨env, answer⟩ := Replies.exists_answer (A := staging) (q := .wait nanos) rfl
          exact ⟨env, true, answer, rfl⟩
        · cases ended

/-- The scope of the same handler, on a stage with the same clock. -/
structure Scope.Alike (s s' : Scope) : Prop where
  outside : s'.outside = s.outside
  clock : s'.stage.clock = s.stage.clock

theorem Scope.Alike.trans {s s' s'' : Scope} (first : s.Alike s') (second : s'.Alike s'') :
    s.Alike s'' :=
  ⟨second.outside.trans first.outside, second.clock.trans first.clock⟩

/-- What a stage does with a question, as a crew sees it. -/
inductive Answered (s : Scope) (q : MessageQuery staging) : Verdict q.Reply × Scope → Prop
  | replied {a : q.Reply} {s' : Scope} {env : Replies staging}
      (answer : env.answer s.isCancelled q = some a)
      (raised : s'.isCancelled = (s.isCancelled || q.isCancel)) (alike : s.Alike s') :
      Answered s q (.ok a, s')
  | paused {p : Pause q.Reply} {s' : Scope} (awaits : p.Awaits q id)
      (same : s'.isCancelled = s.isCancelled) (alike : s.Alike s') : Answered s q (.error p, s')
  | crashed {text : String} (is : q = .crash text) : Answered s q (.error (.crashed text), s)

theorem answered_cue (s : Scope) (cue : Cue) : Answered s (.app cue) ((answerCue cue).run s) := by
  have replied {a : cue.Reply} {s' : Scope} (same : s'.isCancelled = s.isCancelled)
      (alike : s.Alike s') : Answered s (.app cue) (.ok a, s') := by
    obtain ⟨env, answer⟩ := exists_answer_app s.isCancelled cue a
    exact .replied answer (same.trans (Bool.or_false _).symm) alike
  have paused {p : Pause cue.Reply} {s' : Scope} (plain : p.IsPlain)
      (same : s'.isCancelled = s.isCancelled) (alike : s.Alike s') :
      Answered s (.app cue) (.error p, s') :=
    .paused (awaits_app plain) same alike
  cases cue with
  | note | keep | tally | line | failure | opening => exact replied rfl ⟨rfl, rfl⟩
  | never => exact paused trivial rfl ⟨rfl, rfl⟩
  | sleep ms | rest ms =>
    cases ms with
    | zero => exact replied rfl ⟨rfl, rfl⟩
    | succ ms => exact paused trivial rfl ⟨rfl, rfl⟩
  | gate =>
    cases entered : s.stage.gate.enter? with
    | some gate =>
      have is : (answerCue .gate).run s = (.ok (), { s with stage := { s.stage with gate } }) := by
        simp [answerCue, entered]
        rfl
      rw [is]
      exact replied rfl ⟨rfl, rfl⟩
    | none =>
      have is : (answerCue .gate).run s = (.error (.atGate s.stage.gate.queue.2 ()),
          { s with stage := { s.stage with gate := s.stage.gate.queue.1 } }) := by
        simp [answerCue, entered]
        rfl
      rw [is]
      exact paused trivial rfl ⟨rfl, rfl⟩
  | cancellation =>
    cases raised : s.isCancelled with
    | true =>
      have is : (answerCue .cancellation).run s = (.ok (), s) := by
        simp [answerCue, raised]
        rfl
      rw [is]
      exact replied rfl ⟨rfl, rfl⟩
    | false =>
      have is : (answerCue .cancellation).run s = (.error (.untilCancelled ()), s) := by
        simp [answerCue, raised]
        rfl
      rw [is]
      exact paused trivial rfl ⟨rfl, rfl⟩

theorem answerMessage_now {s : Scope} {instant : Timestamp}
    (shown : s.stage.clock.reading s.stage.now = .shown instant) :
    (answerMessage .now).run s = (.ok instant, s) := by
  simp [answerMessage, shown]
  rfl

/-- Nobody begins to wait once the cancellation has been raised. -/
theorem answerMessage_wait_of_cancelled {s : Scope} {nanos : Nat} (raised : s.isCancelled = true) :
    (answerMessage (.wait nanos)).run s = (.ok false, s) := by
  simp [answerMessage, raised]
  rfl

theorem answerMessage_wait {s : Scope} {nanos : Nat} (calm : s.isCancelled = false) :
    (answerMessage (.wait nanos)).run s =
      (.error (.sleeping (sleepEnd s.stage.now (coveringMillis nanos)) true false id), s) := by
  simp [answerMessage, calm]
  rfl

theorem answered_message {s : Scope} (shows : s.stage.clock.Shows) (q : MessageQuery staging) :
    Answered s q ((answerMessage q).run s) := by
  have silent : Replies staging := fun _ => none
  cases q with
  | app cue => exact answered_cue s cue
  | crash text => exact .crashed rfl
  | isCancelled =>
    have answer : silent.answer s.isCancelled .isCancelled = some s.isCancelled := rfl
    exact .replied answer (Bool.or_false _).symm ⟨rfl, rfl⟩
  | cancel =>
    have answer : silent.answer s.isCancelled .cancel = some () := rfl
    exact .replied answer (by simp [Scope.isCancelled, MessageQuery.isCancel]) ⟨rfl, rfl⟩
  | now =>
    obtain ⟨instant, shown⟩ := shows s.stage.now
    let showing : Replies staging := fun | .now => some instant | _ => none
    have answer : showing.answer s.isCancelled .now = some instant := rfl
    rw [answerMessage_now shown]
    exact .replied answer (Bool.or_false _).symm ⟨rfl, rfl⟩
  | wait nanos =>
    cases raised : s.isCancelled with
    | true =>
      have answer : silent.answer s.isCancelled (.wait nanos) = some false := by
        rw [raised]
        rfl
      rw [answerMessage_wait_of_cancelled raised]
      exact .replied answer (Bool.or_false _).symm ⟨rfl, rfl⟩
    | false =>
      rw [answerMessage_wait raised]
      exact .paused (awaits_wait nanos _) rfl ⟨rfl, rfl⟩

/-! ## Running up to a pause -/

section

variable {D : Dialogue} {answer : (q : D.Query) → StateM Scope (Verdict (D.Reply q))} {q : D.Query}
  {s s' : Scope}

/-- After a reply the routine runs on. -/
theorem run_of_ok {a : D.Reply q} (replied : (answer q).run s = (.ok a, s'))
    (k : D.Reply q → Routine D Outcome) :
    (run answer (.ask q k)).run s = (run answer (k a)).run s' := by
  rw [run, StateT.run_bind, replied]
  rfl

/-- At a pause the routine stops. -/
theorem run_of_error {p : Pause (D.Reply q)} (paused : (answer q).run s = (.error p, s'))
    (k : D.Reply q → Routine D Outcome) :
    (run answer (.ask q k)).run s = (.error (p.map k), s') := by
  rw [run, StateT.run_bind, paused]
  rfl

end

variable {c c' t : Crew staging} {s s' : Scope}

/-- The crew moves on while something runs in the scope. -/
structure Along (c : Crew staging) (s : Scope) (c' : Crew staging) (s' : Scope) : Prop where
  run : ∃ history, Run c history c'
  cancelled : c'.cancelled = s'.isCancelled
  alike : s.Alike s'

theorem Along.trans {s'' : Scope} (first : Along c s c' s') (second : Along c' s' t s'') :
    Along c s t s'' where
  run := by
    obtain ⟨history, run⟩ := first.run
    obtain ⟨later, rest⟩ := second.run
    exact ⟨history ++ later, run.trans rest⟩
  cancelled := second.cancelled
  alike := first.alike.trans second.alike

theorem Along.refl (same : c.cancelled = s.isCancelled) : Along c s c s :=
  ⟨⟨[], .start⟩, same, rfl, rfl⟩

/-- Nobody in the crew moves. -/
theorem Along.still (same : c.cancelled = s.isCancelled) (still : s'.isCancelled = s.isCancelled)
    (alike : s.Alike s') : Along c s c s' :=
  ⟨⟨[], .start⟩, same.trans still.symm, alike⟩

/-- Somebody in the crew makes a move. -/
theorem Along.step {env : Replies staging} {act : Act} {events : List (CrewEvent staging)}
    (step : c.step env act = some (c', events)) (cancelled : c'.cancelled = s'.isCancelled)
    (alike : s.Alike s') : Along c s c' s' :=
  ⟨⟨_, Run.start.step step⟩, cancelled, alike⟩

/-- Where a hand is when its task has run up to an end or a pause. -/
inductive HandHalts : Except (Pause (MessageRoutine staging Outcome)) Outcome →
    MessageRoutine staging Outcome → Prop
  | done (outcome : Outcome) : HandHalts (.ok outcome) (.done outcome)
  | crashed (text : String) (k : Empty → MessageRoutine staging Outcome) :
      HandHalts (.error (.crashed text)) (.ask (.crash text) k)
  | paused {p : Pause (MessageRoutine staging Outcome)} {q : MessageQuery staging}
      {k : q.Reply → MessageRoutine staging Outcome} (awaits : p.Awaits q k) :
      HandHalts (.error p) (.ask q k)

/-- While a task runs in the scope, the hand gets the same replies. -/
theorem along_run_hand {r : MessageRoutine staging Outcome} {n : Nat}
    (hand : c.hands[n]? = some (.working r)) (same : c.cancelled = s.isCancelled)
    (shows : s.stage.clock.Shows) :
    ∃ c' r', Along c s c' ((run answerMessage r).run s).2 ∧
      HandHalts ((run answerMessage r).run s).1 r' ∧
      c'.lead = c.lead ∧ c'.hands = c.hands.set n (.working r') := by
  induction r generalizing c s with
  | done outcome =>
    obtain ⟨here, is⟩ := List.getElem?_eq_some_iff.mp hand
    refine ⟨c, .done outcome, .refl same, .done outcome, rfl, ?_⟩
    rw [← is, List.set_getElem_self]
  | ask q k ih =>
    obtain ⟨here, is⟩ := List.getElem?_eq_some_iff.mp hand
    have stays : c.hands = c.hands.set n (.working (.ask q k)) := by
      rw [← is, List.set_getElem_self]
    obtain ⟨result, ran⟩ : ∃ result, (answerMessage q).run s = result := ⟨_, rfl⟩
    have answered : Answered s q result := ran ▸ answered_message shows q
    cases answered with
    | @replied a s' env answer raised alike =>
      rw [run_of_ok ran k]
      have first := Along.step (step_hand_of_answer hand (same ▸ answer)) (same ▸ raised.symm) alike
      obtain ⟨c', r', rest, halts, lead, hands⟩ :=
        ih a (List.getElem?_set_self here) first.cancelled (alike.clock ▸ shows)
      refine ⟨c', r', first.trans rest, halts, lead, ?_⟩
      rw [hands, List.set_set]
    | @paused p s' awaits still alike =>
      rw [run_of_error ran k]
      exact ⟨c, _, .still same still alike, .paused (awaits.map k), rfl, stays⟩
    | @crashed text is =>
      subst is
      rw [run_of_error ran k]
      exact ⟨c, _, .refl same, .crashed text k, rfl, stays⟩

/-- Where the lead is when the routine has run up to an end or a pause. -/
inductive LeadHalts : Except (Pause (BatchRoutine staging Outcome)) Outcome → Lead staging → Prop
  | done (outcome : Outcome) : LeadHalts (.ok outcome) (.working (.done outcome))
  | crashed (text : String) : LeadHalts (.error (.crashed text)) (.crashed text)
  | dispatching (d : Dispatch (MessageRoutine staging Outcome))
      (resume : Outcome → BatchRoutine staging Outcome) :
      LeadHalts (.error (.dispatching d resume)) (.dispatching d resume)
  | paused {p : Pause (BatchRoutine staging Outcome)} {q : MessageQuery staging}
      {k : q.Reply → BatchRoutine staging Outcome} (awaits : p.Awaits q k) :
      LeadHalts (.error p) (.working (.ask (.message q) k))

/-- While the routine runs in the scope, the lead gets the same replies. -/
theorem along_run_lead {r : BatchRoutine staging Outcome} (lead : c.lead = .working r)
    (same : c.cancelled = s.isCancelled) (shows : s.stage.clock.Shows) :
    ∃ c', Along c s c' ((run answerBatch r).run s).2 ∧
      LeadHalts ((run answerBatch r).run s).1 c'.lead ∧ c'.hands = c.hands := by
  induction r generalizing c s with
  | done outcome => exact ⟨c, .refl same, lead ▸ .done outcome, rfl⟩
  | ask q k ih =>
    cases q with
    | dispatch limit jobs =>
      have step : c.step (fun _ => none) .lead =
          some ({ c with lead := .dispatching (.ofJobs limit jobs) k }, []) := by
        rw [Crew.step, leadStep, lead]
      have ran : (answerBatch (.dispatch limit jobs)).run s =
          (.error (.dispatching (.ofJobs limit jobs) id), s) := rfl
      rw [run_of_error ran k]
      exact ⟨_, .step step same ⟨rfl, rfl⟩, .dispatching _ k, rfl⟩
    | message q =>
      obtain ⟨result, ran⟩ : ∃ result, (answerBatch (.message q)).run s = result := ⟨_, rfl⟩
      have answered : Answered s q result := ran ▸ answered_message shows q
      cases answered with
      | @replied a s' env answer raised alike =>
        rw [run_of_ok ran k]
        have first :=
          Along.step (step_lead_of_answer lead (same ▸ answer)) (same ▸ raised.symm) alike
        obtain ⟨c', rest, halts, hands⟩ := ih a rfl first.cancelled (alike.clock ▸ shows)
        exact ⟨c', first.trans rest, halts, hands⟩
      | @paused p s' awaits still alike =>
        rw [run_of_error ran k]
        exact ⟨c, .still same still alike, lead ▸ .paused (awaits.map k), rfl⟩
      | @crashed text is =>
        subst is
        rw [run_of_error ran k]
        have step : c.step (fun _ => none) .lead = some ({ c with lead := .crashed text }, []) := by
          rw [Crew.step, leadStep, lead]
        exact ⟨_, .step step same ⟨rfl, rfl⟩, .crashed text, rfl⟩

end TopicConsumer.Simulation
