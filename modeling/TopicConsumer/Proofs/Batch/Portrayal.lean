import TopicConsumer.Proofs.Batch.Staging
import TopicConsumer.Simulation.Handling

/-!
# Staged handlers are crews

In a simulation a handler at work is a strand with tasks, which run on a stage until they pause. A
crew portrays it if the lead and the hands stand where the strands are ready, or ask what the
strands pause for. `Handling.depicted_of_course` says that whatever becomes of a staged handler is
portrayed by a run of the crew of its routine, so that what holds of all runs of crews holds of it.
-/

namespace TopicConsumer.Simulation

open Crew

variable {c c' : Crew staging} {s : Scope} {stage stage' : Stage}

/-! ## Portrayals -/

/-- The lead stands where the strand of the routine does. -/
inductive LeadPortrays : Lead staging → Strand (batchDialogue staging) → Prop
  | ready (r : BatchRoutine staging Outcome) : LeadPortrays (.working r) (.ready r)
  | dispatching (d : Dispatch (MessageRoutine staging Outcome))
      (resume : Outcome → BatchRoutine staging Outcome) :
      LeadPortrays (.dispatching d resume) (.paused (.dispatching d resume))
  | paused {p : Pause (BatchRoutine staging Outcome)} {q : MessageQuery staging}
      {k : q.Reply → BatchRoutine staging Outcome} (awaits : p.Awaits q k) :
      LeadPortrays (.working (.ask (.message q) k)) (.paused p)

/-- The hand stands where the strand of its task does. It has finished if the task has ended. -/
inductive HandPortrays : Option (Hand staging) → Option (Strand (messageDialogue staging)) → Prop
  | absent : HandPortrays none none
  | finished (outcome : Outcome) : HandPortrays (some (.finished outcome)) none
  | ready (r : MessageRoutine staging Outcome) : HandPortrays (some (.working r)) (some (.ready r))
  | paused {p : Pause (MessageRoutine staging Outcome)} {q : MessageQuery staging}
      {k : q.Reply → MessageRoutine staging Outcome} (awaits : p.Awaits q k) :
      HandPortrays (some (.working (.ask q k))) (some (.paused p))

/-- The crew portrays the handler, whose cancellation may have been raised from outside. -/
structure Portrays (c : Crew staging) (outside : Bool) (h : Handling) : Prop where
  cancelled : c.cancelled = (outside || h.cancelled)
  lead : LeadPortrays c.lead h.main
  hands : ∀ n, HandPortrays c.hands[n]? (h.tasks.lookup n)
  started : h.started = c.hands.length

/-- The crew portrays the handler, a task aside. -/
structure PortraysBut (task : Nat) (c : Crew staging) (outside : Bool) (h : Handling) : Prop where
  cancelled : c.cancelled = (outside || h.cancelled)
  lead : LeadPortrays c.lead h.main
  others : ∀ n, n ≠ task → HandPortrays c.hands[n]? (h.tasks.lookup n)
  started : h.started = c.hands.length

theorem portrays_ofRoutine (routine : BatchRoutine staging Outcome) :
    Portrays (.ofRoutine routine) false (.ofRoutine routine) where
  cancelled := rfl
  lead := .ready routine
  hands _ := .absent
  started := rfl

/-- Where the strand of the routine goes on, so does the lead. -/
theorem along_next_lead {strand : Strand (batchDialogue staging)}
    {r : BatchRoutine staging Outcome} (portrays : LeadPortrays c.lead strand)
    (same : c.cancelled = s.isCancelled)
    (next : strand.next? s.stage s.isCancelled = some (stage, r)) :
    ∃ c', Along c s c' { s with stage } ∧ c'.lead = .working r ∧ c'.hands = c.hands := by
  obtain ⟨lead, hands, cancelled⟩ := c
  change cancelled = s.isCancelled at same
  cases portrays with
  | ready r =>
    cases next
    exact ⟨_, .refl same, rfl, rfl⟩
  | dispatching d resume => cases next
  | @paused p q k awaits =>
    obtain ⟨env, a, answer, rfl⟩ := awaits.reply next
    have step := step_lead_of_answer (c := ⟨_, hands, cancelled⟩) (k := k) rfl (same ▸ answer)
    refine ⟨_, .step step ?_ ⟨rfl, Pause.clock_of_end? next⟩, rfl, rfl⟩
    change (cancelled || q.isCancel) = s.isCancelled
    rw [awaits.calm, Bool.or_false, same]

/-- Where the strand of a task goes on, so does its hand. -/
theorem along_next_hand {strand : Strand (messageDialogue staging)} {n : Nat}
    {r : MessageRoutine staging Outcome} (portrays : HandPortrays c.hands[n]? (some strand))
    (same : c.cancelled = s.isCancelled)
    (next : strand.next? s.stage s.isCancelled = some (stage, r)) :
    ∃ c', Along c s c' { s with stage } ∧ c'.lead = c.lead ∧
      c'.hands = c.hands.set n (.working r) := by
  generalize there : c.hands[n]? = hand at portrays
  obtain ⟨here, is⟩ : ∃ here : n < c.hands.length, some c.hands[n] = hand := by
    cases portrays <;> exact (List.getElem?_eq_some_iff.mp there).imp fun _ is => congrArg some is
  cases portrays with
  | ready r =>
    cases next
    refine ⟨c, .refl same, rfl, ?_⟩
    rw [← Option.some.inj is, List.set_getElem_self]
  | @paused p q k awaits =>
    obtain ⟨env, a, answer, rfl⟩ := awaits.reply next
    refine ⟨_, .step (step_hand_of_answer there (same ▸ answer)) ?_
      ⟨rfl, Pause.clock_of_end? next⟩, rfl, rfl⟩
    change (c.cancelled || q.isCancel) = s.isCancelled
    rw [awaits.calm, Bool.or_false, same]

/-- The crew portrays the handler, or has come to the same ending. -/
inductive Depicts (c : Crew staging) (outside : Bool) : Handling × Option Batcher.Ending → Prop
  | working {h : Handling} (portrays : Portrays c outside h) : Depicts c outside (h, none)
  | returned {h : Handling} {outcome : Outcome} (returned : c.returned? = some outcome) :
      Depicts c outside (h, some (.ofOutcome outcome))
  | crashed {h : Handling} {text : String} (lead : c.lead = .crashed text) :
      Depicts c outside (h, some (.crashed text))

namespace Handling

variable {h h' : Handling} {outside : Bool} {ending : Option Batcher.Ending}

/-- What a handler becomes when its routine has run up to an end or a pause in the scope. -/
def halt (h : Handling) (s : Scope) : Except (Pause (BatchRoutine staging Outcome)) Outcome →
    Handling × Option Batcher.Ending
  | .ok outcome => (h.after s, some (.ofOutcome outcome))
  | .error (.crashed text) => (h.after s, some (.crashed text))
  | .error p => ({ h.after s with main := .paused p }, none)

/-- A handler that does not wait for tasks takes a step where its routine goes on. -/
theorem step_eq_of_moves (moves : ∀ d resume, h.main ≠ .paused (.dispatching d resume)) :
    h.step stage outside = (h.main.next? stage (outside || h.cancelled)).map fun (stage₁, r) =>
      let (result, s) := (run answerBatch r).run (h.scope stage₁ outside)
      (s.stage, h.halt s result) := by
  unfold step
  split
  · next d resume main => exact absurd main (moves d resume)
  · rw [Option.map_eq_bind]
    refine congrArg (Option.bind _) (funext fun ⟨stage₁, r⟩ => ?_)
    dsimp only [Function.comp]
    generalize (run answerBatch r).run (h.scope stage₁ outside) = ran
    obtain ⟨(p | outcome), s⟩ := ran
    · cases p <;> rfl
    · rfl

/-- After a run in the scope of the handler the crew and the handler are cancelled alike. -/
theorem cancelled_of_along (along : Along c (h.scope stage outside) c' s) :
    c'.cancelled = (outside || (h.after s).cancelled) := by
  rw [along.cancelled, Scope.isCancelled, along.alike.outside]
  rfl

/-- Where the routine of the handler halts, so does the lead. -/
theorem depicts_of_halt {result : Except (Pause (BatchRoutine staging Outcome)) Outcome}
    (portrays : Portrays c outside h) (along : Along c (h.scope stage outside) c' s)
    (halts : LeadHalts result c'.lead) (still : c'.hands = c.hands) :
    Depicts c' outside (h.halt s result) := by
  have paused {p : Pause (BatchRoutine staging Outcome)}
      (lead : LeadPortrays c'.lead (.paused p)) :
      Depicts c' outside ({ h.after s with main := .paused p }, none) :=
    .working ⟨cancelled_of_along along, lead, still ▸ portrays.hands, still ▸ portrays.started⟩
  generalize lead : c'.lead = l at halts paused
  cases halts with
  | done outcome => exact .returned (by rw [returned?, lead])
  | crashed text => exact .crashed lead
  | dispatching d resume => exact paused (.dispatching d resume)
  | @paused p q k awaits =>
    have portrayed := paused (.paused awaits)
    have plain := awaits.plain
    cases p with
    | crashed | dispatching => cases plain
    | sleeping | atGate | forever | untilCancelled => exact portrayed

/-- A hand that is started portrays the task that is. -/
theorem portrays_start {d : Dispatch (MessageRoutine staging Outcome)}
    {resume : Outcome → BatchRoutine staging Outcome} (portrays : Portrays c outside h)
    (job : MessageRoutine staging Outcome) :
    Portrays { c with lead := .dispatching d resume, hands := c.hands ++ [.working job] } outside
      { h with
        main := .paused (.dispatching d resume)
        tasks := h.tasks ++ [(h.started, .ready job)]
        started := h.started + 1 } where
  cancelled := portrays.cancelled
  lead := .dispatching d resume
  hands n := by
    have before := portrays.hands n
    rw [List.lookup_append, portrays.started]
    rcases Nat.lt_trichotomy n c.hands.length with lt | rfl | gt
    · rw [List.getElem?_append_left lt, List.lookup_cons, beq_false_of_ne (Nat.ne_of_lt lt)]
      simpa using before
    · rw [List.getElem?_eq_none (Nat.le_refl _)] at before
      generalize h.tasks.lookup c.hands.length = strand at before
      cases before
      rw [List.getElem?_concat_length, List.lookup_cons_self]
      exact .ready job
    · rw [List.getElem?_eq_none (Nat.le_of_lt gt)] at before
      rw [List.getElem?_eq_none (by simpa using Nat.succ_le_of_lt gt), List.lookup_cons,
        beq_false_of_ne (Nat.ne_of_gt gt)]
      simpa using before
  started := by rw [List.length_append, portrays.started]; rfl

/-- What a handler becomes that waits for tasks when their dispatch moves on. -/
def conduct (h : Handling) (resume : Outcome → BatchRoutine staging Outcome) :
    Dispatch.Move (MessageRoutine staging Outcome) → Handling
  | .start job d =>
    { h with
      main := .paused (.dispatching d resume)
      tasks := h.tasks ++ [(h.started, .ready job)]
      started := h.started + 1 }
  | .refuse d => { h with main := .paused (.dispatching d resume) }
  | .reply outcome => { h with main := .ready (resume outcome) }

/-- A handler that waits for tasks takes a step where their dispatch moves on. -/
theorem step_eq_of_dispatching {d : Dispatch (MessageRoutine staging Outcome)}
    {resume : Outcome → BatchRoutine staging Outcome}
    (main : h.main = .paused (.dispatching d resume)) :
    h.step stage outside = (d.step (outside || h.cancelled)).map fun move =>
      (stage, h.conduct resume move, none) := by
  rw [step, main]
  dsimp only
  rcases d.step (outside || h.cancelled) with _ | (_ | _ | _) <;> rfl

/-- Where the dispatch of the handler moves on, so does the one of the lead. -/
theorem portrayed_of_dispatching {d : Dispatch (MessageRoutine staging Outcome)}
    {resume : Outcome → BatchRoutine staging Outcome}
    {move : Dispatch.Move (MessageRoutine staging Outcome)} (portrays : Portrays c outside h)
    (lead : c.lead = .dispatching d resume)
    (moved : d.step (outside || h.cancelled) = some move) :
    ∃ history c', Run c history c' ∧ Portrays c' outside (h.conduct resume move) := by
  rw [← portrays.cancelled] at moved
  cases move with
  | start job d =>
    have step : c.step (fun _ => none) .lead = some
        ({ c with lead := .dispatching d resume, hands := c.hands ++ [.working job] },
          [.started job]) := by
      simp only [Crew.step, leadStep, lead, moved]
    exact ⟨_, _, Run.start.step step, portrays_start portrays job⟩
  | refuse d =>
    have step : c.step (fun _ => none) .lead =
        some ({ c with lead := .dispatching d resume }, []) := by
      simp only [Crew.step, leadStep, lead, moved]
    exact ⟨_, _, Run.start.step step,
      ⟨portrays.cancelled, .dispatching d resume, portrays.hands, portrays.started⟩⟩
  | reply outcome =>
    have step : c.step (fun _ => none) .lead =
        some ({ c with lead := .working (resume outcome) }, []) := by
      simp only [Crew.step, leadStep, lead, moved]
    exact ⟨_, _, Run.start.step step,
      ⟨portrays.cancelled, .ready _, portrays.hands, portrays.started⟩⟩

/-- Whatever step the handler takes, the crew can do the same. -/
theorem depicted_of_step (portrays : Portrays c outside h) (shows : stage.clock.Shows)
    (step : h.step stage outside = some (stage', h', ending)) :
    stage'.clock = stage.clock ∧
      ∃ history c', Run c history c' ∧ Depicts c' outside (h', ending) := by
  by_cases moves : ∀ d resume, h.main ≠ .paused (.dispatching d resume)
  · rw [step_eq_of_moves moves, Option.map_eq_some_iff] at step
    obtain ⟨⟨stage₁, r⟩, next, made⟩ := step
    obtain ⟨rfl, same⟩ := Prod.mk.inj made
    obtain ⟨c₁, first, lead, hands⟩ :=
      along_next_lead (s := h.scope stage outside) portrays.lead portrays.cancelled next
    obtain ⟨c₂, second, halts, hands'⟩ :=
      along_run_lead lead first.cancelled (first.alike.clock ▸ shows)
    have along := first.trans second
    obtain ⟨history, crewRun⟩ := along.run
    exact ⟨along.alike.clock, history, c₂, crewRun,
      same ▸ depicts_of_halt portrays along halts (hands'.trans hands)⟩
  · obtain ⟨d, resume, main⟩ : ∃ d resume, h.main = .paused (.dispatching d resume) := by
      simpa using moves
    have lead : c.lead = .dispatching d resume := by
      have lead := portrays.lead
      rw [main] at lead
      generalize c.lead = l at lead
      cases lead with
      | dispatching => rfl
      | paused awaits => cases awaits.plain
    rw [step_eq_of_dispatching main, Option.map_eq_some_iff] at step
    obtain ⟨move, moved, made⟩ := step
    cases made
    obtain ⟨history, c', crewRun, portrays⟩ := portrayed_of_dispatching portrays lead moved
    exact ⟨rfl, history, c', crewRun, .working portrays⟩

/-- What a handler becomes when one of its tasks has run up to an end or a pause in the scope. -/
def haltTask (h : Handling) (task : Nat) (s : Scope) :
    Except (Pause (MessageRoutine staging Outcome)) Outcome → Handling
  | .ok outcome => (h.after s).endTask task outcome
  | .error (.crashed text) => (h.after s).endTask task (.error (.taskCrashed text))
  | .error p => { h.after s with tasks := setEntry task (.paused p) h.tasks }

/-- A task takes a step where it goes on. -/
theorem taskStep_eq (task : Nat) :
    h.taskStep stage outside task = (h.tasks.lookup task).bind fun strand =>
      (strand.next? stage (outside || h.cancelled)).map fun (stage₁, r) =>
        let (result, s) := (run answerMessage r).run (h.scope stage₁ outside)
        (s.stage, h.haltTask task s result) := by
  refine congrArg (Option.bind _) (funext fun strand => ?_)
  rw [Option.map_eq_bind]
  refine congrArg (Option.bind _) (funext fun ⟨stage₁, r⟩ => ?_)
  dsimp only [Function.comp]
  generalize (run answerMessage r).run (h.scope stage₁ outside) = ran
  obtain ⟨(p | outcome), s⟩ := ran
  · cases p <;> rfl
  · rfl

/-- While a task runs in the scope of the handler, only its hand changes. -/
theorem portraysBut_of_along {task : Nat} {hand : Hand staging} (portrays : Portrays c outside h)
    (along : Along c (h.scope stage outside) c' s) (lead : c'.lead = c.lead)
    (hands : c'.hands = c.hands.set task hand) : PortraysBut task c' outside (h.after s) where
  cancelled := cancelled_of_along along
  lead := by
    rw [lead]
    exact portrays.lead
  others n other := by
    rw [hands, List.getElem?_set_ne other.symm]
    exact portrays.hands n
  started := by
    rw [hands, List.length_set]
    exact portrays.started

/-- A hand that finishes portrays the task that ends. -/
theorem portrays_finish {task : Nat} (portrays : PortraysBut task c outside h)
    (here : task < c.hands.length) (outcome : Outcome) :
    Portrays (c.finish task outcome) outside (h.endTask task outcome) where
  cancelled := portrays.cancelled
  lead := by
    have lead := portrays.lead
    rw [Crew.finish, endTask]
    generalize c.lead = l at lead
    generalize h.main = main at lead
    cases lead with
    | ready r => exact .ready r
    | dispatching d resume => exact .dispatching _ resume
    | @paused p q k awaits =>
      have plain := awaits.plain
      cases p with
      | crashed | dispatching => cases plain
      | sleeping | atGate | forever | untilCancelled => exact .paused awaits
  hands n := by
    by_cases same : n = task
    · subst same
      rw [endTask, lookup_filter_self, Crew.finish, List.getElem?_set_self here]
      exact .finished outcome
    · rw [endTask, lookup_filter_ne same, Crew.finish, List.getElem?_set_ne (Ne.symm same)]
      exact portrays.others n same
  started := by
    rw [Crew.finish, List.length_set]
    exact portrays.started

/-- A hand whose question awaits a reply portrays the task that pauses. -/
theorem portrays_pause {task : Nat} {p : Pause (MessageRoutine staging Outcome)}
    {q : MessageQuery staging} {k : q.Reply → MessageRoutine staging Outcome}
    (portrays : PortraysBut task c outside h) (awaits : p.Awaits q k)
    (hand : c.hands[task]? = some (.working (.ask q k))) :
    Portrays c outside { h with tasks := setEntry task (.paused p) h.tasks } where
  cancelled := portrays.cancelled
  lead := portrays.lead
  hands n := by
    by_cases same : n = task
    · rw [same, hand, lookup_setEntry_self]
      exact .paused awaits
    · rw [lookup_setEntry_of_ne same]
      exact portrays.others n same
  started := portrays.started

/-- Where a task halts, the crew can portray the handler again. -/
theorem portrayed_of_haltTask {task : Nat} {r : MessageRoutine staging Outcome}
    {result : Except (Pause (MessageRoutine staging Outcome)) Outcome}
    (portrays : PortraysBut task c outside (h.after s)) (halts : HandHalts result r)
    (hand : c.hands[task]? = some (.working r)) :
    ∃ history t, Run c history t ∧ Portrays t outside (h.haltTask task s result) := by
  have here : task < c.hands.length := (List.getElem?_eq_some_iff.mp hand).1
  cases halts with
  | done outcome =>
    have step : c.step (fun _ => none) (.hand task) =
        some (c.finish task outcome, [.finished task outcome]) := by
      rw [Crew.step, handStep, hand]
      rfl
    exact ⟨_, _, Run.start.step step, portrays_finish portrays here outcome⟩
  | crashed text k =>
    have step : c.step (fun _ => none) (.hand task) =
        some (c.finish task (.error (.taskCrashed text)),
          [.finished task (.error (.taskCrashed text))]) := by
      rw [Crew.step, handStep, hand]
      rfl
    exact ⟨_, _, Run.start.step step, portrays_finish portrays here _⟩
  | @paused p q k awaits =>
    have paused := portrays_pause portrays awaits hand
    have plain := awaits.plain
    cases p with
    | crashed | dispatching => cases plain
    | sleeping | atGate | forever | untilCancelled => exact ⟨[], c, .start, paused⟩

/-- Whatever step a task takes, the crew can do the same. -/
theorem portrayed_of_taskStep {task : Nat} (portrays : Portrays c outside h)
    (shows : stage.clock.Shows) (step : h.taskStep stage outside task = some (stage', h')) :
    stage'.clock = stage.clock ∧ ∃ history c', Run c history c' ∧ Portrays c' outside h' := by
  rw [taskStep_eq, Option.bind_eq_some_iff] at step
  obtain ⟨strand, there, step⟩ := step
  obtain ⟨⟨stage₁, r⟩, next, made⟩ := Option.map_eq_some_iff.mp step
  obtain ⟨rfl, rfl⟩ := Prod.mk.inj made
  have hand := portrays.hands task
  rw [there] at hand
  have here : task < c.hands.length := by
    refine Nat.lt_of_not_le fun beyond => ?_
    rw [List.getElem?_eq_none beyond] at hand
    cases hand
  obtain ⟨c₁, first, lead₁, hands₁⟩ :=
    along_next_hand (s := h.scope stage outside) hand portrays.cancelled next
  have hand₁ : c₁.hands[task]? = some (.working r) := by
    rw [hands₁, List.getElem?_set_self here]
  obtain ⟨c₂, r', second, halts, lead₂, hands₂⟩ :=
    along_run_hand hand₁ first.cancelled (first.alike.clock ▸ shows)
  have along := first.trans second
  have hands : c₂.hands = c.hands.set task (.working r') := by
    rw [hands₂, hands₁, List.set_set]
  have hand₂ : c₂.hands[task]? = some (.working r') := by rw [hands, List.getElem?_set_self here]
  have but := portraysBut_of_along portrays along (lead₂.trans lead₁) hands
  obtain ⟨history, t, rest, portrayed⟩ := portrayed_of_haltTask but halts hand₂
  obtain ⟨before, crewRun⟩ := along.run
  exact ⟨along.alike.clock, before ++ history, t, crewRun.trans rest, portrayed⟩

/-! ## Courses -/

/-- What can become of a handler on stages with this clock, whatever else happens there: it and its
tasks take steps, and its cancellation is raised, from outside or by itself. -/
inductive Course (clock : Clock) (h₀ : Handling) : Bool → Handling → Option Batcher.Ending → Prop
  | start : Course clock h₀ false h₀ none
  | step {outside : Bool} {h h' : Handling} {stage stage' : Stage} {ending : Option Batcher.Ending}
      (before : Course clock h₀ outside h none) (reads : stage.clock = clock)
      (step : h.step stage outside = some (stage', h', ending)) : Course clock h₀ outside h' ending
  | taskStep {outside : Bool} {h h' : Handling} {stage stage' : Stage} {task : Nat}
      (before : Course clock h₀ outside h none) (reads : stage.clock = clock)
      (step : h.taskStep stage outside task = some (stage', h')) : Course clock h₀ outside h' none
  | cancelledOutside {outside : Bool} {h : Handling} (before : Course clock h₀ outside h none) :
      Course clock h₀ true h none
  | cancelled {outside : Bool} {h : Handling} (before : Course clock h₀ outside h none) :
      Course clock h₀ outside { h with cancelled := true } none

theorem step_cancel (c : Crew staging) :
    c.step (fun _ => none) .cancel = some ({ c with cancelled := true }, [.cancelled]) := rfl

/-- A crew whose cancellation is raised portrays the handler whose is, on either side. -/
theorem portrays_cancel {outside' inside : Bool} (portrays : Portrays c outside h)
    (raised : (outside' || inside) = true) :
    Portrays { c with cancelled := true } outside' { h with cancelled := inside } where
  cancelled := raised.symm
  lead := portrays.lead
  hands := portrays.hands
  started := portrays.started

/-- Whatever becomes of a staged handler is portrayed by a run of the crew of its routine. -/
theorem depicted_of_course {clock : Clock} (shows : clock.Shows)
    {routine : BatchRoutine staging Outcome}
    (course : Course clock (.ofRoutine routine) outside h ending) :
    ∃ history c, Run (.ofRoutine routine) history c ∧ Depicts c outside (h, ending) := by
  induction course with
  | start => exact ⟨[], _, .start, .working (portrays_ofRoutine routine)⟩
  | step before reads step ih =>
    obtain ⟨history, c, crewRun, ⟨portrays⟩⟩ := ih
    obtain ⟨-, later, c', rest, depicts⟩ := depicted_of_step portrays (reads ▸ shows) step
    exact ⟨history ++ later, c', crewRun.trans rest, depicts⟩
  | taskStep before reads step ih =>
    obtain ⟨history, c, crewRun, ⟨portrays⟩⟩ := ih
    obtain ⟨-, later, c', rest, portrays⟩ := portrayed_of_taskStep portrays (reads ▸ shows) step
    exact ⟨history ++ later, c', crewRun.trans rest, .working portrays⟩
  | cancelledOutside before ih =>
    obtain ⟨history, c, crewRun, ⟨portrays⟩⟩ := ih
    exact ⟨_, _, crewRun.step (step_cancel c), .working (portrays_cancel portrays rfl)⟩
  | cancelled before ih =>
    obtain ⟨history, c, crewRun, ⟨portrays⟩⟩ := ih
    exact ⟨_, _, crewRun.step (step_cancel c),
      .working (portrays_cancel portrays (Bool.or_true _))⟩

end Handling

end TopicConsumer.Simulation
