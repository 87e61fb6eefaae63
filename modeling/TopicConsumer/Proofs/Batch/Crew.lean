import TopicConsumer.Batch.Context
import TopicConsumer.Batch.Dispatch
import TopicConsumer.Proofs.Routine.Talk

/-!
# Crews

A crew is a routine that handles a batch, its lead, with the tasks that it has had started for
single messages, its hands. All of them share one cancellation, which may be raised at any time from
outside or by one of them.

`Crew.step` is what can happen next, whatever the surroundings reply and whoever moves. The history
of a run is the list of everything that has happened, and `Crew.Run c₀ h c` says that moves lead from
`c₀` to `c` with the history `h`. What becomes of a handler on the stage of a simulation is such a
run (`Simulation.Handling.depicted_of_course`).
-/

namespace TopicConsumer

variable {A : Dialogue}

/-! ## Replies -/

/-- The question raises the cancellation. -/
def MessageQuery.isCancel : MessageQuery A → Bool
  | .cancel => true
  | _ => false

/-- The replies that the surroundings have ready at one moment. -/
abbrev Replies (A : Dialogue) := (q : MessageQuery A) → Option q.Reply

/-- The reply to a question, if there is one yet. A wait that the cancellation cuts short is replied
to at once. -/
def Replies.answer (env : Replies A) (cancelled : Bool) : (q : MessageQuery A) → Option q.Reply
  | .wait nanos => if cancelled then some false else (env (.wait nanos)).map fun _ => true
  | .isCancelled => some cancelled
  | .cancel => some ()
  | q => env q

/-- This exchange tells of no cancellation. -/
def Exchange.isCalm : Exchange (messageDialogue A) → Prop
  | ⟨.wait _, whole⟩ => (whole : Bool) = true
  | ⟨.isCancelled, cancelled⟩ => (cancelled : Bool) = false
  | ⟨.cancel, _⟩ => False
  | _ => True

theorem Replies.isCalm_of_answer {env : Replies A} {q : MessageQuery A} {a : q.Reply}
    (answer : env.answer false q = some a) (not : q.isCancel = false) :
    Exchange.isCalm (A := A) ⟨q, a⟩ := by
  cases q with
  | wait nanos =>
    obtain ⟨-, -, rfl⟩ := Option.map_eq_some_iff.mp (answer : (env (.wait nanos)).map _ = _)
    rfl
  | isCancelled => exact (Option.some.inj answer).symm
  | cancel => cases not
  | now | crash | app => trivial

/-- The surroundings can give every reply that tells of no cancellation. -/
theorem Replies.exists_answer {q : MessageQuery A} {a : q.Reply}
    (calm : Exchange.isCalm (A := A) ⟨q, a⟩) :
    ∃ env : Replies A, env.answer false q = some a := by
  classical
  refine ⟨fun q' => if same : q' = q then some (same ▸ a) else none, ?_⟩
  cases q with
  | wait nanos =>
    obtain rfl : (a : Bool) = true := calm
    change Option.map _ (dite _ _ _) = _
    rw [dif_pos rfl]
    rfl
  | isCancelled =>
    obtain rfl : (a : Bool) = false := calm
    rfl
  | cancel => cases calm
  | now | crash | app => simp [answer]

/-! ## Dispatches -/

namespace Dispatch

variable {J : Type} {cancelled : Bool} {d d' : Dispatch J} {job : J} {outcome : Outcome}

theorem step_eq_start (h : d.step cancelled = some (.start job d')) :
    ∃ rest, d.waiting = job :: rest ∧ cancelled = false ∧ d.running < d.limit ∧
      d' = { d with waiting := rest, running := d.running + 1 } := by
  unfold step at h
  grind

theorem step_eq_refuse (h : d.step cancelled = some (.refuse d')) :
    ∃ job rest, d.waiting = job :: rest ∧ cancelled = true ∧
      d' = { d with waiting := [], refused := true } := by
  unfold step at h
  grind

theorem step_eq_reply (h : d.step cancelled = some (.reply outcome)) :
    d.waiting = [] ∧ d.running = 0 ∧ outcome = d.outcome := by
  unfold step at h
  grind

/-- A dispatch waits only for jobs that have been started. -/
theorem running_pos_of_step_eq_none (h : d.step cancelled = none) (limit : 0 < d.limit) :
    0 < d.running := by
  unfold step at h
  grind

end Dispatch

/-! ## Crews and their moves -/

/-- Where the lead stands. -/
inductive Lead (A : Dialogue) where
  | working (routine : BatchRoutine A Outcome)
  /-- It has the hands do the work and goes on with the outcome. -/
  | dispatching (d : Dispatch (MessageRoutine A Outcome)) (resume : Outcome → BatchRoutine A Outcome)
  | crashed (text : String)

/-- Where a hand stands. -/
inductive Hand (A : Dialogue) where
  | working (routine : MessageRoutine A Outcome)
  | finished (outcome : Outcome)

/-- The hand has not finished. -/
def Hand.isWorking : Hand A → Bool
  | .working _ => true
  | .finished _ => false

/-- A lead, its hands in the order in which they were started, and their cancellation. -/
structure Crew (A : Dialogue) where
  lead : Lead A
  hands : List (Hand A)
  cancelled : Bool

/-- What happens in a crew. -/
inductive CrewEvent (A : Dialogue) where
  /-- The cancellation is raised from outside. -/
  | cancelled
  /-- The lead, or one of the hands, gets the reply to a question. -/
  | replied (hand : Option Nat) (exchange : Exchange (messageDialogue A))
  /-- One more hand is started, and has this to do. -/
  | started (job : MessageRoutine A Outcome)
  /-- A hand finishes. -/
  | finished (hand : Nat) (outcome : Outcome)

namespace CrewEvent

/-- The cancellation is raised. -/
def raises : CrewEvent A → Bool
  | .cancelled => true
  | .replied _ x => x.query.isCancel
  | _ => false

/-- A hand is started. -/
def isStart : CrewEvent A → Bool
  | .started _ => true
  | _ => false

end CrewEvent

namespace Crew

/-- The crew of a routine that has not begun. -/
def ofRoutine (routine : BatchRoutine A Outcome) : Crew A := ⟨.working routine, [], false⟩

/-- What the lead has returned with. -/
def returned? (c : Crew A) : Option Outcome :=
  match c.lead with
  | .working (.done outcome) => some outcome
  | _ => none

theorem lead_eq_of_returned {c : Crew A} {outcome : Outcome}
    (returned : c.returned? = some outcome) : c.lead = .working (.done outcome) := by
  unfold returned? at returned
  split at returned
  · next lead => rw [lead, Option.some.inj returned]
  · cases returned

/-- A hand finishes. The dispatch that has started it takes note of that. -/
def finish (n : Nat) (outcome : Outcome) (c : Crew A) : Crew A :=
  { c with
    lead := match c.lead with
      | .dispatching d resume => .dispatching (d.finish outcome) resume
      | lead => lead
    hands := c.hands.set n (.finished outcome) }

/-- Who moves, or what happens. -/
inductive Act where
  /-- The cancellation is raised from outside. -/
  | cancel
  /-- The lead goes on. -/
  | lead
  /-- A hand goes on. -/
  | hand (n : Nat)
  deriving DecidableEq

/-- The lead goes on. -/
def leadStep (env : Replies A) (c : Crew A) : Option (Crew A × List (CrewEvent A)) :=
  match c.lead with
  | .working (.done _) | .crashed _ => none
  | .working (.ask (.message (.crash text)) _) => some ({ c with lead := .crashed text }, [])
  | .working (.ask (.message q) k) => do
    let a ← env.answer c.cancelled q
    some ({ c with lead := .working (k a), cancelled := c.cancelled || q.isCancel },
      [.replied none ⟨q, a⟩])
  | .working (.ask (.dispatch limit jobs) k) =>
    some ({ c with lead := .dispatching (.ofJobs limit jobs) k }, [])
  | .dispatching d resume =>
    match d.step c.cancelled with
    | none => none
    | some (.start job d) =>
      some ({ c with lead := .dispatching d resume, hands := c.hands ++ [.working job] },
        [.started job])
    | some (.refuse d) => some ({ c with lead := .dispatching d resume }, [])
    | some (.reply outcome) => some ({ c with lead := .working (resume outcome) }, [])

/-- A hand goes on. -/
def handStep (env : Replies A) (n : Nat) (c : Crew A) : Option (Crew A × List (CrewEvent A)) := do
  match ← c.hands[n]? with
  | .finished _ => none
  | .working (.done outcome) => some (c.finish n outcome, [.finished n outcome])
  | .working (.ask (.crash text) _) =>
    some (c.finish n (.error (.taskCrashed text)), [.finished n (.error (.taskCrashed text))])
  | .working (.ask q k) =>
    let a ← env.answer c.cancelled q
    some ({ c with
      hands := c.hands.set n (.working (k a))
      cancelled := c.cancelled || q.isCancel }, [.replied (some n) ⟨q, a⟩])

/-- The crew after a move, with what happened. -/
def step (env : Replies A) (c : Crew A) : Act → Option (Crew A × List (CrewEvent A))
  | .cancel => some ({ c with cancelled := true }, [.cancelled])
  | .lead => c.leadStep env
  | .hand n => c.handStep env n

/-- What a move can be. -/
inductive Move (env : Replies A) (c : Crew A) : Act → Crew A → List (CrewEvent A) → Prop
  | cancel : Move env c .cancel { c with cancelled := true } [.cancelled]
  | replied {q : MessageQuery A} {k : q.Reply → BatchRoutine A Outcome} {a : q.Reply}
      (lead : c.lead = .working (.ask (.message q) k)) (answer : env.answer c.cancelled q = some a) :
      Move env c .lead
        { c with lead := .working (k a), cancelled := c.cancelled || q.isCancel }
        [.replied none ⟨q, a⟩]
  | crashed {text : String} {k : Empty → BatchRoutine A Outcome}
      (lead : c.lead = .working (.ask (.message (.crash text)) k)) :
      Move env c .lead { c with lead := .crashed text } []
  | opened {limit : Nat} {jobs : List (MessageRoutine A Outcome)}
      {k : Outcome → BatchRoutine A Outcome}
      (lead : c.lead = .working (.ask (.dispatch limit jobs) k)) :
      Move env c .lead { c with lead := .dispatching (.ofJobs limit jobs) k } []
  | started {d : Dispatch (MessageRoutine A Outcome)} {resume : Outcome → BatchRoutine A Outcome}
      {job : MessageRoutine A Outcome} {rest : List (MessageRoutine A Outcome)}
      (lead : c.lead = .dispatching d resume) (waiting : d.waiting = job :: rest)
      (calm : c.cancelled = false) (room : d.running < d.limit) :
      Move env c .lead
        { c with
          lead := .dispatching { d with waiting := rest, running := d.running + 1 } resume
          hands := c.hands ++ [.working job] }
        [.started job]
  | refused {d : Dispatch (MessageRoutine A Outcome)} {resume : Outcome → BatchRoutine A Outcome}
      {job : MessageRoutine A Outcome} {rest : List (MessageRoutine A Outcome)}
      (lead : c.lead = .dispatching d resume) (waiting : d.waiting = job :: rest)
      (cancelled : c.cancelled = true) :
      Move env c .lead
        { c with lead := .dispatching { d with waiting := [], refused := true } resume } []
  | concluded {d : Dispatch (MessageRoutine A Outcome)} {resume : Outcome → BatchRoutine A Outcome}
      (lead : c.lead = .dispatching d resume) (waiting : d.waiting = []) (idle : d.running = 0) :
      Move env c .lead { c with lead := .working (resume d.outcome) } []
  | handReplied {n : Nat} {q : MessageQuery A} {k : q.Reply → MessageRoutine A Outcome} {a : q.Reply}
      (hand : c.hands[n]? = some (.working (.ask q k)))
      (answer : env.answer c.cancelled q = some a) :
      Move env c (.hand n)
        { c with
          hands := c.hands.set n (.working (k a))
          cancelled := c.cancelled || q.isCancel }
        [.replied (some n) ⟨q, a⟩]
  | finished {n : Nat} {outcome : Outcome} (hand : c.hands[n]? = some (.working (.done outcome))) :
      Move env c (.hand n) (c.finish n outcome) [.finished n outcome]
  | handCrashed {n : Nat} {text : String} {k : Empty → MessageRoutine A Outcome}
      (hand : c.hands[n]? = some (.working (.ask (.crash text) k))) :
      Move env c (.hand n) (c.finish n (.error (.taskCrashed text)))
        [.finished n (.error (.taskCrashed text))]

section

variable {env : Replies A} {c t : Crew A} {act : Act} {events : List (CrewEvent A)}

theorem move_of_leadStep (h : c.leadStep env = some (t, events)) : Move env c .lead t events := by
  unfold leadStep at h
  split at h
  · cases h
  · cases h
  · next lead =>
    cases h
    exact .crashed lead
  · next q k _ lead =>
    obtain ⟨a, answer, h⟩ := Option.bind_eq_some_iff.mp h
    cases h
    exact .replied lead answer
  · next lead =>
    cases h
    exact .opened lead
  · next d resume lead =>
    split at h
    · cases h
    · next job d' step =>
      obtain ⟨rest, waiting, calm, room, rfl⟩ := Dispatch.step_eq_start step
      cases h
      exact .started lead waiting calm room
    · next d' step =>
      obtain ⟨job, rest, waiting, cancelled, rfl⟩ := Dispatch.step_eq_refuse step
      cases h
      exact .refused lead waiting cancelled
    · next outcome step =>
      obtain ⟨waiting, idle, rfl⟩ := Dispatch.step_eq_reply step
      cases h
      exact .concluded lead waiting idle

theorem move_of_handStep {n : Nat} (h : c.handStep env n = some (t, events)) :
    Move env c (.hand n) t events := by
  simp only [handStep, bind, Option.bind_eq_some_iff] at h
  obtain ⟨hand, there, h⟩ := h
  split at h
  · cases h
  · cases h
    exact .finished there
  · cases h
    exact .handCrashed there
  · next q k _ =>
    obtain ⟨a, answer, h⟩ := Option.bind_eq_some_iff.mp h
    cases h
    exact .handReplied there answer

/-- A question of the lead that the surroundings reply to lets it go on. -/
theorem step_lead_of_answer {q : MessageQuery A} {k : q.Reply → BatchRoutine A Outcome}
    {a : q.Reply} (lead : c.lead = .working (.ask (.message q) k))
    (answer : env.answer c.cancelled q = some a) :
    c.step env .lead = some
      ({ c with lead := .working (k a), cancelled := c.cancelled || q.isCancel },
        [.replied none ⟨q, a⟩]) := by
  rw [step, leadStep, lead]
  cases q with
  | crash => exact Empty.elim a
  | _ => exact Option.bind_eq_some_iff.mpr ⟨a, answer, rfl⟩

/-- A question of a hand that the surroundings reply to lets it go on. -/
theorem step_hand_of_answer {n : Nat} {q : MessageQuery A} {k : q.Reply → MessageRoutine A Outcome}
    {a : q.Reply} (hand : c.hands[n]? = some (.working (.ask q k)))
    (answer : env.answer c.cancelled q = some a) :
    c.step env (.hand n) = some
      ({ c with
          hands := c.hands.set n (.working (k a))
          cancelled := c.cancelled || q.isCancel }, [.replied (some n) ⟨q, a⟩]) := by
  rw [step, handStep, hand]
  refine Option.bind_eq_some_iff.mpr ⟨_, rfl, ?_⟩
  cases q with
  | crash => exact Empty.elim a
  | _ => exact Option.bind_eq_some_iff.mpr ⟨a, answer, rfl⟩

theorem move_of_step (h : c.step env act = some (t, events)) : Move env c act t events := by
  cases act with
  | cancel =>
    cases h
    exact .cancel
  | lead => exact move_of_leadStep h
  | hand n => exact move_of_handStep h

end

/-! ## Runs -/

/-- A run, with its history. -/
inductive Run (c₀ : Crew A) : List (CrewEvent A) → Crew A → Prop
  | start : Run c₀ [] c₀
  | step {history events : List (CrewEvent A)} {c t : Crew A} {env : Replies A} {act : Act}
      (run : Run c₀ history c) (step : c.step env act = some (t, events)) :
      Run c₀ (history ++ events) t

/-- What every move keeps, every run keeps. -/
theorem Run.invariant {c₀ c : Crew A} {history : List (CrewEvent A)}
    (Inv : List (CrewEvent A) → Crew A → Prop) (start : Inv [] c₀)
    (kept : ∀ {history c env act t events}, Inv history c → Move env c act t events →
      Inv (history ++ events) t)
    (run : Run c₀ history c) : Inv history c := by
  induction run with
  | start => exact start
  | step run step ih => exact kept ih (move_of_step step)

/-- A run goes on with another one. -/
theorem Run.trans {c₀ c t : Crew A} {history later : List (CrewEvent A)} (run : Run c₀ history c)
    (rest : Run c later t) : Run c₀ (history ++ later) t := by
  induction rest with
  | start => simpa using run
  | step rest step ih => simpa using ih.step step

/-- Makes the moves of a schedule one after the other and leaves out those that cannot be made: what
happens, and the crew afterwards. -/
def play (c : Crew A) : List (Replies A × Act) → List (CrewEvent A) × Crew A
  | [] => ([], c)
  | (env, act) :: rest =>
    match c.step env act with
    | some (t, events) =>
      let (later, u) := t.play rest
      (events ++ later, u)
    | none => c.play rest

/-- A schedule continues a run. -/
theorem Run.play {c₀ c : Crew A} {history : List (CrewEvent A)} (run : Run c₀ history c)
    (schedule : List (Replies A × Act)) :
    Run c₀ (history ++ (c.play schedule).1) (c.play schedule).2 := by
  induction schedule generalizing history c with
  | nil => simpa [Crew.play] using run
  | cons move rest ih =>
    obtain ⟨env, act⟩ := move
    rw [Crew.play]
    split
    · next t events made => simpa using ih (run.step made)
    · exact ih run

/-- A schedule is a run. -/
theorem run_play (c : Crew A) (schedule : List (Replies A × Act)) :
    Run c (c.play schedule).1 (c.play schedule).2 :=
  Run.start.play schedule

end Crew

end TopicConsumer
