import TopicConsumer.Proofs.Consumer.Closure

/-!
# Starting a consumer

A consumer can be started until its shutdown is claimed. The first start that comes in time marks
the consumer as started, before it asks the broker for the subscription, and the mark stays whatever
the broker says. `Office.Commences` says how every start of a run ends. A start that fails is no
better for those who come later than one that succeeds: nobody can start the consumer any more,
though no loop is running.
-/

namespace TopicConsumer

/-- How a start ends that is let in. -/
def Starting.ofAnswer (inRuntime : Bool) (answer : Answer) : Starting :=
  if !inRuntime then .refused .noRuntime
  else
    match answer with
    | .done => .started
    | .failed e => .refused (.subscribe e)
    | .crashed text => .crashed text

namespace Starting

variable {inRuntime : Bool} {answer : Answer}

theorem ofAnswer_ne_disposed : ofAnswer inRuntime answer ≠ .refused .disposed := by
  cases inRuntime <;> cases answer <;> simp [ofAnswer]

theorem ofAnswer_ne_alreadyStarted : ofAnswer inRuntime answer ≠ .refused .alreadyStarted := by
  cases inRuntime <;> cases answer <;> simp [ofAnswer]

end Starting

namespace Consumer

variable {profile : ConsumerProfile} {inRuntime : Bool} {answer : Answer} {c : Consumer}

theorem start_of_disposed (claimed : c.disposed = true) :
    c.start profile inRuntime answer = (c, [], .refused .disposed) := by
  rw [start, if_pos claimed]

theorem start_of_started (live : c.disposed = false) (started : c.started = true) :
    c.start profile inRuntime answer = (c, [], .refused .alreadyStarted) := by
  rw [start, if_neg (by simp [live]), if_pos started]

/-- What a start does that is let in. -/
structure LetIn (profile : ConsumerProfile) (inRuntime : Bool) (answer : Answer) (c d : Consumer)
    (events : List ConsumerEvent) : Prop where
  /-- The broker is asked for the subscription, once, if there is somewhere to run tasks. -/
  asks : inRuntime = true → ∃ lines : List LogLine,
    events = .subscribed profile.topics answer :: lines.map .log
  silent : inRuntime = false → events = []
  /-- If the broker agrees, there is a loop, and somebody has to wait for it. -/
  launched : Starting.ofAnswer inRuntime answer = .started → d = { c with
    started := true, hasRuntime := true, loopToken := some (c.loopToken.getD false),
    holdsLoop := true, loop := some .beginning }
  /-- Otherwise the start leaves its mark, and nothing else. -/
  failed : Starting.ofAnswer inRuntime answer ≠ .started →
    d = { c with started := true, hasRuntime := c.hasRuntime || inRuntime }

theorem start_of_fresh (live : c.disposed = false) (fresh : c.started = false) :
    (c.start profile inRuntime answer).2.2 = .ofAnswer inRuntime answer ∧
      LetIn profile inRuntime answer c (c.start profile inRuntime answer).1
        (c.start profile inRuntime answer).2.1 := by
  rw [start, if_neg (by simp [live]), if_neg (by simp [fresh])]
  cases inRuntime with
  | false =>
    refine ⟨rfl, by simp, fun _ => rfl, by simp [Starting.ofAnswer], fun _ => ?_⟩
    rw [Bool.or_false]
    rfl
  | true =>
    cases answer with
    | done => exact ⟨rfl, fun _ => ⟨[_], rfl⟩, by simp, fun _ => rfl, by simp [Starting.ofAnswer]⟩
    | failed e =>
      refine ⟨rfl, fun _ => ⟨[_], rfl⟩, by simp, by simp [Starting.ofAnswer], fun _ => ?_⟩
      rw [Bool.or_true]
      rfl
    | crashed text =>
      refine ⟨rfl, fun _ => ⟨[], rfl⟩, by simp, by simp [Starting.ofAnswer], fun _ => ?_⟩
      rw [Bool.or_true]
      rfl

/-- What becomes of a start: it comes after the shutdown was claimed, it comes after another one, or
it is let in. -/
theorem start_cases (profile : ConsumerProfile) (inRuntime : Bool) (answer : Answer)
    (c : Consumer) :
    (c.disposed = true ∧ c.start profile inRuntime answer = (c, [], .refused .disposed)) ∨
    (c.disposed = false ∧ c.started = true ∧
      c.start profile inRuntime answer = (c, [], .refused .alreadyStarted)) ∨
    c.disposed = false ∧ c.started = false ∧ ∃ d events,
      c.start profile inRuntime answer = (d, events, .ofAnswer inRuntime answer) ∧
        LetIn profile inRuntime answer c d events := by
  cases claimed : c.disposed with
  | true => exact .inl ⟨rfl, start_of_disposed claimed⟩
  | false =>
    cases started : c.started with
    | true => exact .inr (.inl ⟨rfl, rfl, start_of_started claimed started⟩)
    | false =>
      obtain ⟨result, letIn⟩ := @start_of_fresh profile inRuntime answer c claimed started
      exact .inr (.inr ⟨rfl, rfl, _, _, Prod.ext rfl (Prod.ext rfl result), letIn⟩)

theorem LetIn.started {d : Consumer} {events : List ConsumerEvent}
    (h : LetIn profile inRuntime answer c d events) : d.started = true := by
  by_cases launched : Starting.ofAnswer inRuntime answer = .started
  · rw [h.launched launched]
  · rw [h.failed launched]

/-- Only a start to which the broker agrees makes a loop. -/
theorem started_of_loop (missing : c.loop = none)
    (there : (c.start profile inRuntime answer).1.loop ≠ none) :
    (c.start profile inRuntime answer).2.2 = .started := by
  rcases c.start_cases profile inRuntime answer with
    ⟨-, ends⟩ | ⟨-, -, ends⟩ | ⟨-, -, d, events, ends, letIn⟩
  · exact absurd (by rw [ends]; exact missing) there
  · exact absurd (by rw [ends]; exact missing) there
  · rw [ends] at there ⊢
    by_contra failed
    exact there (by rw [letIn.failed failed]; exact missing)

end Consumer

namespace Office

variable {profile : ConsumerProfile} {o : Office} {history : List Entry}

/-- How the start ends that is made with the move, if one is. -/
def Entry.starting? (profile : ConsumerProfile) (e : Entry) : Option Starting :=
  match e.act with
  | .start inRuntime answer => some (e.before.consumer.start profile inRuntime answer).2.2
  | _ => none

theorem Entry.starting?_start {t : Office} {inRuntime : Bool} {answer : Answer}
    {events : List ConsumerEvent} :
    Entry.starting? profile ⟨o, .start inRuntime answer, events, t⟩ =
      some (o.consumer.start profile inRuntime answer).2.2 := rfl

/-- A start is let in: it is not turned away because of what happened before. -/
def Entry.isLetIn (profile : ConsumerProfile) (e : Entry) : Bool :=
  match e.starting? profile with
  | none | some (.refused .disposed) | some (.refused .alreadyStarted) => false
  | some _ => true

theorem Entry.isLetIn_of_starting? {e : Entry} {inRuntime : Bool} {answer : Answer}
    (ends : e.starting? profile = some (.ofAnswer inRuntime answer)) :
    e.isLetIn profile = true := by
  rw [isLetIn, ends]
  cases inRuntime <;> cases answer <;> rfl

/-- At most one start is let in, and it leaves its mark. -/
theorem Run.countP_isLetIn (run : Run profile new history o) :
    history.countP (Entry.isLetIn profile) = if o.consumer.started then 1 else 0 := by
  refine run.invariant
    (fun history o => history.countP (Entry.isLetIn profile) =
      if o.consumer.started then 1 else 0) rfl ?_
  intro history o env act t events counted move
  rw [List.countP_append, List.countP_singleton, counted]
  by_cases starts : ∃ inRuntime answer, act = .start inRuntime answer
  · obtain ⟨inRuntime, answer, rfl⟩ := starts
    cases move with
    | started =>
      rcases o.consumer.start_cases profile inRuntime answer with
        ⟨-, ends⟩ | ⟨-, -, ends⟩ | ⟨-, fresh, d, events, ends, letIn⟩
      · simp [Entry.isLetIn, Entry.starting?, ends]
      · simp [Entry.isLetIn, Entry.starting?, ends]
      · rw [Entry.isLetIn_of_starting? (Entry.starting?_start.trans (by rw [ends])), fresh, ends]
        simp [letIn.started]
  · push Not at starts
    have apart : Entry.isLetIn profile ⟨o, act, events, t⟩ = false := by
      cases act with
      | start inRuntime answer => exact absurd rfl (starts inRuntime answer)
      | _ => rfl
    rw [apart, (move.abides starts).started]
    simp

theorem Run.started_iff (run : Run profile new history o) :
    o.consumer.started = true ↔ ∃ f ∈ history, f.isLetIn profile = true := by
  rw [← List.countP_pos_iff, run.countP_isLetIn]
  cases o.consumer.started <;> simp

theorem Run.disposed_iff (run : Run profile new history o) :
    o.consumer.disposed = true ↔ ∃ f ∈ history, f.claims = true := by
  obtain ⟨s, is, -, told⟩ := run.told
  rw [← List.countP_pos_iff, told.once]
  cases o.consumer.disposed <;> simp

/-! ## Every start of a run -/

/-- What becomes of a start that is made after a history. -/
structure Entry.Answered (profile : ConsumerProfile) (front : List Entry) (e : Entry)
    (inRuntime : Bool) (answer : Answer) : Prop where
  /-- It is refused for this reason if the shutdown has been claimed before. -/
  disposed : e.starting? profile = some (.refused .disposed) ↔ ∃ f ∈ front, f.claims = true
  /-- It is refused for this reason if another one was let in before, whatever became of it. -/
  alreadyStarted : e.starting? profile = some (.refused .alreadyStarted) ↔
    (¬ ∃ f ∈ front, f.claims = true) ∧ ∃ f ∈ front, f.isLetIn profile = true
  /-- If it is refused for one of these reasons, nothing happens. -/
  refused : e.isLetIn profile = false → e.after = e.before ∧ e.events = []
  /-- Otherwise it ends as the broker says. -/
  letIn : e.isLetIn profile = true → e.starting? profile = some (.ofAnswer inRuntime answer) ∧
    ∃ c, Consumer.LetIn profile inRuntime answer e.before.consumer c e.events ∧
      e.after = { e.before with consumer := c }

/-- The office after a start. -/
def afterStart (profile : ConsumerProfile) (o : Office) (inRuntime : Bool) (answer : Answer) :
    Office :=
  { o with consumer := (o.consumer.start profile inRuntime answer).1 }

/-- A start is refused for what happened before it, and only for that. -/
theorem answered_start {front : List Entry} (inRuntime : Bool) (answer : Answer)
    (claimed : o.consumer.disposed = true ↔ ∃ f ∈ front, f.claims = true)
    (marked : o.consumer.started = true ↔ ∃ f ∈ front, f.isLetIn profile = true) :
    Entry.Answered profile front ⟨o, .start inRuntime answer,
      (o.consumer.start profile inRuntime answer).2.1, o.afterStart profile inRuntime answer⟩
      inRuntime answer := by
  have result := @Entry.starting?_start profile o (o.afterStart profile inRuntime answer) inRuntime
    answer (o.consumer.start profile inRuntime answer).2.1
  unfold afterStart at result ⊢
  rcases o.consumer.start_cases profile inRuntime answer with
    ⟨disposed, ends⟩ | ⟨live, mark, ends⟩ | ⟨live, fresh, d, events, ends, letIn⟩
  · rw [ends] at result ⊢
    have late := claimed.mp disposed
    constructor
    · simp [result, late]
    · simp [result, late]
    · exact fun _ => ⟨rfl, rfl⟩
    · simp [Entry.isLetIn, result]
  · rw [ends] at result ⊢
    have early : ¬ ∃ f ∈ front, f.claims = true := claimed.not.mp (by simp [live])
    have later := marked.mp mark
    constructor
    · simp [result, early]
    · simp [result, early, later]
    · exact fun _ => ⟨rfl, rfl⟩
    · simp [Entry.isLetIn, result]
  · rw [ends] at result ⊢
    have early : ¬ ∃ f ∈ front, f.claims = true := claimed.not.mp (by simp [live])
    have first : ¬ ∃ f ∈ front, f.isLetIn profile = true := marked.not.mp (by simp [fresh])
    constructor
    · simp [result, early, Starting.ofAnswer_ne_disposed]
    · simp [result, first, Starting.ofAnswer_ne_alreadyStarted]
    · exact fun out => absurd (Entry.isLetIn_of_starting? result) (by simp [out])
    · exact fun _ => ⟨result, d, letIn, rfl⟩

/-- How the starts of a run end, and where its loop comes from. -/
structure Commences (profile : ConsumerProfile) (history : List Entry) : Prop where
  answered : ∀ front e back inRuntime answer, history = front ++ e :: back →
    e.act = .start inRuntime answer → e.Answered profile front inRuntime answer
  /-- At most one start is let in. -/
  once : history.countP (Entry.isLetIn profile) ≤ 1
  /-- Nobody but a start to which the broker agrees gives the consumer a loop. -/
  loop : ∀ e ∈ history, e.before.consumer.loop = none → e.after.consumer.loop ≠ none →
    e.starting? profile = some .started

theorem run_commences (run : Run profile new history o) : Commences profile history := by
  constructor
  case answered =>
    rintro front ⟨o, act, events, t⟩ back inRuntime answer rfl asked
    obtain ⟨before, env, move⟩ := run.split
    obtain rfl : act = .start inRuntime answer := asked
    change Move profile env o _ t events at move
    cases move with
    | started => exact answered_start inRuntime answer before.disposed_iff before.started_iff
  case once =>
    rw [run.countP_isLetIn]
    split <;> simp
  case loop =>
    rintro ⟨o, act, events, t⟩ mem missing there
    obtain ⟨front, back, rfl⟩ := List.append_of_mem mem
    obtain ⟨-, env, move⟩ := run.split
    change Move profile env o act t events at move
    by_cases starts : ∃ inRuntime answer, act = .start inRuntime answer
    · obtain ⟨inRuntime, answer, rfl⟩ := starts
      cases move with
      | started =>
        exact Entry.starting?_start.trans (congrArg some (Consumer.started_of_loop missing there))
    · push Not at starts
      refine absurd ?_ there
      exact ((move.abides starts).loop fun loop here => by cases missing.symm.trans here).trans
        missing

/-- A second start comes while the loop runs, and a third one when it is shutting down. -/
def startedThrice : List Entry × Office :=
  new.play (shop.profile false) <| List.map (fun act => (.calm 0, act)) <| List.flatten
    [[.start true .done, .start true .done, .goes .loop, .stop],
      .replicate 3 (.goes .loop), [.start true .done]]

theorem startedThrice_commences : Commences (shop.profile false) startedThrice.1 ∧
    startedThrice.1.filterMap (Entry.starting? (shop.profile false)) =
      [.started, .refused .alreadyStarted, .refused .disposed] :=
  ⟨run_commences (run_play (shop.profile false) new _), by decide +kernel⟩

/-- The broker does not agree to the first start, and would have agreed to the second. -/
def turnedDown : List Entry × Office :=
  new.play (shop.profile false) <| List.map (fun act => (.calm 0, act))
    [.start true (.failed (.transient "broker unavailable")), .start true .done]

/-- A start is refused as if the consumer had been started, though no start has succeeded and nobody
has asked for a shutdown. -/
theorem exists_refused_unstarted :
    turnedDown.1.filterMap (Entry.starting? (shop.profile false)) =
        [.refused (.subscribe (.transient "broker unavailable")), .refused .alreadyStarted] ∧
      turnedDown.1.countP Entry.claims = 0 ∧ turnedDown.2.consumer.loop.isNone := by
  decide +kernel

end Office

end TopicConsumer
