import TopicConsumer.Proofs.Consumer.Standing
import TopicConsumer.Proofs.Worker.Worksite

/-!
# Rounds of the poll loop

The loop polls, passes every record on to the worker of its partition, asks what to do about every
error that drops the consumer, and begins anew, until it is told to stop. `Office.Turn` says what a
move is to the loop; everything else that goes on in an office is the same to it.
-/

namespace TopicConsumer

/-- A call that enqueues a record begins once, and crashes only with a call of the broker. -/
theorem Intake.Move.goesOn {env : Surroundings} {r : Record} {s t : Station} {i j : Intake}
    {events : List Event} (move : Intake.Move env r s i t j events) : j ≠ .checkingStatus ∧
      ∀ text, j = .crashed text → ∃ call, .call call (.crashed text) ∈ events := by
  cases move with
  | pauseCrashed broken | resumeCrashed broken =>
    refine ⟨by simp, fun text same => ?_⟩
    cases same
    exact Station.exists_crashed_call _ _ _ _ broken (by simp)
  | _ => exact ⟨by simp, by simp⟩

/-- A call that enqueues a record goes on by itself, unless it waits for a time. -/
theorem Intake.step_isSome (env : Surroundings) (r : Record) (s : Station) {call : Intake}
    (alive : call.isOver = false) (due : ∀ wake, call.wakeAt = some wake → wake ≤ env.now) :
    (call.step env r s).isSome = true := by
  cases call with
  | waiting attempt wake =>
    have due := due wake rfl
    simp only [step, due, if_true]
    split <;> rfl
  | returned result | crashed text => cases alive
  | acquiring attempt =>
    simp only [step]
    split
    · rfl
    · split <;> rfl
  | checkingStatus | checkingPause | checkingCommitted | checkingQueued | rechecking =>
    simp only [step]
    split <;> rfl
  | admitting | pausing | resuming => rfl

namespace Office

/-- A move that only the loop makes. -/
def Act.turns : Act → Bool
  | .goes .loop | .polled _ | .pollCrashes _ | .decided _ => true
  | _ => false

/-- What a move is to the loop, and where the loop stands afterwards. -/
inductive Turn (o : Office) : Act → Option PollLoop → List ConsumerEvent → Prop
  | still {act : Act} {events : List ConsumerEvent} (apart : act.turns = false) :
      Turn o act o.consumer.loop events
  | entered {inRuntime : Bool} {answer : Answer} {events : List ConsumerEvent}
      (fresh : o.consumer.loop = none) : Turn o (.start inRuntime answer) (some .beginning) events
  | began {events : List ConsumerEvent} (place : o.consumer.loop = some .beginning) :
      Turn o (.goes .loop) (some .turning) events
  | turned {events : List ConsumerEvent} (place : o.consumer.loop = some .turning)
      (running : o.consumer.loopStops = false) : Turn o (.goes .loop) (some .polling) events
  | stopped {events : List ConsumerEvent}
      (place : o.consumer.loop = some .turning ∨ o.consumer.loop = some .polling)
      (told : o.consumer.loopStops = true) :
      Turn o (.goes .loop) (some (.shuttingDown .claiming)) events
  | passed {i : Nat} {r : Record} {call next : Intake} {events : List ConsumerEvent}
      (place : o.consumer.loop = some (.enqueuing i r call)) (begun : next ≠ .checkingStatus)
      (broken : ∀ text, next = .crashed text → Breaks events) :
      Turn o (.goes .loop) (some (PollLoop.ofIntake i r next).1) events
  | polled {result : PollResult} {events : List ConsumerEvent}
      (polling : o.consumer.loop = some .polling) (running : o.consumer.loopStops = false) :
      Turn o (.polled result) (some (PollLoop.polled o.consumer result).1) events
  | pollCrashed {text : String} {events : List ConsumerEvent}
      (polling : o.consumer.loop = some .polling) (running : o.consumer.loopStops = false) :
      Turn o (.pollCrashes text) (some (.crashed text)) events
  | decided {error : BrokerError} {decision : Decision} {events : List ConsumerEvent}
      (deciding : o.consumer.loop = some (.deciding error)) :
      Turn o (.decided decision) (some (PollLoop.decided decision).1) events
  | shut {act : Act} {s u : Shutdown} {events : List ConsumerEvent}
      (place : o.consumer.loop = some (.shuttingDown s))
      (mover : act = .goes .loop ∨ ∃ answer, act = .notified .loop answer) :
      Turn o act (some (.ofShutdown u)) events

variable {profile : ConsumerProfile} {env : Surroundings} {o t : Office}

theorem Move.turn {act : Act} {events : List ConsumerEvent} (entered : Entered o)
    (move : Move profile env o act t events) : Turn o act t.consumer.loop events := by
  have still : t.consumer.loop = o.consumer.loop → act.turns = false →
      Turn o act t.consumer.loop events := fun loop apart => loop ▸ .still apart
  cases move with
  | started =>
    rename_i inRuntime answer
    rcases (Consumer.start_spec profile inRuntime answer o.consumer).2.2 with
      same | ⟨fresh, -, same | beginning⟩
    · exact still (congrArg Consumer.loop same) rfl
    · exact still same rfl
    · dsimp only
      rw [beginning]
      exact .entered (entered fresh)
  | began place => exact .began place
  | turned place running => exact .turned place running
  | stopped place told => exact .stopped place told
  | passed place worker move =>
    obtain ⟨begun, broken⟩ := move.goesOn
    refine .passed place begun fun text crashed => ?_
    obtain ⟨call, mem⟩ := broken text crashed
    exact ⟨call, text, List.mem_append_left _ (List.mem_map_of_mem mem)⟩
  | polled polling running => exact .polled polling running
  | pollCrashed polling running => exact .pollCrashed polling running
  | decided deciding => exact .decided deciding
  | reassigned held =>
    rename_i ps
    obtain ⟨m, ws, entries, tasks, names, after⟩ := o.consumer.reassign_eq env profile ps
    exact still (congrArg Consumer.loop after :) rfl
  | revoked free => exact still (Consumer.alike_revoke env _ o.consumer).2 rfl
  | ignored | accepted | batch | handler | removal | told | close => exact still rfl rfl
  | closing found early step => exact still (alike_of_early early step).2.1 rfl
  | shut place clear step =>
    rename_i party s u c
    cases party with
    | loop => exact .shut (shutdown?_loop.mp place) (.inl rfl)
    | call n => exact still (endures_of_shut step).loop rfl
  | notified place heard =>
    rename_i party answer
    cases party with
    | loop => exact .shut (u := .finishing) (shutdown?_loop.mp place) (.inr ⟨_, rfl⟩)
    | call n => exact still rfl rfl

/-! ## Telling the loop to stop -/

theorem loopStops_of_same {c d : Consumer} (token : d.loopToken = c.loopToken)
    (application : d.applicationStops = c.applicationStops) (told : c.loopStops = true) :
    d.loopStops = true := by
  rwa [Consumer.loopStops, token, application]

/-- Nobody takes it back that the loop is to stop. -/
theorem Move.loopStops {act : Act} {events : List ConsumerEvent}
    (move : Move profile env o act t events) (told : o.consumer.loopStops = true) :
    t.consumer.loopStops = true := by
  cases move with
  | started =>
    rename_i inRuntime answer
    simp only [Consumer.start]
    split
    · exact told
    · split
      · exact told
      · split
        · exact told
        · cases answer with
          | done =>
            unfold Consumer.loopStops at *
            cases token : o.consumer.loopToken with
            | none => simp [token] at told
            | some used => simpa [token] using told
          | _ => exact told
  | reassigned held =>
    rename_i ps
    obtain ⟨m, ws, entries, tasks, names, after⟩ := o.consumer.reassign_eq env profile ps
    exact loopStops_of_same (congrArg Consumer.loopToken after :)
      (congrArg Consumer.applicationStops after :) told
  | revoked free =>
    rename_i ps
    obtain ⟨m, after, -⟩ := Consumer.revoke_spec env o.consumer ps
    exact loopStops_of_same (congrArg Consumer.loopToken after :)
      (congrArg Consumer.applicationStops after :) told
  | told =>
    unfold Consumer.loopStops at *
    cases token : o.consumer.loopToken with
    | none => simp [token] at told
    | some used => simp
  | closing found early step =>
    rename_i n call next c
    cases call with
    | stoppingLoop => cases step; exact loopStops_stopLoop told
    | takingLoop => cases step; exact told
    | awaitingLoop =>
      simp only [Closing.step] at step
      split at step <;> cases step <;> exact told
    | shuttingDown s => exact absurd rfl (early s)
    | returned | crashed text => cases step
  | shut place clear step =>
    rename_i party s u c
    have kept := (endures_of_shut step).loopStops told
    cases party <;> exact kept
  | notified place heard =>
    rename_i party answer
    cases party <;> exact told
  | _ => exact told

/-! ## Records and drops -/

/-- What comes in goes out again in the same order, but for what is held at the end. -/
theorem Run.conveyed {α : Type} {into out : Entry → Option α} {held : Option PollLoop → Option α}
    (empty : held none = none)
    (conveys : ∀ {o t : Office} {act : Act} {events : List ConsumerEvent},
      Turn o act t.consumer.loop events →
        (out ⟨o, act, events, t⟩).toList ++ (held t.consumer.loop).toList =
          (held o.consumer.loop).toList ++ (into ⟨o, act, events, t⟩).toList)
    {history : List Entry} (run : Run profile new history o) :
    history.filterMap out ++ (held o.consumer.loop).toList = history.filterMap into := by
  have single : ∀ (f : Entry → Option α) (e : Entry), [e].filterMap f = (f e).toList := by
    intro f e
    cases h : f e <;> simp [h]
  induction run with
  | start => simp [new, Consumer.fresh, empty]
  | step run made ih =>
    -- what was held before the move stands between the two histories
    have step := conveys ((move_of_step made).turn run.standing.1)
    rw [List.filterMap_append, List.filterMap_append, single, single, List.append_assoc, step,
      ← List.append_assoc, ih]

/-- The worker of the polled record's partition, and the record. -/
def Entry.routed? (e : Entry) : Option (Nat × Record) :=
  match e.act with
  | .polled (.ok (some (.record r))) =>
    (e.before.consumer.workerOf? r.partition).map fun i => (i, r)
  | _ => none

/-- The worker that begins to enqueue a record, and the record. -/
def Entry.passed? (e : Entry) : Option (Nat × Record) :=
  match e.act, e.before.consumer.loop with
  | .goes .loop, some (.enqueuing i r .checkingStatus) => some (i, r)
  | _, _ => none

/-- The record that a worker is about to enqueue. -/
def toPass? : Option PollLoop → Option (Nat × Record)
  | some (.enqueuing i r .checkingStatus) => some (i, r)
  | _ => none

/-- The polled error that drops the consumer. -/
def Entry.dropped? (e : Entry) : Option BrokerError :=
  match e.act with
  | .polled (.error error) => if error.dropsConsumer then some error else none
  | _ => none

/-- The error after which somebody has decided what to do. -/
def Entry.answered? (e : Entry) : Option BrokerError :=
  match e.act, e.before.consumer.loop with
  | .decided _, some (.deciding error) => some error
  | _, _ => none

/-- The error after which somebody is asked what to do. -/
def toAnswer? : Option PollLoop → Option BrokerError
  | some (.deciding error) => some error
  | _ => none

/-- A polled record is passed on before anything else happens to the loop, and a polled error that
drops the consumer is answered before. -/
theorem Turn.conveys {act : Act} {events : List ConsumerEvent}
    (turn : Turn o act t.consumer.loop events) :
    (Entry.passed? ⟨o, act, events, t⟩).toList ++ (toPass? t.consumer.loop).toList =
        (toPass? o.consumer.loop).toList ++ (Entry.routed? ⟨o, act, events, t⟩).toList ∧
      (Entry.answered? ⟨o, act, events, t⟩).toList ++ (toAnswer? t.consumer.loop).toList =
        (toAnswer? o.consumer.loop).toList ++ (Entry.dropped? ⟨o, act, events, t⟩).toList := by
  generalize t.consumer.loop = next at turn
  simp only [Entry.passed?, Entry.routed?, Entry.answered?, Entry.dropped?]
  cases turn with
  | still apart =>
    cases act with
    | goes party =>
      cases party with
      | loop => cases apart
      | call n => simp
    | polled | pollCrashes | decided => cases apart
    | _ => simp
  | passed place begun broken =>
    rename_i i r call next
    -- a call that has begun never stands at its beginning again
    have nothing : toPass? (some (PollLoop.ofIntake i r next).1) = none ∧
        toAnswer? (some (PollLoop.ofIntake i r next).1) = none := by
      cases next with
      | returned result => cases result <;> exact ⟨rfl, rfl⟩
      | checkingStatus => exact absurd rfl begun
      | _ => exact ⟨rfl, rfl⟩
    rw [nothing.1, nothing.2]
    cases call <;> simp [place, toPass?, toAnswer?]
  | polled polling running =>
    rename_i result
    rcases result with error | (- | (r | n))
    · by_cases drops : error.dropsConsumer = true <;>
        simp [polling, PollLoop.polled, drops, toPass?, toAnswer?]
    · simp [polling, PollLoop.polled, toPass?, toAnswer?]
    · cases found : o.consumer.workerOf? r.partition <;>
        simp [polling, PollLoop.polled, found, toPass?, toAnswer?]
    · simp [polling, PollLoop.polled, toPass?, toAnswer?]
  | decided deciding =>
    rename_i error decision
    rcases decision with (- | -) | text | text <;>
      simp [deciding, PollLoop.decided, toPass?, toAnswer?]
  | shut place mover =>
    rename_i s u
    rcases mover with rfl | ⟨answer, rfl⟩ <;> cases u <;>
      simp [place, PollLoop.ofShutdown, toPass?, toAnswer?]
  | stopped place =>
    rcases place with place | place <;> simp [place, toPass?, toAnswer?]
  | entered place | began place | turned place | pollCrashed place =>
    simp [place, toPass?, toAnswer?]

/-! ## The end of the rounds -/

/-- The loop goes on with its rounds. -/
def isRunning : Option PollLoop → Bool
  | some .beginning | some .turning | some .polling | some (.enqueuing _ _ _)
  | some (.deciding _) => true
  | _ => false

/-- The loop ends its rounds: at the head of a turn or at a poll it finds that it has been told to
stop, or this is what becomes of an error that dropped the consumer. -/
def Entry.Stops (e : Entry) : Prop :=
  (e.act = .goes .loop ∧ e.before.consumer.loopStops = true ∧
    (e.before.consumer.loop = some .turning ∨ e.before.consumer.loop = some .polling)) ∨
  ∃ error, e.before.consumer.loop = some (.deciding error) ∧
    (e.act = .decided (.taken .stop) ∨ ∃ text, e.act = .decided (.failed text))

/-- The loop crashes with the broker, or with whoever was asked what to do. -/
def Entry.Crashes (e : Entry) : Prop :=
  (∃ text, e.after.consumer.loop = some (.crashed text)) ∧
    ((∃ text, e.act = .pollCrashes text) ∨ (∃ text, e.act = .decided (.crashed text)) ∨
      Breaks e.events)

/-- Nothing else ends the rounds. -/
theorem Turn.ends {act : Act} {events : List ConsumerEvent}
    (turn : Turn o act t.consumer.loop events) (running : isRunning o.consumer.loop = true) :
    isRunning t.consumer.loop = true ∨ Entry.Stops ⟨o, act, events, t⟩ ∨
      Entry.Crashes ⟨o, act, events, t⟩ := by
  have crashes : ∀ {text : String}, t.consumer.loop = some (.crashed text) →
      ((∃ text, act = .pollCrashes text) ∨ (∃ text, act = .decided (.crashed text)) ∨
        Breaks events) → Entry.Crashes ⟨o, act, events, t⟩ := fun loop why => ⟨⟨_, loop⟩, why⟩
  have alive : ∀ {loop : PollLoop}, t.consumer.loop = some loop → isRunning (some loop) = true →
      isRunning t.consumer.loop = true := fun loop alive => loop ▸ alive
  generalize at_ : t.consumer.loop = next at turn
  cases turn with
  | still apart => exact .inl (at_ ▸ running)
  | entered => exact .inl rfl
  | began | turned => exact .inl rfl
  | stopped place told => exact .inr (.inl (.inl ⟨rfl, told, place⟩))
  | passed place begun broken =>
    rename_i i r call next
    cases next with
    | returned result => cases result <;> exact .inl rfl
    | crashed text => exact .inr (.inr (crashes at_ (.inr (.inr (broken text rfl)))))
    | _ => exact .inl rfl
  | polled polling free =>
    rename_i result
    refine .inl ?_
    rcases result with error | (- | (r | n)) <;> simp only [PollLoop.polled]
    · split <;> rfl
    · rfl
    · split <;> rfl
    · rfl
  | pollCrashed => exact .inr (.inr (crashes at_ (.inl ⟨_, rfl⟩)))
  | decided deciding =>
    rename_i error decision
    rcases decision with (- | -) | text | text
    · exact .inl rfl
    · exact .inr (.inl (.inr ⟨error, deciding, .inl rfl⟩))
    · exact .inr (.inl (.inr ⟨error, deciding, .inr ⟨text, rfl⟩⟩))
    · exact .inr (.inr (crashes at_ (.inr (.inl ⟨text, rfl⟩))))
  | shut place =>
    rw [place] at running
    cases running

/-- The loop that ends its rounds is about to shut the consumer down. -/
theorem Turn.shuts {act : Act} {events : List ConsumerEvent}
    (turn : Turn o act t.consumer.loop events) (stops : Entry.Stops ⟨o, act, events, t⟩) :
    isRunning o.consumer.loop = true ∧
      t.consumer.loop = some (.shuttingDown .claiming) := by
  simp only [Entry.Stops] at stops
  generalize t.consumer.loop = next at turn
  rcases stops with ⟨rfl, told, place⟩ | ⟨error, deciding, rfl | ⟨text, rfl⟩⟩
  · have running : isRunning o.consumer.loop = true := by
      rcases place with place | place <;> rw [place] <;> rfl
    refine ⟨running, ?_⟩
    cases turn with
    | stopped => rfl
    | still apart => cases apart
    | turned _ free => exact absurd (free.symm.trans told) Bool.false_ne_true
    | began before | passed before | shut before =>
      rcases place with place | place <;> rw [place] at before <;> cases before
  · rw [deciding]
    cases turn with
    | decided => exact ⟨rfl, rfl⟩
    | still apart => cases apart
    | shut place => cases place.symm.trans deciding
  · rw [deciding]
    cases turn with
    | decided => exact ⟨rfl, rfl⟩
    | still apart => cases apart
    | shut place => cases place.symm.trans deciding

/-- A loop that has been told to stop ends its rounds when it is at the head of a turn, or at a
poll, and makes a move. -/
theorem Turn.stops {act : Act} {events : List ConsumerEvent}
    (turn : Turn o act t.consumer.loop events) (moves : act.turns = true)
    (told : o.consumer.loopStops = true)
    (place : o.consumer.loop = some .turning ∨ o.consumer.loop = some .polling) :
    Entry.Stops ⟨o, act, events, t⟩ := by
  refine .inl ⟨?_, told, place⟩
  generalize t.consumer.loop = next at turn
  cases turn with
  | still apart => exact absurd (apart.symm.trans moves) Bool.false_ne_true
  | entered => cases moves
  | began | turned | stopped | passed => rfl
  | polled _ free | pollCrashed _ free => exact absurd (free.symm.trans told) Bool.false_ne_true
  | decided before => rcases place with place | place <;> rw [place] at before <;> cases before
  | shut before => rcases place with place | place <;> rw [place] at before <;> cases before

theorem Turn.stays {act : Act} {events : List ConsumerEvent}
    (turn : Turn o act t.consumer.loop events) (entered : o.consumer.loop ≠ none) :
    t.consumer.loop ≠ none := by
  generalize t.consumer.loop = next at turn
  cases turn with
  | still => exact entered
  | _ => simp

/-- Once the rounds have ended they do not begin again. -/
theorem Turn.ended {act : Act} {events : List ConsumerEvent}
    (turn : Turn o act t.consumer.loop events) (entered : o.consumer.loop ≠ none)
    (ended : isRunning o.consumer.loop = false) : isRunning t.consumer.loop = false := by
  generalize t.consumer.loop = next at turn
  cases turn with
  | still => exact ended
  | entered fresh => exact absurd fresh entered
  | shut place mover =>
    rename_i s u
    cases u <;> rfl
  | stopped place => rcases place with place | place <;> rw [place] at ended <;> cases ended
  | began place | turned place | passed place | polled place | pollCrashed place | decided place =>
    rw [place] at ended
    cases ended

/-! ## The worker of a record -/

/-- A record is passed on to the worker that its partition had when it was polled, and no longer
than until the worker is done with it. -/
theorem Turn.enqueuing {act : Act} {events : List ConsumerEvent} {i : Nat} {r : Record}
    {call : Intake} (turn : Turn o act (some (.enqueuing i r call)) events) :
    o.consumer.loop = some (.enqueuing i r call) ∨ call.isOver = false ∧
      ((∃ call, o.consumer.loop = some (.enqueuing i r call)) ∨
        o.consumer.workerOf? r.partition = some i) := by
  generalize at_ : some (PollLoop.enqueuing i r call) = next at turn
  cases turn with
  | still => exact .inl rfl
  | passed place begun broken =>
    rename_i j r' call' next
    rcases PollLoop.ofIntake_spec j r' next with ⟨alive, goesOn⟩ | ⟨-, free, -⟩
    · rw [goesOn] at at_
      cases at_
      exact .inr ⟨alive, .inl ⟨call', place⟩⟩
    · exact absurd (Option.some.inj at_).symm (free.passes _ _ _)
  | polled polling running =>
    rename_i result
    rcases PollLoop.polled_spec o.consumer result with ⟨r', j, -, found, same⟩ | ⟨free, -⟩
    · rw [same] at at_
      cases at_
      exact .inr ⟨rfl, .inr found⟩
    · exact absurd (Option.some.inj at_).symm (free.passes _ _ _)
  | decided deciding =>
    rename_i error decision
    exact absurd (Option.some.inj at_).symm ((PollLoop.decided_spec decision).1.passes _ _ _)
  | shut place mover =>
    rename_i s u
    cases u <;> cases at_
  | entered | began | turned | stopped | pollCrashed => cases at_

/-- A record is passed on to a worker of its own partition, which is not done with it. -/
theorem Run.own {history : List Entry} (run : Run profile new history o) {i : Nat} {r : Record}
    {call : Intake} (place : o.consumer.loop = some (.enqueuing i r call)) :
    call.isOver = false ∧ ∃ b, o.consumer.badges[i]? = some b ∧ b.partition = r.partition := by
  induction run generalizing call with
  | start => cases place
  | step run made ih =>
    rename_i history o t env act events
    obtain ⟨entered, s, standing⟩ := run.standing
    have move := move_of_step made
    have before : call.isOver = false ∧
        ∃ b, o.consumer.badges[i]? = some b ∧ b.partition = r.partition := by
      have turn := move.turn entered
      rw [place] at turn
      rcases turn.enqueuing with here | ⟨alive, ⟨call, here⟩ | found⟩
      · exact ih here
      · exact ⟨alive, (ih here).2⟩
      · -- the worker is that of the partition when the record is polled, and it keeps its badge
        obtain ⟨leaving, housed⟩ := standing.housed
        obtain ⟨settings, -, badge⟩ := housed.registered _ i (housed.workerOf?_eq_some.mp found)
        exact ⟨alive, _, badge, rfl⟩
    obtain ⟨alive, b, found, partition⟩ := before
    obtain ⟨b', found, same, -⟩ := (move.gist entered).keeps.2 i b found
    exact ⟨alive, b', found, same.trans partition⟩

/-! ## All rounds of a run -/

/-- The loop can go on: by itself, with whatever is polled, or with whatever is decided. -/
def GoesOn (profile : ConsumerProfile) (env : Surroundings) (o : Office) : Prop :=
  (o.step profile env (.goes .loop)).isSome = true ∨
    (∀ result, (o.step profile env (.polled result)).isSome = true) ∨
      ∀ decision, (o.step profile env (.decided decision)).isSome = true

/-- Nobody holds up the loop but the broker, whoever is asked what to do, and the clock. -/
theorem Run.goesOn {history : List Entry} (run : Run profile new history o) (env : Surroundings)
    {loop : PollLoop} (place : o.consumer.loop = some loop)
    (early : isRunning (some loop) = true ∨ loop = .shuttingDown .claiming)
    (due : ∀ wake, loop.wakeAt = some wake → wake ≤ env.now) : GoesOn profile env o := by
  cases loop with
  | beginning =>
    refine .inl ?_
    simp [Office.step, waits, shutdown?, place, PollLoop.step]
  | turning =>
    refine .inl ?_
    cases told : o.consumer.loopStops <;>
      simp [Office.step, waits, shutdown?, place, PollLoop.step, told]
  | polling =>
    cases told : o.consumer.loopStops with
    | true =>
      refine .inl ?_
      simp [Office.step, waits, shutdown?, place, PollLoop.step, told]
    | false =>
      refine .inr (.inl fun result => ?_)
      simp [Office.step, place, told]
  | enqueuing i r call =>
    refine .inl ?_
    obtain ⟨alive, b, found, -⟩ := run.own place
    rw [Consumer.badges_getElem?] at found
    obtain ⟨w, worker, -⟩ := Option.map_eq_some_iff.mp found
    obtain ⟨moved, made⟩ := Option.isSome_iff_exists.mp
      (Intake.step_isSome env r ⟨o.consumer.manager, w⟩ alive due)
    simp [Office.step, waits, shutdown?, place, PollLoop.step, Consumer.station?, worker, made]
  | deciding error =>
    refine .inr (.inr fun decision => ?_)
    simp [Office.step, place]
  | shuttingDown s =>
    obtain rfl : s = .claiming := by
      rcases early with running | same
      · cases running
      · exact PollLoop.shuttingDown.inj same
    refine .inl ?_
    cases claimed : o.consumer.disposed <;>
      simp [Office.step, waits, shutdown?, place, PollLoop.step, Shutdown.step, claimed]
  | returned | crashed text => rcases early with early | early <;> cases early

/-- What the poll loop does in a run. -/
structure Rounds (profile : ConsumerProfile) (history : List Entry) (o : Office) : Prop where
  /-- The polled records whose partition has a worker are passed on, each once and in order, but for
  the one that is about to be. -/
  passed : history.filterMap Entry.passed? ++ (toPass? o.consumer.loop).toList =
    history.filterMap Entry.routed?
  /-- Each goes to a worker of its own partition. -/
  own : ∀ e ∈ history, ∀ i r, e.passed? = some (i, r) →
    ∃ w, e.before.consumer.workers[i]? = some w ∧ w.partition = r.partition
  /-- Somebody decides once about each error that dropped the consumer, in order, but for the one
  about which somebody is being asked. -/
  asked : history.filterMap Entry.answered? ++ (toAnswer? o.consumer.loop).toList =
    history.filterMap Entry.dropped?
  /-- Whatever is polled, and whatever becomes of a record, the rounds go on. -/
  ends : ∀ e ∈ history, isRunning e.before.consumer.loop = true →
    isRunning e.after.consumer.loop = true ∨ e.Stops ∨ e.Crashes
  /-- The rounds end with the first decision against them, and the shutdown begins. -/
  stops : ∀ e ∈ history, e.Stops → isRunning e.before.consumer.loop = true ∧
    e.after.consumer.loop = some (.shuttingDown .claiming)
  /-- They end with the first turn after the loop was told to stop. -/
  prompt : ∀ e ∈ history, e.act.turns = true → e.before.consumer.loopStops = true →
    (e.before.consumer.loop = some .turning ∨ e.before.consumer.loop = some .polling) → e.Stops
  /-- Nothing is polled any more after the loop was told to stop. -/
  deaf : ∀ front e back, history = front ++ e :: back → e.before.consumer.loopStops = true →
    ∀ f ∈ e :: back, ∀ result, f.act ≠ .polled result
  /-- The rounds end once, and nothing is polled, passed on or asked afterwards. -/
  final : ∀ front e back, history = front ++ e :: back →
    isRunning e.before.consumer.loop = true → isRunning e.after.consumer.loop = false →
      ∀ f ∈ back, isRunning f.before.consumer.loop = false ∧ f.routed? = none ∧
        f.passed? = none ∧ f.dropped? = none ∧ f.answered? = none
  /-- Nobody holds up the rounds, or the shutdown that follows them. -/
  goesOn : ∀ loop, o.consumer.loop = some loop →
    isRunning (some loop) = true ∨ loop = .shuttingDown .claiming →
      ∀ env, (∀ wake, loop.wakeAt = some wake → wake ≤ env.now) → GoesOn profile env o
  /-- A shutdown that has begun is carried out, unless somebody else was first. -/
  shuts : ∀ e ∈ history, e.act = .goes .loop →
    e.before.consumer.loop = some (.shuttingDown .claiming) → e.after.consumer.disposed = true

theorem to_eq_none_of_ended {loop : Option PollLoop} (ended : isRunning loop = false) :
    toPass? loop = none ∧ toAnswer? loop = none := by
  rcases loop with - | loop
  · exact ⟨rfl, rfl⟩
  · cases loop <;> first | exact ⟨rfl, rfl⟩ | cases ended

/-- Nothing happens to a loop that is not at its rounds. -/
theorem Turn.nothing {act : Act} {events : List ConsumerEvent}
    (turn : Turn o act t.consumer.loop events) (entered : o.consumer.loop ≠ none)
    (ended : isRunning o.consumer.loop = false) :
    Entry.routed? ⟨o, act, events, t⟩ = none ∧ Entry.passed? ⟨o, act, events, t⟩ = none ∧
      Entry.dropped? ⟨o, act, events, t⟩ = none ∧ Entry.answered? ⟨o, act, events, t⟩ = none := by
  have passed : Entry.passed? ⟨o, act, events, t⟩ = none := by
    unfold Entry.passed?
    split
    · next place => rw [place] at ended; cases ended
    · rfl
  have answered : Entry.answered? ⟨o, act, events, t⟩ = none := by
    unfold Entry.answered?
    split
    · next place => rw [place] at ended; cases ended
    · rfl
  obtain ⟨passes, answers⟩ := turn.conveys
  obtain ⟨noRecord, noError⟩ := to_eq_none_of_ended ended
  obtain ⟨noNext, noNextError⟩ := to_eq_none_of_ended (turn.ended entered ended)
  rw [passed, noRecord, noNext] at passes
  rw [answered, noError, noNextError] at answers
  exact ⟨by simpa using passes.symm, passed, by simpa using answers.symm, answered⟩

/-- The first move of a shutdown of the loop claims it, unless somebody else was first. -/
theorem Move.disposes {act : Act} {events : List ConsumerEvent}
    (move : Move profile env o act t events) (goes : act = .goes .loop)
    (place : o.consumer.loop = some (.shuttingDown .claiming)) : t.consumer.disposed = true := by
  have loop := shutdown?_loop.mpr place
  cases move with
  | shut there clear step =>
    rename_i party s u c
    cases goes
    obtain rfl : s = .claiming := Option.some.inj (there.symm.trans loop)
    rcases claim_cases step with ⟨late, rfl, -⟩ | ⟨-, rfl, -⟩
    · exact late
    · rfl
  | began before | turned before | passed before => cases place.symm.trans before
  | stopped before => rcases before with before | before <;> cases place.symm.trans before
  | _ => cases goes

theorem run_rounds {history : List Entry} (run : Run profile new history o) :
    Rounds profile history o := by
  have moves : ∀ {e}, e ∈ history → ∃ env, Move profile env e.before e.act e.after e.events ∧
      Turn e.before e.act e.after.consumer.loop e.events := by
    intro e mem
    obtain ⟨front, back, rfl⟩ := List.append_of_mem mem
    obtain ⟨before, env, move⟩ := run.split
    exact ⟨env, move, move.turn before.standing.1⟩
  constructor
  case passed => exact run.conveyed rfl fun turn => turn.conveys.1
  case asked => exact run.conveyed rfl fun turn => turn.conveys.2
  case own =>
    intro e mem i r passed
    obtain ⟨front, back, rfl⟩ := List.append_of_mem mem
    have place : e.before.consumer.loop = some (.enqueuing i r .checkingStatus) := by
      simp only [Entry.passed?] at passed
      split at passed
      · next here =>
        cases passed
        exact here
      · cases passed
    obtain ⟨-, b, found, partition⟩ := run.split.1.own place
    rw [Consumer.badges_getElem?] at found
    obtain ⟨w, worker, rfl⟩ := Option.map_eq_some_iff.mp found
    exact ⟨w, worker, partition⟩
  case ends =>
    intro e mem running
    obtain ⟨env, -, turn⟩ := moves mem
    exact turn.ends running
  case stops =>
    intro e mem stops
    obtain ⟨env, -, turn⟩ := moves mem
    exact turn.shuts stops
  case prompt =>
    intro e mem turns told place
    obtain ⟨env, -, turn⟩ := moves mem
    exact turn.stops turns told place
  case deaf =>
    rintro front e back rfl told f mem result polled
    have toldThere : f.before.consumer.loopStops = true := by
      rcases List.mem_cons.mp mem with rfl | later
      · exact told
      · obtain ⟨-, env, move⟩ := run.split
        exact (run.since (P := fun o => o.consumer.loopStops = true)
          (fun _ move => move.loopStops) (move.loopStops told)).1 f later
    obtain ⟨env, move, -⟩ := moves (List.mem_append_right _ mem)
    rw [polled] at move
    generalize f.after = t at move
    generalize f.events = events at move
    cases move with
    | polled _ free => exact absurd (free.symm.trans toldThere) Bool.false_ne_true
  case final =>
    rintro front e back rfl running ended f mem
    obtain ⟨before, env, move⟩ := run.split
    have entered : e.after.consumer.loop ≠ none := by
      refine (move.turn before.standing.1).stays fun none => ?_
      rw [none] at running
      cases running
    have after := (run.since (P := fun o => o.consumer.loop ≠ none ∧
        isRunning o.consumer.loop = false)
      (fun run move h => ⟨(move.turn run.standing.1).stays h.1,
        (move.turn run.standing.1).ended h.1 h.2⟩) ⟨entered, ended⟩).1 f mem
    obtain ⟨env, -, turn⟩ := moves (List.mem_append_right _ (List.mem_cons_of_mem _ mem))
    exact ⟨after.2, turn.nothing after.1 after.2⟩
  case goesOn => exact fun loop place early env due => run.goesOn env place early due
  case shuts =>
    intro e mem goes place
    obtain ⟨env, move, -⟩ := moves mem
    exact move.disposes goes place

/-- Polls with every kind of result, one after the other; the second error that drops the consumer
ends the loop. -/
def pollingSchedule : List Act := List.flatten
  [[.start true .done, .assign true [⟨"orders", 0⟩, ⟨"returns", 0⟩], .reassign,
      .goes .loop, .goes .loop, .polled (.ok (some (.record (.bare ⟨"orders", 0⟩ 5))))],
    .replicate 7 (.goes .loop), [.polled (.ok none), .goes .loop,
      .polled (.ok (some (.record (.bare ⟨"stray", 0⟩ 2)))), .goes .loop,
      .polled (.ok (some (.endOfPartition 0))), .goes .loop,
      .polled (.error (.transient "slow")), .goes .loop,
      .polled (.error (.fatal "lost")), .decided (.taken .retry), .goes .loop,
      .polled (.ok (some (.record (.bare ⟨"returns", 0⟩ 8))))],
    .replicate 7 (.goes .loop), [.polled (.error (.unknownPartition "gone")),
      .decided (.failed "nobody knows"), .goes .loop, .polled (.ok none)]]

def polledOut : List Entry × Office :=
  new.play (shop.profile false) (pollingSchedule.map fun act => (.calm 0, act))

theorem polledOut_rounds : Rounds (shop.profile false) polledOut.1 polledOut.2 ∧
    polledOut.1.filterMap Entry.passed? =
      [(0, .bare ⟨"orders", 0⟩ 5), (1, .bare ⟨"returns", 0⟩ 8)] ∧
    polledOut.1.filterMap Entry.answered? = [.fatal "lost", .unknownPartition "gone"] := by
  refine ⟨run_rounds (run_play (shop.profile false) new _), ?_, ?_⟩
  · decide +kernel
  · decide +kernel

end Office

end TopicConsumer
