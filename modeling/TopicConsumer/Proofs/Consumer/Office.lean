import TopicConsumer.Proofs.Consumer.Moves

/-!
# A consumer and those who ask something of it

An office is a consumer with everybody who may call it: its poll loop, the calls that close it, the
broker that hands partitions out and takes them away, and the application. Any of them may move
next.

An assignment and a shutdown exclude each other by a lock. An assignment looks once whether the
shutdown has been claimed, when it has the lock, and is then carried out, whatever has happened in
between; a shutdown that is about to take the workers waits until nobody carries out an assignment.

The history of a run is the list of its moves, each with the office before and after it.
-/

namespace TopicConsumer

/-- Carries out an assignment that found the consumer alive, without looking once more. -/
def Consumer.reassign (env : Surroundings) (profile : ConsumerProfile) (ps : List TopicPartition)
    (c : Consumer) : Consumer × List ConsumerEvent × Option String :=
  let (d, events, crash) := { c with disposed := false }.assign env profile true ps
  ({ d with disposed := c.disposed }, events, crash)

/-- An assignment is carried out at once if nobody comes in between. -/
theorem Consumer.reassign_eq_assign (env : Surroundings) (profile : ConsumerProfile)
    {inRuntime : Bool} (ps : List TopicPartition) {c : Consumer} (live : c.disposed = false)
    (able : (c.hasRuntime || inRuntime) = true) :
    c.reassign env profile ps = c.assign env profile inRuntime ps := by
  have same : { c with disposed := false } = c := by rw [← live]
  have disposed := (reassigned_assign env c profile ps).2
  have kept := (reassigned_assign env c profile ps).1.disposed
  have either : c.assign env profile true ps = c.assign env profile inRuntime ps := by
    cases hr : c.hasRuntime <;> simp_all [assign]
  rw [reassign, same, ← either, ← kept]

/-- Who may shut a consumer down: its loop, or a call that closes it. -/
inductive Party where
  | loop
  | call (n : Nat)
  deriving DecidableEq

/-- A consumer, the calls that close it, and the partitions of the assignment that is being carried
out, if there is one. -/
structure Office where
  consumer : Consumer
  closings : List Closing
  rebalance : Option (List TopicPartition)

namespace Office

/-- Nothing has been asked of the consumer yet. -/
def new : Office := ⟨.fresh, [], none⟩

/-- Who moves, or what happens. -/
inductive Act where
  /-- The application starts the consumer, and the broker answers the subscription. -/
  | start (inRuntime : Bool) (answer : Answer)
  /-- The loop or a call that closes the consumer goes on by itself. -/
  | goes (party : Party)
  /-- A poll ends. -/
  | polled (result : PollResult)
  | pollCrashes (text : String)
  /-- It is decided what to do about an error. -/
  | decided (decision : Decision)
  /-- Those are done who want to know that the consumer is closed. -/
  | notified (party : Party) (answer : Except String Unit)
  /-- An assignment begins. -/
  | assign (inRuntime : Bool) (ps : List TopicPartition)
  /-- The assignment that has begun is carried out. -/
  | reassign
  | revoke (ps : List TopicPartition)
  /-- The batcher of a worker goes on. -/
  | batch (worker : Nat)
  /-- The handler of a worker ends. -/
  | handler (worker : Nat) (ending : Batcher.Ending)
  /-- A task that closes a removed worker goes on. -/
  | removal (task : Nat)
  /-- The application asks for the shutdown. -/
  | stop
  /-- A call that closes the consumer begins. -/
  | close

variable (o : Office)

/-- Where the shutdown of a party stands, if it has begun one. -/
def shutdown? : Party → Option Shutdown
  | .loop =>
    match o.consumer.loop with
    | some (.shuttingDown s) => some s
    | _ => none
  | .call n =>
    match o.closings[n]? with
    | some (.shuttingDown s) => some s
    | _ => none

/-- The office with its loop at another place. -/
def turnTo (loop : PollLoop) : Office :=
  { o with consumer := { o.consumer with loop := some loop } }

/-- The office when the shutdown of a party has come so far. -/
def setShutdown (s : Shutdown) : Party → Office
  | .loop => o.turnTo (.ofShutdown s)
  | .call n => { o with closings := o.closings.set n (.ofShutdown s) }

/-- The party is about to take the workers while an assignment is carried out. -/
def waits (party : Party) : Bool :=
  o.rebalance.isSome && decide (o.shutdown? party = some .takingWorkers)

variable (profile : ConsumerProfile) (env : Surroundings)

/-- The office after a move, with what happened. -/
def step : Act → Option (Office × List ConsumerEvent)
  | .start inRuntime answer =>
    let (c, events, _) := o.consumer.start profile inRuntime answer
    some ({ o with consumer := c }, events)
  | .goes party =>
    if o.waits party then none
    else
      match party with
      | .loop => do
        let loop ← o.consumer.loop
        let (c, loop, events) ← loop.step env profile o.consumer
        some ({ o with consumer := c }.turnTo loop, events)
      | .call n => do
        let call ← o.closings[n]?
        let (c, call, events) ← call.step env profile o.consumer
        some ({ o with consumer := c, closings := o.closings.set n call }, events)
  | .polled result =>
    match o.consumer.loop with
    | some .polling =>
      if o.consumer.loopStops then none
      else
        let (loop, events) := PollLoop.polled o.consumer result
        some (o.turnTo loop, events)
    | _ => none
  | .pollCrashes text =>
    match o.consumer.loop with
    | some .polling => if o.consumer.loopStops then none else some (o.turnTo (.crashed text), [])
    | _ => none
  | .decided decision =>
    match o.consumer.loop with
    | some (.deciding _) =>
      let (loop, events) := PollLoop.decided decision
      some (o.turnTo loop, events)
    | _ => none
  | .notified party answer => do
    let s ← o.shutdown? party
    let (s, events) ← s.notified answer
    some (o.setShutdown s party, events)
  | .assign inRuntime ps =>
    if o.rebalance.isSome then none
    else if o.consumer.disposed || (!o.consumer.hasRuntime && !inRuntime) then
      some (o, (o.consumer.assign env profile inRuntime ps).2.1)
    else some ({ o with rebalance := some ps }, [])
  | .reassign => do
    let ps ← o.rebalance
    let (c, events, _) := o.consumer.reassign env profile ps
    some ({ o with consumer := c, rebalance := none }, events)
  | .revoke ps =>
    if o.rebalance.isSome then none
    else
      let (c, events, _) := o.consumer.revoke env ps
      some ({ o with consumer := c }, events)
  | .batch worker => do
    let s ← o.consumer.station? worker
    let (s, events) ← Batcher.step env s
    some ({ o with consumer := o.consumer.setStation worker s }, events.map .work)
  | .handler worker ending => do
    let s ← o.consumer.station? worker
    let (s, events) ← Batcher.handlerEnds env ending s
    some ({ o with consumer := o.consumer.setStation worker s }, events.map .work)
  | .removal task => do
    let (worker, call) ← o.consumer.removals[task]?
    let s ← o.consumer.station? worker
    let (s, call, events) ← call.step env s
    let c := { o.consumer.setStation worker s with
      removals := o.consumer.removals.set task (worker, call) }
    some ({ o with consumer := c }, events.map .work)
  | .stop => some ({ o with consumer := { o.consumer with applicationStops := true } }, [])
  | .close => some ({ o with closings := o.closings ++ [.stoppingLoop] }, [])

/-! ## Moves -/

/-- What a move can be. -/
inductive Move (profile : ConsumerProfile) (env : Surroundings) (o : Office) :
    Act → Office → List ConsumerEvent → Prop
  | started {inRuntime : Bool} {answer : Answer} :
      Move profile env o (.start inRuntime answer)
        { o with consumer := (o.consumer.start profile inRuntime answer).1 }
        (o.consumer.start profile inRuntime answer).2.1
  | began (place : o.consumer.loop = some .beginning) :
      Move profile env o (.goes .loop) (o.turnTo .turning) [.log (.info "开始拉取消息")]
  | turned (place : o.consumer.loop = some .turning) (running : o.consumer.loopStops = false) :
      Move profile env o (.goes .loop) (o.turnTo .polling) []
  | stopped (place : o.consumer.loop = some .turning ∨ o.consumer.loop = some .polling)
      (told : o.consumer.loopStops = true) :
      Move profile env o (.goes .loop) (o.turnTo (.shuttingDown .claiming)) PollLoop.stopping.2
  | passed {i : Nat} {r : Record} {call next : Intake} {w : Worker} {s : Station}
      {events : List Event} (place : o.consumer.loop = some (.enqueuing i r call))
      (worker : o.consumer.workers[i]? = some w)
      (move : Intake.Move env r ⟨o.consumer.manager, w⟩ call s next events) :
      Move profile env o (.goes .loop)
        ({ o with consumer := o.consumer.setStation i s }.turnTo (PollLoop.ofIntake i r next).1)
        (events.map .work ++ (PollLoop.ofIntake i r next).2)
  | polled {result : PollResult} (polling : o.consumer.loop = some .polling)
      (running : o.consumer.loopStops = false) :
      Move profile env o (.polled result) (o.turnTo (PollLoop.polled o.consumer result).1)
        (PollLoop.polled o.consumer result).2
  | pollCrashed {text : String} (polling : o.consumer.loop = some .polling)
      (running : o.consumer.loopStops = false) :
      Move profile env o (.pollCrashes text) (o.turnTo (.crashed text)) []
  | decided {error : BrokerError} {decision : Decision}
      (deciding : o.consumer.loop = some (.deciding error)) :
      Move profile env o (.decided decision) (o.turnTo (PollLoop.decided decision).1)
        (PollLoop.decided decision).2
  | ignored {inRuntime : Bool} {ps : List TopicPartition} (free : o.rebalance = none)
      (deaf : o.consumer.disposed = true ∨ (o.consumer.hasRuntime || inRuntime) = false) :
      Move profile env o (.assign inRuntime ps) o (o.consumer.assign env profile inRuntime ps).2.1
  | accepted {inRuntime : Bool} {ps : List TopicPartition} (free : o.rebalance = none)
      (live : o.consumer.disposed = false) (able : (o.consumer.hasRuntime || inRuntime) = true) :
      Move profile env o (.assign inRuntime ps) { o with rebalance := some ps } []
  | reassigned {ps : List TopicPartition} (held : o.rebalance = some ps) :
      Move profile env o .reassign
        { o with consumer := (o.consumer.reassign env profile ps).1, rebalance := none }
        (o.consumer.reassign env profile ps).2.1
  | revoked {ps : List TopicPartition} (free : o.rebalance = none) :
      Move profile env o (.revoke ps) { o with consumer := (o.consumer.revoke env ps).1 }
        (o.consumer.revoke env ps).2.1
  | batch {i : Nat} {w : Worker} {s : Station} {events : List Event}
      (worker : o.consumer.workers[i]? = some w)
      (move : Batcher.Move env ⟨o.consumer.manager, w⟩ s events) :
      Move profile env o (.batch i) { o with consumer := o.consumer.setStation i s }
        (events.map .work)
  | handler {i : Nat} {ending : Batcher.Ending} {w : Worker} {s : Station} {events : List Event}
      (worker : o.consumer.workers[i]? = some w)
      (ends : Batcher.Ends env ⟨o.consumer.manager, w⟩ ending s events) :
      Move profile env o (.handler i ending) { o with consumer := o.consumer.setStation i s }
        (events.map .work)
  | removal {task i : Nat} {d e : Disposal} {w : Worker} {s : Station} {events : List Event}
      (call : o.consumer.removals[task]? = some (i, d)) (worker : o.consumer.workers[i]? = some w)
      (move : Disposal.Move env ⟨o.consumer.manager, w⟩ d s e events) :
      Move profile env o (.removal task)
        { o with consumer := { o.consumer.setStation i s with
            removals := o.consumer.removals.set task (i, e) } }
        (events.map .work)
  | told : Move profile env o .stop
      { o with consumer := { o.consumer with applicationStops := true } } []
  | close : Move profile env o .close { o with closings := o.closings ++ [.stoppingLoop] } []
  | closing {n : Nat} {call next : Closing} {c : Consumer} {events : List ConsumerEvent}
      (found : o.closings[n]? = some call) (early : ∀ s, call ≠ .shuttingDown s)
      (step : call.step env profile o.consumer = some (c, next, events)) :
      Move profile env o (.goes (.call n))
        { o with consumer := c, closings := o.closings.set n next } events
  /-- The loop or a call goes on with its shutdown. -/
  | shut {party : Party} {s t : Shutdown} {c : Consumer} {events : List ConsumerEvent}
      (place : o.shutdown? party = some s) (clear : s = .takingWorkers → o.rebalance = none)
      (step : s.step env profile o.consumer = some (c, t, events)) :
      Move profile env o (.goes party) ({ o with consumer := c }.setShutdown t party) events
  | notified {party : Party} {answer : Except String Unit} {events : List ConsumerEvent}
      (place : o.shutdown? party = some .notifying)
      (heard : Shutdown.notified answer .notifying = some (.finishing, events)) :
      Move profile env o (.notified party answer) (o.setShutdown .finishing party) events

variable {profile} {env} {o}

theorem shutdown?_loop {s : Shutdown} :
    o.shutdown? .loop = some s ↔ o.consumer.loop = some (.shuttingDown s) := by
  simp only [shutdown?]
  split
  · next t place => simp [place]
  · next other => simpa using other s

theorem shutdown?_call {n : Nat} {s : Shutdown} :
    o.shutdown? (.call n) = some s ↔ o.closings[n]? = some (.shuttingDown s) := by
  simp only [shutdown?]
  split
  · next t place => simp [place]
  · next other => simpa using other s

/-- A party that may go on with taking the workers finds nobody who carries out an assignment. -/
theorem rebalance_eq_none_of_waits {party : Party} (free : o.waits party = false)
    (place : o.shutdown? party = some .takingWorkers) : o.rebalance = none := by
  simpa [waits, place] using free

theorem move_of_step {t : Office} {act : Act} {events : List ConsumerEvent}
    (h : o.step profile env act = some (t, events)) : Move profile env o act t events := by
  cases act with
  | start inRuntime answer => cases h; exact .started
  | goes party =>
    simp only [step] at h
    split at h
    · cases h
    next free =>
    have free : o.waits party = false := by simpa using free
    cases party with
    | loop =>
      simp only [bind, Option.bind_eq_some_iff, Prod.exists] at h
      obtain ⟨loop, place, c, next, events, move, h⟩ := h
      cases h
      cases loop with
      | beginning => cases move; exact .began place
      | turning =>
        simp only [PollLoop.step] at move
        split at move <;> cases move
        · next told => exact .stopped (.inl place) told
        · next running => exact .turned place (by simpa using running)
      | polling =>
        simp only [PollLoop.step] at move
        split at move <;> cases move
        next told => exact .stopped (.inr place) told
      | enqueuing i r call =>
        simp only [PollLoop.step, bind, Option.bind_eq_some_iff, Prod.exists] at move
        obtain ⟨station, found, s, j, moves, move, h⟩ := move
        cases h
        obtain ⟨w, hw, rfl⟩ := Option.map_eq_some_iff.mp found
        exact .passed place hw (Intake.move_of_step move)
      | shuttingDown s =>
        simp only [PollLoop.step, bind, Option.bind_eq_some_iff, Prod.exists] at move
        obtain ⟨d, t, events, move, h⟩ := move
        cases h
        have place := shutdown?_loop.mpr place
        refine .shut place (fun taking => ?_) move
        exact rebalance_eq_none_of_waits free (taking ▸ place)
      | deciding error | returned | crashed text => cases move
    | call n =>
      simp only [bind, Option.bind_eq_some_iff, Prod.exists] at h
      obtain ⟨call, found, c, next, events, move, h⟩ := h
      cases h
      cases call with
      | shuttingDown s =>
        simp only [Closing.step, bind, Option.bind_eq_some_iff, Prod.exists] at move
        obtain ⟨d, t, events, move, h⟩ := move
        cases h
        have place := shutdown?_call.mpr found
        refine .shut place (fun taking => ?_) move
        exact rebalance_eq_none_of_waits free (taking ▸ place)
      | _ => exact .closing found (by simp) move
  | polled result =>
    simp only [step] at h
    split at h
    · next polling =>
      split at h
      · cases h
      · next running =>
        cases h
        exact .polled polling (by simpa using running)
    · cases h
  | pollCrashes text =>
    simp only [step] at h
    split at h
    · next polling =>
      split at h
      · cases h
      · next running =>
        cases h
        exact .pollCrashed polling (by simpa using running)
    · cases h
  | decided decision =>
    simp only [step] at h
    split at h
    · next error deciding =>
      cases h
      exact .decided deciding
    · cases h
  | notified party answer =>
    simp only [step, bind, Option.bind_eq_some_iff, Prod.exists] at h
    obtain ⟨s, place, t, events, heard, h⟩ := h
    cases h
    obtain ⟨rfl, rfl, -⟩ := Shutdown.notified_spec heard
    exact .notified place heard
  | assign inRuntime ps =>
    simp only [step] at h
    split at h
    · cases h
    · next free =>
      have free : o.rebalance = none := by simpa using free
      split at h <;> cases h
      · next deaf => exact .ignored free (by simpa using deaf)
      · next able =>
        simp only [Bool.or_eq_true, Bool.and_eq_true, Bool.not_eq_true', not_or,
          Bool.not_eq_true, not_and, Bool.not_eq_false] at able
        refine .accepted free able.1 ?_
        cases hr : o.consumer.hasRuntime
        · exact able.2 hr
        · rfl
  | reassign =>
    simp only [step, bind, Option.bind_eq_some_iff] at h
    obtain ⟨ps, held, h⟩ := h
    cases h
    exact .reassigned held
  | revoke ps =>
    simp only [step] at h
    split at h
    · cases h
    · next free =>
      cases h
      exact .revoked (by simpa using free)
  | batch i =>
    simp only [step, bind, Option.bind_eq_some_iff, Prod.exists] at h
    obtain ⟨station, found, s, events, move, h⟩ := h
    cases h
    obtain ⟨w, hw, rfl⟩ := Option.map_eq_some_iff.mp found
    exact .batch hw (Batcher.move_of_step move)
  | handler i ending =>
    simp only [step, bind, Option.bind_eq_some_iff, Prod.exists] at h
    obtain ⟨station, found, s, events, ends, h⟩ := h
    cases h
    obtain ⟨w, hw, rfl⟩ := Option.map_eq_some_iff.mp found
    exact .handler hw (Batcher.ends_of_handlerEnds ends)
  | removal task =>
    simp only [step, bind, Option.bind_eq_some_iff, Prod.exists] at h
    obtain ⟨i, d, call, station, found, s, e, events, move, h⟩ := h
    cases h
    obtain ⟨w, hw, rfl⟩ := Option.map_eq_some_iff.mp found
    exact .removal call hw (Disposal.move_of_step move)
  | stop => cases h; exact .told
  | close => cases h; exact .close

/-! ## Runs -/

/-- A move that was made, with the office before and after it and what happened. -/
structure Entry where
  before : Office
  act : Act
  events : List ConsumerEvent
  after : Office

variable (profile)

/-- A run, with its history. -/
inductive Run (o₀ : Office) : List Entry → Office → Prop
  | start : Run o₀ [] o₀
  | step {history : List Entry} {o t : Office} {env : Surroundings} {act : Act}
      {events : List ConsumerEvent} (run : Run o₀ history o)
      (step : o.step profile env act = some (t, events)) :
      Run o₀ (history ++ [⟨o, act, events, t⟩]) t

variable {profile}

/-- What every move keeps, every run keeps. -/
theorem Run.invariant {o₀ o : Office} {history : List Entry}
    (Inv : List Entry → Office → Prop) (start : Inv [] o₀)
    (kept : ∀ {history o env act t events}, Inv history o → Move profile env o act t events →
      Inv (history ++ [⟨o, act, events, t⟩]) t)
    (run : Run profile o₀ history o) : Inv history o := by
  induction run with
  | start => exact start
  | step run step ih => exact kept ih (move_of_step step)

/-- Every entry of a history is a move of the run that led there. -/
theorem Run.split {o₀ o : Office} {earlier later : List Entry} {e : Entry}
    (run : Run profile o₀ (earlier ++ e :: later) o) :
    Run profile o₀ earlier e.before ∧
      ∃ env, Move profile env e.before e.act e.after e.events := by
  generalize parts : earlier ++ e :: later = history at run
  induction run generalizing later with
  | start => simp at parts
  | step run made ih =>
    rcases List.eq_nil_or_concat later with rfl | ⟨init, last, rfl⟩
    · obtain ⟨rfl, h⟩ := List.append_inj' parts rfl
      obtain rfl := (List.cons.inj h).1
      exact ⟨run, _, move_of_step made⟩
    · rw [List.concat_eq_append, ← List.cons_append, ← List.append_assoc] at parts
      exact ih (List.append_inj' parts rfl).1

/-- A run leads to where each of its moves leads. -/
theorem Run.upTo {o₀ o : Office} {earlier later : List Entry} {e : Entry}
    (run : Run profile o₀ (earlier ++ e :: later) o) :
    Run profile o₀ (earlier ++ [e]) e.after := by
  generalize parts : earlier ++ e :: later = history at run
  induction run generalizing later with
  | start => simp at parts
  | step run made ih =>
    rcases List.eq_nil_or_concat later with rfl | ⟨init, last, rfl⟩
    · obtain ⟨rfl, h⟩ := List.append_inj' parts rfl
      obtain rfl := (List.cons.inj h).1
      exact run.step made
    · rw [List.concat_eq_append, ← List.cons_append, ← List.append_assoc] at parts
      exact ih (List.append_inj' parts rfl).1

/-- What is so after one move of a run and is kept by every move is so from then on. -/
theorem Run.since {o₀ o : Office} {P : Office → Prop}
    (kept : ∀ {history o env act t events}, Run profile o₀ history o →
      Move profile env o act t events → P o → P t)
    {earlier later : List Entry} {e : Entry} (run : Run profile o₀ (earlier ++ e :: later) o)
    (after : P e.after) : (∀ f ∈ later, P f.before) ∧ P o := by
  generalize parts : earlier ++ e :: later = history at run
  induction run generalizing later with
  | start => simp at parts
  | step run made ih =>
    rcases List.eq_nil_or_concat later with rfl | ⟨init, last, rfl⟩
    · obtain rfl := (List.cons.inj (List.append_inj' parts rfl).2).1
      exact ⟨by simp, after⟩
    · rw [List.concat_eq_append, ← List.cons_append, ← List.append_assoc] at parts
      obtain ⟨same, single⟩ := List.append_inj' parts rfl
      obtain rfl := (List.cons.inj single).1
      obtain ⟨between, here⟩ := ih same
      refine ⟨fun f mem => ?_, kept run (move_of_step made) here⟩
      rw [List.concat_eq_append] at mem
      rcases List.mem_append.mp mem with old | new
      · exact between f old
      · obtain rfl := List.mem_singleton.mp new
        exact here

variable (profile)

/-- Makes the moves of a schedule one after the other and leaves out those that cannot be made: the
history and the office afterwards. -/
def play (o : Office) : List (Surroundings × Act) → List Entry × Office
  | [] => ([], o)
  | (env, act) :: rest =>
    match o.step profile env act with
    | some (t, events) =>
      let (history, u) := t.play rest
      (⟨o, act, events, t⟩ :: history, u)
    | none => o.play rest

variable {profile}

/-- A schedule continues a run. -/
theorem Run.play {o₀ o : Office} {history : List Entry} (run : Run profile o₀ history o)
    (schedule : List (Surroundings × Act)) :
    Run profile o₀ (history ++ (o.play profile schedule).1) (o.play profile schedule).2 := by
  induction schedule generalizing history o with
  | nil => simpa [Office.play] using run
  | cons move rest ih =>
    obtain ⟨env, act⟩ := move
    rw [Office.play]
    split
    · next t events made => simpa using ih (run.step made)
    · exact ih run

theorem run_play (profile : ConsumerProfile) (o : Office) (schedule : List (Surroundings × Act)) :
    Run profile o (o.play profile schedule).1 (o.play profile schedule).2 :=
  Run.start.play schedule

end Office

/-- Settings with two subscriptions, to one topic each, for runs on fixed inputs. -/
def shop : ConsumerSettings ⟨Empty, fun _ => Unit⟩ where
  bootstrap := "localhost:9092"
  group := "shop"
  clientName := "shop-1"
  pollTimeout := ConsumerConfig.defaultPollTimeout
  client := []
  named := .empty
  subscriptions := [
    { topics := ["orders"], handler := fun _ => .done (.ok ()) },
    { topics := ["returns"], handler := fun _ => .done (.ok ()), batching := { batchSize := 2 } }]

end TopicConsumer
