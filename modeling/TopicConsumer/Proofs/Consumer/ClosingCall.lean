import TopicConsumer.Proofs.Consumer.Commencement

/-!
# When a call that closes the consumer returns

A call that closes the consumer tells the loop to stop, waits for it if nobody else does, and runs
the shutdown unless somebody has claimed it. Whoever comes too late for the claim returns at once,
however far the shutdown has come by then. `Office.Parts` says what is so when such a call returns:
the consumer is shut exactly if nobody is still on the way to closing the broker. This is so after a
call that has shut the consumer down itself, and when no other call is under way and nobody has
still to wait for the loop.
-/

namespace TopicConsumer

/-- The call that closes a worker has crashed, or the shutdown with it. -/
def Shutdown.isStruck : Shutdown → Bool
  | .closingWorker _ (.crashed _) _ | .crashed _ => true
  | _ => false

/-- A call of the broker has crashed. -/
def ConsumerEvent.isCrash : ConsumerEvent → Bool
  | .work (.call _ (.crashed _)) => true
  | _ => false

namespace Office

variable {profile : ConsumerProfile} {env : Surroundings} {o t : Office} {history : List Entry}

theorem breaks_iff {events : List ConsumerEvent} :
    Breaks events ↔ events.any ConsumerEvent.isCrash = true := by
  rw [List.any_eq_true]
  constructor
  · rintro ⟨call, text, mem⟩
    exact ⟨_, mem, rfl⟩
  · rintro ⟨event, mem, crash⟩
    unfold ConsumerEvent.isCrash at crash
    split at crash
    · next call text => exact ⟨call, text, mem⟩
    · cases crash

instance (events : List ConsumerEvent) : Decidable (Breaks events) :=
  decidable_of_iff _ breaks_iff.symm

/-- A call of the broker has crashed with one of the moves. -/
def Broken (history : List Entry) : Prop := ∃ e ∈ history, Breaks e.events

instance (history : List Entry) : Decidable (Broken history) :=
  inferInstanceAs (Decidable (∃ e ∈ history, Breaks e.events))

theorem Broken.concat {e : Entry} (h : Broken history) : Broken (history ++ [e]) := by
  obtain ⟨f, mem, breaks⟩ := h
  exact ⟨f, List.mem_append_left _ mem, breaks⟩

theorem Broken.of_last {e : Entry} (breaks : Breaks e.events) : Broken (history ++ [e]) :=
  ⟨e, List.mem_concat_self, breaks⟩

/-! ## Who is under way with the shutdown -/

/-- A step of a shutdown that was claimed: it is the last one, or the shutdown goes on, unless a
call that closes a worker has crashed. -/
theorem step_goesOn {s u : Shutdown} {c d : Consumer} {events : List ConsumerEvent}
    (step : s.step env profile c = some (d, u, events)) (past : s ≠ .claiming) :
    s = .finishing ∨ s.isStruck = true ∨
      u.isOver = false ∧ u ≠ .claiming ∧ (u.isStruck = true → Breaks events) := by
  cases s with
  | claiming => exact absurd rfl past
  | finishing => exact .inl rfl
  | closingWorker w call rest =>
    cases call with
    | crashed text => exact .inr (.inl rfl)
    | returned =>
      cases step
      refine .inr (.inr ⟨Shutdown.isOver_nextWorker rest, ?_, ?_⟩) <;>
        cases rest <;> simp [Shutdown.nextWorker, Shutdown.isStruck]
    | _ =>
      simp only [Shutdown.step, bind, Option.bind_eq_some_iff, Prod.exists] at step
      obtain ⟨station, found, v, f, moves, move, step⟩ := step
      cases step
      refine .inr (.inr ⟨rfl, by simp, fun struck => ?_⟩)
      cases f with
      | crashed text =>
        obtain ⟨call, mem⟩ := (Disposal.move_of_step move).exists_crashed_call
        exact ⟨call, text, List.mem_map_of_mem mem⟩
      | _ => cases struck
  | awaiting tasks =>
    cases tasks with
    | nil =>
      cases step
      exact .inr (.inr ⟨rfl, by simp, by simp [Shutdown.isStruck]⟩)
    | cons task rest =>
      simp only [Shutdown.step, bind, Option.bind_eq_some_iff, Prod.exists] at step
      obtain ⟨i, call, found, step⟩ := step
      split at step <;> cases step
      exact .inr (.inr ⟨rfl, by simp, by simp [Shutdown.isStruck]⟩)
  | takingWorkers =>
    cases step
    refine .inr (.inr ⟨Shutdown.isOver_nextWorker _, ?_, ?_⟩) <;>
      cases c.registry.map Prod.snd <;> simp [Shutdown.nextWorker, Shutdown.isStruck]
  | closingBroker =>
    cases step
    cases profile.hasHook <;> exact .inr (.inr ⟨rfl, by simp, by simp [Shutdown.isStruck]⟩)
  | stoppingLoop | takingRemovals | cancellingWorkers | unsubscribing =>
    cases step
    exact .inr (.inr ⟨rfl, by simp, by simp [Shutdown.isStruck]⟩)
  | notifying | returned | crashed text => cases step

/-- Once the shutdown has been claimed, a party is under way with it, or it has come to its end, or
a call of the broker has crashed. -/
structure Manned (history : List Entry) (o : Office) : Prop where
  struck : ∀ party s, o.shutdown? party = some s → s.isStruck = true → Broken history
  claimed : o.consumer.disposed = true → (∃ party s, o.shutdown? party = some s ∧ s ≠ .claiming) ∨
    (∃ e ∈ history, e.Finishes) ∨ Broken history

namespace Manned

theorem start : Manned [] new where
  struck party s place := by cases party <;> cases place
  claimed claimed := by cases claimed

/-- A move with which nobody claims the shutdown or goes on with it. -/
theorem aside (h : Manned history o) {e : Entry}
    (disposed : t.consumer.disposed = o.consumer.disposed)
    (shutdown : ∀ party, t.shutdown? party = o.shutdown? party ∨
      Calm (o.shutdown? party) ∧ Calm (t.shutdown? party)) : Manned (history ++ [e]) t where
  struck party s place struck := by
    rcases shutdown party with same | ⟨-, none | claiming⟩
    · exact (h.struck party s (same.symm.trans place) struck).concat
    · cases none.symm.trans place
    · cases claiming.symm.trans place
      cases struck
  claimed claimed := by
    rcases h.claimed (disposed.symm.trans claimed) with
      ⟨party, s, place, past⟩ | ⟨f, mem, finishes⟩ | broken
    · rcases shutdown party with same | ⟨none | claiming, -⟩
      · exact .inl ⟨party, s, same.trans place, past⟩
      · cases none.symm.trans place
      · exact absurd (Option.some.inj (place.symm.trans claiming)) past
    · exact .inr (.inl ⟨f, List.mem_append_left _ mem, finishes⟩)
    · exact .inr (.inr broken.concat)

/-- A party goes on with the shutdown. -/
theorem shut (h : Manned history o) {e : Entry} {party : Party} {s u : Shutdown} {c : Consumer}
    (place : o.shutdown? party = some s) (loop : c.loop = o.consumer.loop)
    (struck : u.isStruck = true → Broken (history ++ [e]))
    (manned : (u.isOver = false ∧ u ≠ .claiming) ∨ e.Finishes ∨ Broken history) :
    Manned (history ++ [e]) ({ o with consumer := c }.setShutdown u party) := by
  have here := @shutdown?_setShutdown_self o c s u party place
  refine ⟨fun other r there hit => ?_, fun _ => ?_⟩
  · by_cases apart : other = party
    · rw [apart, here] at there
      split at there <;> cases there
      exact struck hit
    · rw [shutdown?_setShutdown_of_ne loop apart] at there
      exact (h.struck other r there hit).concat
  · rcases manned with ⟨alive, past⟩ | finishes | broken
    · refine .inl ⟨party, u, ?_, past⟩
      rw [here, alive]
      rfl
    · exact .inr (.inl ⟨e, List.mem_concat_self, finishes⟩)
    · exact .inr (.inr broken.concat)

/-- Every move goes on with this. -/
theorem move (h : Manned history o) {act : Act} {events : List ConsumerEvent}
    (gist : Gist profile env o act t events) :
    Manned (history ++ [⟨o, act, events, t⟩]) t := by
  cases gist with
  | aside aside => exact h.aside aside.alike.disposed aside.shutdown
  | accepted live => exact h.aside rfl fun party => .inl (shutdown?_of_loop rfl party)
  | reassigned held =>
    rename_i ps
    obtain ⟨m, ws, entries, tasks, names, after⟩ := o.consumer.reassign_eq env profile ps
    have loop : (o.consumer.reassign env profile ps).1.loop = o.consumer.loop := by rw [after]
    exact h.aside (by rw [after]) fun party => .inl (shutdown?_of_loop loop party)
  | removal call worker move =>
    exact h.aside rfl fun party => .inl (shutdown?_of_loop rfl party)
  | shut place clear step =>
    rename_i party s u c
    have loop := (endures_of_shut step).loop
    by_cases past : s = .claiming
    · subst past
      rcases claim_cases step with ⟨late, rfl, rfl, rfl⟩ | ⟨live, rfl, rfl, tacit⟩
      · have aside := Aside.of_late place
        exact h.aside aside.alike.disposed aside.shutdown
      · exact h.shut place loop (by simp [Shutdown.isStruck]) (.inl ⟨rfl, by simp⟩)
    · rcases step_goesOn step past with rfl | struck | ⟨alive, past, struck⟩
      · cases step
        exact h.shut place loop (by simp [Shutdown.isStruck]) (.inr (.inl place))
      · have broken := h.struck party s place struck
        exact h.shut place loop (fun _ => broken.concat) (.inr (.inr broken))
      · exact h.shut place loop (fun hit => .of_last (struck hit)) (.inl ⟨alive, past⟩)
  | notified place tacit =>
    exact h.shut (c := o.consumer) place rfl (by simp [Shutdown.isStruck]) (.inl ⟨rfl, by simp⟩)

end Manned

theorem Run.manned (run : Run profile new history o) : Manned history o := by
  induction run with
  | start => exact .start
  | step run made ih => exact ih.move ((move_of_step made).gist run.standing.1)

/-! ## Who waits for the loop -/

/-- The loop is over, or somebody has to wait for it. -/
def Awaited (o : Office) : Prop :=
  (∀ loop, o.consumer.loop = some loop → loop.isOver = true) ∨ o.consumer.holdsLoop = true ∨
    ∃ n : Nat, o.closings[n]? = some .awaitingLoop

/-- A move that leaves alone who has to wait for the loop. -/
theorem Awaited.aside (h : Awaited o)
    (loop : (∀ loop, o.consumer.loop = some loop → loop.isOver = true) →
      t.consumer.loop = o.consumer.loop)
    (holds : t.consumer.holdsLoop = o.consumer.holdsLoop)
    (waits : ∀ n : Nat, o.closings[n]? = some .awaitingLoop → t.closings[n]? = some .awaitingLoop) :
    Awaited t := by
  rcases h with ended | held | ⟨n, waiting⟩
  · exact .inl fun l here => ended l ((loop ended).symm.trans here)
  · exact .inr (.inl (holds.trans held))
  · exact .inr (.inr ⟨n, waits n waiting⟩)

/-- A call that goes on and has not waited for the loop is not one that waits. -/
theorem waits_set {n : Nat} {call next : Closing} (found : o.closings[n]? = some call)
    (apart : call ≠ .awaitingLoop) (m : Nat) (waiting : o.closings[m]? = some .awaitingLoop) :
    (o.closings.set n next)[m]? = some .awaitingLoop := by
  have other : n ≠ m := by
    rintro rfl
    exact apart (Option.some.inj (found.symm.trans waiting))
  rw [List.getElem?_set_ne other]
  exact waiting

/-- A start that makes a loop leaves it to be waited for. -/
theorem Awaited.started (h : Awaited o) (inRuntime : Bool) (answer : Answer) :
    Awaited (o.afterStart profile inRuntime answer) := by
  unfold afterStart
  rcases o.consumer.start_cases profile inRuntime answer with
    ⟨-, ends⟩ | ⟨-, -, ends⟩ | ⟨-, -, d, events, ends, letIn⟩
  · rw [ends]
    exact h
  · rw [ends]
    exact h
  · rw [ends]
    by_cases launched : Starting.ofAnswer inRuntime answer = .started
    · refine .inr (.inl ?_)
      rw [letIn.launched launched]
    · rw [letIn.failed launched]
      exact h.aside (fun _ => rfl) rfl fun _ => id

/-- A call that closes the consumer takes over the wait, or ends it when the loop is over. -/
theorem Awaited.closing (h : Awaited o) {n : Nat} {call next : Closing} {c : Consumer}
    {events : List ConsumerEvent} (found : o.closings[n]? = some call)
    (early : ∀ s, call ≠ .shuttingDown s)
    (step : call.step env profile o.consumer = some (c, next, events))
    (loop : (∀ loop, o.consumer.loop = some loop → loop.isOver = true) →
      c.loop = o.consumer.loop) :
    Awaited { o with consumer := c, closings := o.closings.set n next } := by
  cases call with
  | stoppingLoop =>
    cases step
    exact h.aside loop rfl (waits_set found (by simp))
  | takingLoop =>
    cases step
    have bound := (List.getElem?_eq_some_iff.mp found).1
    rcases h with ended | held | ⟨m, waiting⟩
    · exact .inl ended
    · refine .inr (.inr ⟨n, ?_⟩)
      rw [List.getElem?_set_self bound, held]
      rfl
    · exact .inr (.inr ⟨m, waits_set found (by simp) m waiting⟩)
  | awaitingLoop =>
    simp only [Closing.step] at step
    split at step <;> cases step
    · next place => exact .inl fun l here => by cases place.symm.trans here; rfl
    · next place => exact .inl fun l here => by cases place.symm.trans here
    · next place => exact .inl fun l here => by cases place.symm.trans here; rfl
  | shuttingDown s => exact absurd rfl (early s)
  | returned | crashed text => cases step

theorem Awaited.move (h : Awaited o) {act : Act} {events : List ConsumerEvent}
    (move : Move profile env o act t events) : Awaited t := by
  by_cases starts : ∃ inRuntime answer, act = .start inRuntime answer
  · obtain ⟨inRuntime, answer, rfl⟩ := starts
    cases move with
    | started => exact h.started inRuntime answer
  · push Not at starts
    have loop := (move.abides starts).loop
    cases move with
    | started => exact absurd rfl (starts _ _)
    | reassigned held =>
      rename_i ps
      obtain ⟨m, ws, entries, tasks, names, after⟩ := o.consumer.reassign_eq env profile ps
      exact h.aside loop (by rw [after]) fun _ => id
    | revoked free =>
      rename_i ps
      obtain ⟨m, after, -⟩ := Consumer.revoke_spec env o.consumer ps
      exact h.aside loop (by rw [after]) fun _ => id
    | close =>
      refine h.aside loop rfl fun n waiting => ?_
      rw [List.getElem?_append_left (List.getElem?_eq_some_iff.mp waiting).1]
      exact waiting
    | closing found early step => exact h.closing found early step loop
    | shut place clear step =>
      rename_i party s u c
      have holds := (endures_of_shut step).holdsLoop
      cases party with
      | loop => exact h.aside loop holds fun _ => id
      | call n => exact h.aside loop holds (waits_set (shutdown?_call.mp place) (by simp))
    | notified place heard =>
      rename_i party answer
      cases party with
      | loop => exact h.aside loop rfl fun _ => id
      | call n => exact h.aside loop rfl (waits_set (shutdown?_call.mp place) (by simp))
    | _ => exact h.aside loop rfl fun _ => id

theorem Run.awaited (run : Run profile new history o) : Awaited o :=
  run.invariant (fun _ o => Awaited o) (.inl (by simp [new, Consumer.fresh]))
    fun awaited move => awaited.move move

/-! ## What a call leaves behind -/

/-- Everything is closed: every worker that somebody got hold of, and the broker after the end of
the subscription. -/
structure Shut (history : List Entry) (o : Office) : Prop where
  workers : ∀ (i : Nat) w, o.consumer.workers[i]? = some w → Consumer.canSpawn w.settings = true →
    w.status = .closed
  unsubscribed : .unsubscribed ∈ landmarks history
  closed : .closed ∈ landmarks history

/-- When the shutdown has closed the broker, everything is closed. -/
theorem Told.shut_of_hasClosed {s : Shutdown} {is : List Nat}
    (told : Told profile.hasHook history o s is) (standing : Standing profile.routing o s) (late : s.hasClosed = true)
    (whole : ¬ Broken history) : Shut history o := by
  obtain ⟨cleared, recalls, hand, housed, returned⟩ := standing.of_hasClosed late
  constructor
  case workers =>
    intro i w worker able
    refine (closed_or_crashed cleared recalls housed returned worker able).resolve_right ?_
    rintro ⟨text, mem⟩
    obtain ⟨e, mem, -, breaks⟩ := told.crashed i text mem
    exact whole ⟨e, mem, breaks⟩
  case unsubscribed =>
    rw [told.order]
    cases s with
    | notifying | finishing | returned => simp [Shutdown.tail]
    | _ => cases late
  case closed =>
    rw [told.order]
    exact List.mem_append_right _ (Shutdown.closed_mem_tail.mpr late)

/-- Once the shutdown has been claimed, everything is closed exactly if nobody is still on the way
to closing the broker. -/
theorem Run.shut_iff (run : Run profile new history o) (whole : ¬ Broken history)
    (claimed : o.consumer.disposed = true) : Shut history o ↔
      ∀ party s, o.shutdown? party = some s → s = .claiming ∨ s.hasClosed = true := by
  obtain ⟨s, is, standing, told⟩ := run.told
  have calmly : ∀ {party r}, Calm (o.shutdown? party) → o.shutdown? party = some r →
      r = .claiming := by
    intro party r calm there
    rw [there] at calm
    exact calm.elim (fun h => by cases h) Option.some.inj
  constructor
  · intro shut party r there
    have late : s.hasClosed = true := by
      have closed := shut.closed
      rw [told.order] at closed
      refine Shutdown.closed_mem_tail.mp ((List.mem_append.mp closed).resolve_left ?_)
      simp
    by_cases past : r = .claiming
    · exact .inl past
    · obtain ⟨rfl, -⟩ := standing.holder there past
      exact .inr late
  · intro nobody
    refine told.shut_of_hasClosed standing ?_ whole
    cases standing with
    | idle live => cases live.symm.trans claimed
    | busy claimed place reached others housed =>
      exact (nobody _ s place).resolve_left fun h => (h ▸ reached : o.Reached .claiming)
    | concluded claimed calm reached ended housed closed =>
      rcases run.manned.claimed claimed with ⟨party, r, there, past⟩ | finished | broken
      · exact absurd (calmly (calm party) there) past
      · rw [told.finished finished]
        rfl
      · exact absurd broken whole

/-- The call returns with the move. -/
def Entry.returns (n : Nat) (e : Entry) : Bool :=
  match e.act with
  | .goes (.call m) => decide (m = n) && decide (e.after.closings[n]? = some .returned)
  | _ => false

theorem Entry.act_of_returns {n : Nat} {e : Entry} (returns : e.returns n = true) :
    e.act = .goes (.call n) ∧ e.after.closings[n]? = some .returned := by
  unfold Entry.returns at returns
  split at returns
  · next m goes =>
    obtain ⟨same, here⟩ := Bool.and_eq_true_iff.mp returns
    rw [goes, of_decide_eq_true same]
    exact ⟨rfl, of_decide_eq_true here⟩
  · cases returns

/-- A call that returns leaves a consumer whose shutdown has been claimed, by itself or before. -/
theorem Run.disposed_of_returns {n : Nat} {e : Entry} (run : Run profile new (history ++ [e]) o)
    (returns : e.returns n = true) : e.after.consumer.disposed = true := by
  obtain ⟨before, env, move⟩ := run.split
  obtain ⟨goes, here⟩ := Entry.act_of_returns returns
  obtain ⟨o, act, events, t⟩ := e
  obtain rfl : act = .goes (.call n) := goes
  change Move profile env o _ t events at move
  cases move with
  | closing found early step =>
    rename_i call next c
    have bound := (List.getElem?_eq_some_iff.mp found).1
    obtain rfl : next = .returned := by
      rw [List.getElem?_set_self bound] at here
      exact Option.some.inj here
    -- nobody returns before the shutdown
    cases call with
    | stoppingLoop | returned | crashed text => cases step
    | takingLoop =>
      simp only [Closing.step, Option.some.injEq, Prod.mk.injEq] at step
      split at step <;> cases step.2.1
    | awaitingLoop =>
      simp only [Closing.step] at step
      split at step <;> cases step
    | shuttingDown s => exact absurd rfl (early s)
  | shut place clear step =>
    rename_i s u c
    obtain ⟨r, standing⟩ := before.standing.2
    refine (Shutdown.step_spec step ?_).1
    by_cases past : s = .claiming
    · exact .inl past
    · obtain ⟨-, closed, claimed, -⟩ := standing.holder place past
      exact .inr claimed

/-- What is so when a call that closes the consumer returns, if no call of the broker has crashed.
-/
structure Entry.Parts (history : List Entry) (e : Entry) : Prop where
  /-- Everything is closed exactly if nobody is still on the way to closing the broker. -/
  shut_iff : Shut history e.after ↔
    ∀ party s, e.after.shutdown? party = some s → s = .claiming ∨ s.hasClosed = true
  /-- It is so after a call that has shut the consumer down itself. -/
  own : e.Finishes → Shut history e.after
  /-- It is so when all calls are over and nobody has still to wait for the loop. -/
  alone : e.after.consumer.holdsLoop = false →
    (∀ (m : Nat) call, e.after.closings[m]? = some call → call.isOver = true) → Shut history e.after

theorem run_parts (run : Run profile new history o) {front back : List Entry} {e : Entry} {n : Nat}
    (here : history = front ++ e :: back) (returns : e.returns n = true)
    (whole : ¬ Broken (front ++ [e])) : e.Parts (front ++ [e]) := by
  subst here
  have run := run.upTo
  have shut_iff := run.shut_iff whole (run.disposed_of_returns returns)
  constructor
  case shut_iff => exact shut_iff
  case own =>
    intro finishes
    obtain ⟨s, is, standing, told⟩ := run.told
    obtain rfl := told.finished ⟨e, List.mem_concat_self, finishes⟩
    exact told.shut_of_hasClosed standing rfl whole
  case alone =>
    intro held ended
    refine shut_iff.mpr fun party s place => ?_
    -- neither the loop nor a call is under way
    cases party with
    | loop =>
      have place := shutdown?_loop.mp place
      rcases run.awaited with gone | holds | ⟨m, waiting⟩
      · cases gone _ place
      · cases held.symm.trans holds
      · cases ended m _ waiting
    | call m => cases ended m _ (shutdown?_call.mp place)

/-- One call waits for the loop, which shuts the consumer down, and another one comes later. -/
def closedTwice : List Entry × Office :=
  new.play (shop.profile false) <| List.map (fun act => (.calm 0, act)) <| List.flatten
    [[.start true .done, .assign true [⟨"orders", 0⟩], .reassign, .close],
      .replicate 2 (.goes (.call 0)), .replicate 7 (.goes .loop), [.batch 0],
      .replicate 20 (.goes .loop), .replicate 2 (.goes (.call 0)), [.close],
      .replicate 3 (.goes (.call 1))]

theorem closedTwice_parts : ∃ front e, closedTwice.1 = front ++ [e] ∧ e.returns 1 = true ∧
    ¬ Broken (front ++ [e]) ∧ e.Parts (front ++ [e]) ∧ Shut (front ++ [e]) e.after := by
  have run := run_play (shop.profile false) new
  have last : (closedTwice.1.getLast?.map fun e => (e.returns 1, e.after.consumer.holdsLoop,
      e.after.closings.all Closing.isOver)) = some (true, false, true) := by decide +kernel
  have whole : ¬ Broken closedTwice.1 := by decide +kernel
  obtain ⟨front, e, split⟩ : ∃ front e, closedTwice.1 = front ++ [e] := by
    rcases List.eq_nil_or_concat closedTwice.1 with none | ⟨front, e, split⟩
    · rw [none] at last
      cases last
    · exact ⟨front, e, split.trans List.concat_eq_append⟩
  rw [split] at whole
  rw [split, List.getLast?_concat, Option.map_some, Option.some.injEq, Prod.mk.injEq,
    Prod.mk.injEq] at last
  obtain ⟨returns, held, ended⟩ := last
  have parts := run_parts (run _) split returns whole
  refine ⟨front, e, split, returns, whole, parts, parts.alone held fun m call found => ?_⟩
  exact List.all_eq_true.mp ended call (List.mem_of_getElem? found)

/-- Two calls begin to close the consumer, and the loop has just claimed the shutdown. -/
def twoCalls : List Entry × Office :=
  new.play (shop.profile false) <| List.map (fun act => (.calm 0, act)) <| List.flatten
    [[.start true .done, .assign true [⟨"orders", 0⟩], .reassign, .close, .close],
      .replicate 2 (.goes (.call 0)), .replicate 2 (.goes (.call 1)), .replicate 4 (.goes .loop),
      [.goes (.call 1)]]

/-- The second call returns before the only worker is closed, and before the broker is. -/
theorem exists_returned_early :
    twoCalls.1.getLast?.map (Entry.returns 1) = some true ∧ ¬ Broken twoCalls.1 ∧
      twoCalls.2.consumer.workers.map Worker.status = [.active] ∧ landmarks twoCalls.1 = [] := by
  decide +kernel

end Office

end TopicConsumer
