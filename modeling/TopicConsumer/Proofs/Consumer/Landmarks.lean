import TopicConsumer.Proofs.Consumer.Office
import TopicConsumer.Proofs.Consumer.Whereabouts

/-!
# What matters to a shutdown

The landmarks of a history are what one is told of a shutdown: the final commits, the end of the
subscription and of the broker, and the notice to those who want to know. Most moves pass no
landmark and leave the workers where they are; `Office.Gist` lists those that do not.
-/

namespace TopicConsumer

/-! ## Landmarks -/

/-- What is told of a history: the final commit for a worker, the end of the subscription, the end
of the broker, and that those were notified who want to know that the consumer is closed. -/
inductive Landmark where
  | committed (worker : Nat)
  | unsubscribed
  | closed
  | notified
  deriving DecidableEq

def ConsumerEvent.landmark? : ConsumerEvent → Option Landmark
  | .unsubscribed => some .unsubscribed
  | .closed => some .closed
  | .work _ | .subscribed _ _ => none

namespace ConsumerEvent

/-- The position of the partition is to be committed. -/
def commits (p : TopicPartition) : ConsumerEvent → Bool
  | .work (.operation q .commit) => decide (q = p)
  | _ => false

/-- The landmarks among what happened. -/
def landmarks (events : List ConsumerEvent) : List Landmark := events.filterMap landmark?

@[simp] theorem landmarks_append (events more : List ConsumerEvent) :
    landmarks (events ++ more) = landmarks events ++ landmarks more :=
  List.filterMap_append

@[simp] theorem landmarks_map_work (events : List Event) : landmarks (events.map .work) = [] := by
  induction events with
  | nil => rfl
  | cons e events ih => exact ih

@[simp] theorem landmarks_map_log {α : Type} (f : α → LogLine) (l : List α) :
    landmarks (l.map fun a => log (f a)) = [] := by
  induction l with
  | nil => rfl
  | cons a l ih => exact ih

end ConsumerEvent

namespace Office

/-- Where the shutdown stands that goes on with this move, if there is one. -/
def shutdownOf? (o : Office) : Act → Option Shutdown
  | .goes party => o.shutdown? party
  | _ => none

/-- The call that closes a worker and that goes on with this move, if there is one. -/
def disposal? (o : Office) (act : Act) : Option (Nat × Disposal) :=
  match act, o.shutdownOf? act with
  | .removal task, _ => o.consumer.removals[task]?
  | _, some (.closingWorker w call _) => some (w, call)
  | _, _ => none

/-- The final commits of a move: the call that closes a worker has the position of the worker's
partition committed. -/
def finalCommits (o : Office) (act : Act) (events : List ConsumerEvent) : List Landmark :=
  match o.disposal? act with
  | none => []
  | some (i, _) =>
    match o.consumer.workers[i]? with
    | none => []
    | some w => .replicate (events.countP (·.commits w.partition)) (.committed i)

/-- A call of the broker crashes. -/
def Breaks (events : List ConsumerEvent) : Prop :=
  ∃ call text, .work (.call call (.crashed text)) ∈ events

/-- Those are done who want to know that the consumer is closed. -/
def Act.notices : Act → List Landmark
  | .notified _ _ => [.notified]
  | _ => []

/-- The landmarks of a move. -/
def Entry.landmarks (e : Entry) : List Landmark :=
  e.before.finalCommits e.act e.events ++ ConsumerEvent.landmarks e.events ++ e.act.notices

/-- The landmarks of a history, in order. -/
def landmarks (history : List Entry) : List Landmark := history.flatMap Entry.landmarks

theorem finalCommits_of_nobody {o : Office} {act : Act} (nobody : o.disposal? act = none)
    (events : List ConsumerEvent) : o.finalCommits act events = [] := by
  rw [finalCommits, nobody]

@[simp] theorem landmarks_nil : landmarks [] = [] := rfl

@[simp] theorem landmarks_concat (history : List Entry) (e : Entry) :
    landmarks (history ++ [e]) = landmarks history ++ e.landmarks := by
  simp [landmarks]

end Office

/-! ## Moves that leave a shutdown aside -/

/-- The consumers have the same workers in the same places. -/
structure Consumer.Alike (c d : Consumer) : Prop where
  disposed : d.disposed = c.disposed
  badges : d.badges = c.badges
  registry : d.registry = c.registry
  removals : d.removals = c.removals
  remembered : d.remembered = c.remembered

namespace Consumer

variable {c : Consumer}

theorem Alike.refl (c : Consumer) : Alike c c := ⟨rfl, rfl, rfl, rfl, rfl⟩

theorem alike_setStation {i : Nat} {w : Worker} {s : Station} (worker : c.workers[i]? = some w)
    (same : s.worker.badge = w.badge) : Alike c (c.setStation i s) :=
  ⟨rfl, badges_setStation_same worker same, rfl, rfl, rfl⟩

theorem alike_revoke (env : Surroundings) (ps : List TopicPartition) (c : Consumer) :
    Alike c (c.revoke env ps).1 ∧ (c.revoke env ps).1.loop = c.loop := by
  obtain ⟨m, same, -⟩ := revoke_spec env c ps
  rw [same]
  exact ⟨⟨rfl, rfl, rfl, rfl, rfl⟩, rfl⟩

theorem landmarks_revoke (env : Surroundings) (ps : List TopicPartition) (c : Consumer) :
    ConsumerEvent.landmarks (c.revoke env ps).2.1 = [] := by
  induction ps generalizing c with
  | nil => rfl
  | cons p rest ih =>
    rw [revoke]
    split
    · exact ih c
    · simp only []
      split
      · exact ConsumerEvent.landmarks_map_work _
      · rw [ConsumerEvent.landmarks_append, ConsumerEvent.landmarks_map_work, ih]
        rfl

/-- A consumer is started at most once, and nobody else gives it a loop. -/
theorem start_spec (profile : ConsumerProfile) (inRuntime : Bool) (answer : Answer)
    (c : Consumer) : Alike c (c.start profile inRuntime answer).1 ∧
      ConsumerEvent.landmarks (c.start profile inRuntime answer).2.1 = [] ∧
        ((c.start profile inRuntime answer).1 = c ∨
          c.started = false ∧ (c.start profile inRuntime answer).1.started = true ∧
            ((c.start profile inRuntime answer).1.loop = c.loop ∨
              (c.start profile inRuntime answer).1.loop = some .beginning)) := by
  unfold start
  split
  · exact ⟨.refl c, rfl, .inl rfl⟩
  · split
    · exact ⟨.refl c, rfl, .inl rfl⟩
    · next fresh =>
      have fresh : c.started = false := by simpa using fresh
      split
      · exact ⟨⟨rfl, rfl, rfl, rfl, rfl⟩, rfl, .inr ⟨fresh, rfl, .inl rfl⟩⟩
      · cases answer with
        | crashed text => exact ⟨⟨rfl, rfl, rfl, rfl, rfl⟩, rfl, .inr ⟨fresh, rfl, .inl rfl⟩⟩
        | failed e => exact ⟨⟨rfl, rfl, rfl, rfl, rfl⟩, rfl, .inr ⟨fresh, rfl, .inl rfl⟩⟩
        | done => exact ⟨⟨rfl, rfl, rfl, rfl, rfl⟩, rfl, .inr ⟨fresh, rfl, .inr rfl⟩⟩

theorem landmarks_addWorkers (env : Surroundings) (routing : String → Option BatchSettings)
    (ps : List TopicPartition) (c : Consumer) :
    ConsumerEvent.landmarks (addWorkers env routing ps c).2.1 = [] := by
  induction ps generalizing c with
  | nil => rfl
  | cons p rest ih =>
    rw [addWorkers]
    split
    · exact ih c
    · split
      · exact ih c
      · next settings _ =>
        have started : ConsumerEvent.landmarks (spawn env p settings c).2.1 = [] := by
          simp only [spawn]
          split
          · exact ConsumerEvent.landmarks_map_work _
          · split <;> exact ConsumerEvent.landmarks_map_work _
        split
        · next spawned =>
          rw [spawned] at started
          exact started
        · next d events spawned =>
          rw [spawned] at started
          simp only [ConsumerEvent.landmarks_append, started, ih, List.append_nil]

theorem landmarks_assign (env : Surroundings) (profile : ConsumerProfile) (inRuntime : Bool)
    (ps : List TopicPartition) (c : Consumer) :
    ConsumerEvent.landmarks (c.assign env profile inRuntime ps).2.1 = [] := by
  rw [assign]
  split
  · rfl
  · split
    · rfl
    · have added := landmarks_addWorkers env profile.routing ps c
      split
      · next h =>
        rw [h] at added
        exact added
      · next d events h =>
        rw [h] at added
        simp only [removeOthers, ConsumerEvent.landmarks_append, added,
          ConsumerEvent.landmarks_map_log]
        rfl

theorem reassign_eq (env : Surroundings) (profile : ConsumerProfile) (ps : List TopicPartition)
    (c : Consumer) : ∃ m ws entries tasks names, (c.reassign env profile ps).1 =
      { c with
        manager := m
        workers := ws
        registry := entries
        removals := tasks
        remembered := names } := by
  simp only [reassign, assign, Bool.false_eq_true, if_false, Bool.not_true, Bool.and_false]
  obtain ⟨m, ws, entries, added⟩ :=
    addWorkers_eq env profile.routing ps { c with disposed := false }
  split
  · next h =>
    rw [h] at added
    exact ⟨m, ws, entries, c.removals, c.remembered, by rw [show _ = _ from added]⟩
  · next d events h =>
    rw [h] at added
    obtain rfl : d = _ := added
    rw [removeOthers_eq]
    exact ⟨_, _, _, _, _, rfl⟩

/-- An assignment adds workers that nobody has begun to close, and tasks that have not begun. -/
theorem reassign_spec (env : Surroundings) (profile : ConsumerProfile) (ps : List TopicPartition)
    (c : Consumer) :
    (∃ added, (c.reassign env profile ps).1.badges = c.badges ++ added ∧
      ∀ b ∈ added, b.status = .active) ∧
    ∃ gone : List Nat, (c.reassign env profile ps).1.removals =
      c.removals ++ gone.map fun w => (w, .claiming) := by
  have grown := (grown_addWorkers env { c with disposed := false } profile.routing ps
    fun _ _ _ _ => trivial).1
  obtain ⟨m, ws, entries, same⟩ :=
    addWorkers_eq env profile.routing ps { c with disposed := false }
  have started : ∃ added,
      (addWorkers env profile.routing ps { c with disposed := false }).1.badges =
        c.badges ++ added ∧ ∀ b ∈ added, b.status = .active := by
    obtain ⟨added, workers, fresh⟩ := grown.workers
    refine ⟨added.map Worker.badge, by simp [badges, workers], fun b mem => ?_⟩
    obtain ⟨w, new, rfl⟩ := List.mem_map.mp mem
    obtain ⟨q, settings, rfl | rfl⟩ := fresh w new <;> rfl
  simp only [reassign, assign, Bool.false_eq_true, if_false, Bool.not_true, Bool.and_false]
  split
  · next h =>
    rw [h] at started same
    obtain rfl := same
    exact ⟨started, [], by simp⟩
  · next d events h =>
    rw [h] at started same
    obtain rfl := same
    rw [removeOthers_eq]
    refine ⟨started, (entries.filter fun entry => !ps.contains entry.1).map Prod.snd, ?_⟩
    simp [List.map_map, Function.comp_def]

end Consumer

namespace Office

variable {profile : ConsumerProfile} {env : Surroundings} {o t : Office}

/-- Nothing of a shutdown is under way but, perhaps, that it is about to be claimed. -/
def Calm (s : Option Shutdown) : Prop := s = none ∨ s = some .claiming

/-- The move is none of a shutdown or of a call that closes a worker, and no assignment has begun or
ended. -/
structure Aside (o t : Office) : Prop where
  alike : o.consumer.Alike t.consumer
  rebalance : t.rebalance = o.rebalance
  shutdown : ∀ party, t.shutdown? party = o.shutdown? party ∨
    Calm (o.shutdown? party) ∧ Calm (t.shutdown? party)

/-- The parties stay where they are when the loop does. -/
theorem shutdown?_of_loop {c : Consumer} {rebalance : Option (List TopicPartition)}
    (loop : c.loop = o.consumer.loop) (party : Party) :
    (⟨c, o.closings, rebalance⟩ : Office).shutdown? party = o.shutdown? party := by
  cases party with
  | loop => simp only [shutdown?, loop]
  | call n => rfl

theorem Aside.of_same {c : Consumer} (alike : o.consumer.Alike c)
    (loop : c.loop = o.consumer.loop) : Aside o { o with consumer := c } :=
  ⟨alike, rfl, fun party => .inl (shutdown?_of_loop loop party)⟩

/-- The loop moves between places at which no shutdown is under way. -/
theorem Aside.of_turn {c : Consumer} (alike : o.consumer.Alike c) {next : PollLoop}
    (before : Calm (o.shutdown? .loop))
    (after : next.Free ∨ ∃ i r call, next = .enqueuing i r call) :
    Aside o ({ o with consumer := c }.turnTo next) := by
  refine ⟨⟨alike.disposed, alike.badges, alike.registry, alike.removals, alike.remembered⟩, rfl,
    fun party => ?_⟩
  cases party with
  | loop =>
    refine .inr ⟨before, ?_⟩
    rcases after with free | ⟨i, r, call, rfl⟩
    · cases next with
      | shuttingDown s =>
        obtain rfl : s = .claiming := free
        exact .inr rfl
      | _ => exact .inl rfl
    · exact .inl rfl
  | call n => exact .inl rfl

theorem shutdown?_eq_none {loop : PollLoop} (place : o.consumer.loop = some loop)
    (early : ∀ s, loop ≠ .shuttingDown s) : o.shutdown? .loop = none := by
  cases loop with
  | shuttingDown s => exact absurd rfl (early s)
  | _ => simp [shutdown?, place]

/-- A call moves between places at which no shutdown is under way. -/
theorem Aside.of_call {c : Consumer} (alike : o.consumer.Alike c) (loop : c.loop = o.consumer.loop)
    {n : Nat} {next : Closing} (before : Calm (o.shutdown? (.call n)))
    (after : ∀ s, next = .shuttingDown s → s = .claiming) :
    Aside o { o with consumer := c, closings := o.closings.set n next } := by
  refine ⟨alike, rfl, fun party => ?_⟩
  cases party with
  | loop => exact .inl (by simp only [shutdown?, loop])
  | call m =>
    by_cases hm : n = m
    · subst hm
      refine .inr ⟨before, ?_⟩
      by_cases bound : n < o.closings.length
      · cases next with
        | shuttingDown s =>
          obtain rfl := after s rfl
          exact .inr (by simp [shutdown?, bound])
        | _ => exact .inl (by simp [shutdown?, bound])
      · exact .inl (by simp [shutdown?, bound])
    · exact .inl (by simp only [shutdown?, List.getElem?_set_ne hm])

/-- What a move can be that matters to a shutdown. -/
inductive Gist (profile : ConsumerProfile) (env : Surroundings) (o : Office) :
    Act → Office → List ConsumerEvent → Prop
  | aside {act : Act} {t : Office} {events : List ConsumerEvent} (aside : Aside o t)
      (apart : o.shutdownOf? act = none) (nobody : o.disposal? act = none)
      (tacit : ConsumerEvent.landmarks events = []) (unnoticed : act.notices = []) :
      Gist profile env o act t events
  | accepted {inRuntime : Bool} {ps : List TopicPartition} (live : o.consumer.disposed = false) :
      Gist profile env o (.assign inRuntime ps) { o with rebalance := some ps } []
  | reassigned {ps : List TopicPartition} (held : o.rebalance = some ps) :
      Gist profile env o .reassign
        { o with consumer := (o.consumer.reassign env profile ps).1, rebalance := none }
        (o.consumer.reassign env profile ps).2.1
  | removal {task i : Nat} {d e : Disposal} {w : Worker} {s : Station} {events : List Event}
      (call : o.consumer.removals[task]? = some (i, d)) (worker : o.consumer.workers[i]? = some w)
      (move : Disposal.Move env ⟨o.consumer.manager, w⟩ d s e events) :
      Gist profile env o (.removal task)
        { o with consumer := { o.consumer.setStation i s with
            removals := o.consumer.removals.set task (i, e) } }
        (events.map .work)
  | shut {party : Party} {s t : Shutdown} {c : Consumer} {events : List ConsumerEvent}
      (place : o.shutdown? party = some s) (clear : s = .takingWorkers → o.rebalance = none)
      (step : s.step env profile o.consumer = some (c, t, events)) :
      Gist profile env o (.goes party) ({ o with consumer := c }.setShutdown t party) events
  | notified {party : Party} {answer : Except String Unit} {events : List ConsumerEvent}
      (place : o.shutdown? party = some .notifying)
      (tacit : ConsumerEvent.landmarks events = []) :
      Gist profile env o (.notified party answer) (o.setShutdown .finishing party) events

/-- A consumer has a loop only after it was started. -/
def Entered (o : Office) : Prop := o.consumer.started = false → o.consumer.loop = none

theorem disposal?_goes {party : Party} (apart : o.shutdown? party = none) :
    o.disposal? (.goes party) = none := by
  simp [disposal?, shutdownOf?, apart]

/-- A call that closes the consumer and has not come to the shutdown leaves everything in its place.
-/
theorem alike_of_early {c : Consumer} {call next : Closing} {events : List ConsumerEvent}
    (early : ∀ s, call ≠ .shuttingDown s)
    (step : call.step env profile o.consumer = some (c, next, events)) :
    o.consumer.Alike c ∧ c.loop = o.consumer.loop ∧ ConsumerEvent.landmarks events = [] ∧
      c.started = o.consumer.started ∧ ∀ s, next = .shuttingDown s → s = .claiming := by
  cases call with
  | stoppingLoop =>
    cases step
    exact ⟨⟨rfl, rfl, rfl, rfl, rfl⟩, rfl, rfl, rfl, by simp⟩
  | takingLoop =>
    cases step
    refine ⟨⟨rfl, rfl, rfl, rfl, rfl⟩, rfl, rfl, rfl, fun s hs => ?_⟩
    split at hs
    · cases hs
    · exact (Closing.shuttingDown.inj hs).symm
  | awaitingLoop =>
    simp only [Closing.step] at step
    split at step <;> cases step <;>
      exact ⟨.refl _, rfl, rfl, rfl, fun s hs => (Closing.shuttingDown.inj hs).symm⟩
  | shuttingDown s => exact absurd rfl (early s)
  | returned | crashed text => cases step

theorem Gist.of_turn {c : Consumer} (alike : o.consumer.Alike c) {next : PollLoop}
    {events : List ConsumerEvent} (apart : o.shutdown? .loop = none)
    (after : next.Free ∨ ∃ i r call, next = .enqueuing i r call)
    (tacit : ConsumerEvent.landmarks events = []) :
    Gist profile env o (.goes .loop) ({ o with consumer := c }.turnTo next) events :=
  .aside (.of_turn alike (.inl apart) after) apart (disposal?_goes apart) tacit rfl

theorem Move.gist {act : Act} {events : List ConsumerEvent} (entered : Entered o)
    (move : Move profile env o act t events) : Gist profile env o act t events := by
  cases move with
  | started =>
    rename_i inRuntime answer
    obtain ⟨alike, tacit, which⟩ := Consumer.start_spec profile inRuntime answer o.consumer
    refine .aside ⟨alike, rfl, fun party => ?_⟩ rfl rfl tacit rfl
    cases party with
    | loop =>
      rcases which with same | ⟨fresh, -, same | beginning⟩
      · rw [same]
        exact .inl rfl
      · exact .inl (by simp only [shutdown?, same])
      · exact .inr ⟨.inl (by simp [shutdown?, entered fresh]),
          .inl (by simp [shutdown?, beginning])⟩
    | call n => exact .inl rfl
  | began place =>
    exact .of_turn (.refl _) (shutdown?_eq_none place (by simp)) (.inl trivial) rfl
  | turned place running =>
    exact .of_turn (.refl _) (shutdown?_eq_none place (by simp)) (.inl trivial) rfl
  | stopped place told =>
    have apart : o.shutdown? .loop = none :=
      place.elim (shutdown?_eq_none · (by simp)) (shutdown?_eq_none · (by simp))
    exact .of_turn (.refl _) apart (.inl rfl) rfl
  | passed place worker move =>
    rename_i i r call next w s events
    have apart := shutdown?_eq_none place (by simp)
    have alike := Consumer.alike_setStation worker move.badge
    rcases PollLoop.ofIntake_spec i r next with ⟨-, goesOn⟩ | ⟨ended, free, -⟩
    · rw [goesOn]
      exact .of_turn alike apart (.inr ⟨_, _, _, rfl⟩) (by simp)
    · have tacit : ConsumerEvent.landmarks (PollLoop.ofIntake i r next).2 = [] := by
        cases next with
        | returned result => cases result <;> rfl
        | _ => rfl
      exact .of_turn alike apart (.inl free) (by simp [tacit])
  | polled polling running =>
    rename_i result
    have apart := shutdown?_eq_none polling (by simp)
    rcases PollLoop.polled_spec o.consumer result with ⟨r, i, -, -, h⟩ | ⟨free, -, -⟩
    · rw [h]
      exact .aside (.of_turn (.refl _) (.inl apart) (.inr ⟨_, _, _, rfl⟩)) rfl rfl rfl rfl
    · have tacit : ConsumerEvent.landmarks (PollLoop.polled o.consumer result).2 = [] := by
        unfold PollLoop.polled
        split <;> try rfl
        · split <;> rfl
        · split <;> rfl
      exact .aside (.of_turn (.refl _) (.inl apart) (.inl free)) rfl rfl tacit rfl
  | pollCrashed polling running =>
    have apart := shutdown?_eq_none polling (by simp)
    exact .aside (.of_turn (.refl _) (.inl apart) (.inl trivial)) rfl rfl rfl rfl
  | decided deciding =>
    rename_i error decision
    have apart := shutdown?_eq_none deciding (by simp)
    have tacit : ConsumerEvent.landmarks (PollLoop.decided decision).2 = [] := by
      rcases decision with (- | -) | text | text <;> rfl
    exact .aside (.of_turn (.refl _) (.inl apart) (.inl (PollLoop.decided_spec decision).1)) rfl rfl
      tacit rfl
  | ignored free deaf =>
    exact .aside (.of_same (.refl _) rfl) rfl rfl (Consumer.landmarks_assign ..) rfl
  | accepted free live able => exact .accepted live
  | reassigned held => exact .reassigned held
  | revoked free =>
    rename_i ps
    obtain ⟨alike, loop⟩ := Consumer.alike_revoke env ps o.consumer
    exact .aside (.of_same alike loop) rfl rfl (Consumer.landmarks_revoke env ps o.consumer) rfl
  | batch worker move =>
    have alike := Consumer.alike_setStation worker move.badge
    exact .aside (.of_same alike rfl) rfl rfl (ConsumerEvent.landmarks_map_work _) rfl
  | handler worker ends =>
    have alike := Consumer.alike_setStation worker ends.badge
    exact .aside (.of_same alike rfl) rfl rfl (ConsumerEvent.landmarks_map_work _) rfl
  | removal call worker move => exact .removal call worker move
  | told => exact .aside (.of_same ⟨rfl, rfl, rfl, rfl, rfl⟩ rfl) rfl rfl rfl rfl
  | close =>
    refine .aside ⟨.refl _, rfl, fun party => ?_⟩ rfl rfl rfl rfl
    cases party with
    | loop => exact .inl rfl
    | call n =>
      -- the new call is not at its shutdown yet, and there is none behind it
      rcases Nat.lt_trichotomy n o.closings.length with old | rfl | out
      · exact .inl (by simp only [shutdown?, List.getElem?_append_left old])
      · exact .inr ⟨.inl (by simp [shutdown?]), .inl (by simp [shutdown?])⟩
      · refine .inr ⟨.inl ?_, .inl ?_⟩
        · simp [shutdown?, List.getElem?_eq_none (Nat.le_of_lt out)]
        · have none : (o.closings ++ [Closing.stoppingLoop])[n]? = none :=
            List.getElem?_eq_none (by simpa using Nat.succ_le_of_lt out)
          simp only [shutdown?, none]
  | closing found early step =>
    rename_i n call next c
    have apart : o.shutdown? (.call n) = none := by
      cases call with
      | shuttingDown s => exact absurd rfl (early s)
      | _ => simp [shutdown?, found]
    obtain ⟨alike, loop, tacit, -, after⟩ := alike_of_early early step
    exact .aside (.of_call alike loop (.inl apart) after) apart (disposal?_goes apart) tacit rfl
  | shut place clear step => exact .shut place clear step
  | notified place heard =>
    rename_i party answer
    refine .notified place ?_
    simp only [Shutdown.notified, Option.some.injEq, Prod.mk.injEq] at heard
    cases answer <;> rw [← heard.2] <;> rfl

/-! ## Moves of a shutdown -/

/-- What a shutdown leaves as it is. -/
structure Endures (c d : Consumer) : Prop where
  loop : d.loop = c.loop
  holdsLoop : d.holdsLoop = c.holdsLoop
  started : d.started = c.started
  /-- Nobody is registered. -/
  registry : d.registry ⊆ c.registry
  keeps : c.Keeps d
  /-- Nobody takes it back that the loop is to stop. -/
  loopStops : c.loopStops = true → d.loopStops = true

theorem loopStops_stopLoop {c : Consumer} (told : c.loopStops = true) :
    c.stopLoop.loopStops = true := by
  unfold Consumer.loopStops Consumer.stopLoop at *
  cases token : c.loopToken with
  | none => simp [token] at told
  | some used => rfl

theorem endures_forgetWorkers (c : Consumer) (workers : List Nat) :
    Endures c (c.forgetWorkers workers) := by
  have same : ∃ ws, c.forgetWorkers workers = { c with workers := ws } := by
    unfold Consumer.forgetWorkers
    induction workers generalizing c with
    | nil => exact ⟨c.workers, rfl⟩
    | cons k workers ih => exact ih _
  have keeps := Consumer.keeps_of_eq (Consumer.badges_forgetWorkers (c := c) workers)
  obtain ⟨ws, same⟩ := same
  rw [same] at keeps ⊢
  exact ⟨rfl, rfl, rfl, fun _ => id, keeps, id⟩

/-- A shutdown neither starts the consumer nor moves its loop, and it registers and forgets nobody.
-/
theorem endures_of_shut {s u : Shutdown} {c : Consumer} {events : List ConsumerEvent}
    (step : s.step env profile o.consumer = some (c, u, events)) : Endures o.consumer c := by
  have same := fun {d : Consumer} => Consumer.keeps_of_eq (c := o.consumer) (d := d)
  cases s with
  | claiming =>
    simp only [Shutdown.step] at step
    split at step <;> cases step <;> exact ⟨rfl, rfl, rfl, fun _ => id, same rfl, id⟩
  | stoppingLoop =>
    cases step
    exact ⟨rfl, rfl, rfl, fun _ => id, same rfl, loopStops_stopLoop⟩
  | takingWorkers => cases step; exact ⟨rfl, rfl, rfl, List.nil_subset _, same rfl, id⟩
  | closingWorker w call rest =>
    cases call with
    | returned => cases step; exact ⟨rfl, rfl, rfl, fun _ => id, same rfl, id⟩
    | crashed text => cases step; exact endures_forgetWorkers o.consumer rest
    | _ =>
      simp only [Shutdown.step, bind, Option.bind_eq_some_iff, Prod.exists] at step
      obtain ⟨station, found, v, f, moves, move, step⟩ := step
      cases step
      obtain ⟨worker, hw, rfl⟩ := Option.map_eq_some_iff.mp found
      have keeps := Consumer.keeps_setStation hw (Disposal.move_of_step move).lasting
      exact ⟨rfl, rfl, rfl, fun _ => id, keeps, id⟩
  | awaiting tasks =>
    cases tasks with
    | nil => cases step; exact ⟨rfl, rfl, rfl, fun _ => id, same rfl, id⟩
    | cons task rest =>
      simp only [Shutdown.step, bind, Option.bind_eq_some_iff, Prod.exists] at step
      obtain ⟨i, call, found, step⟩ := step
      split at step <;> cases step
      exact ⟨rfl, rfl, rfl, fun _ => id, same rfl, id⟩
  | cancellingWorkers =>
    cases step
    exact ⟨rfl, rfl, rfl, fun _ => id, same Consumer.badges_cancel, id⟩
  | notifying | returned | crashed text => cases step
  | _ => cases step; exact ⟨rfl, rfl, rfl, fun _ => id, same rfl, id⟩

/-! ## The start of a consumer -/

/-- What a move leaves as it is that does not start the consumer. -/
structure Abides (o t : Office) : Prop where
  started : t.consumer.started = o.consumer.started
  /-- A loop that is over stays where it is, and none comes. -/
  loop : (∀ loop, o.consumer.loop = some loop → loop.isOver = true) →
    t.consumer.loop = o.consumer.loop

theorem Move.abides {act : Act} {events : List ConsumerEvent}
    (move : Move profile env o act t events)
    (other : ∀ inRuntime answer, act ≠ .start inRuntime answer) : Abides o t := by
  have turn : ∀ {loop next : PollLoop} {c : Consumer}, o.consumer.loop = some loop →
      loop.isOver = false → c.started = o.consumer.started →
        Abides o ({ o with consumer := c }.turnTo next) := by
    intro loop next c place alive same
    exact ⟨same, fun ended => absurd ((ended loop place).symm.trans alive) (by simp)⟩
  have keep : ∀ {c : Consumer} {closings : List Closing} {rebalance : Option (List TopicPartition)},
      c.loop = o.consumer.loop → c.started = o.consumer.started →
        Abides o ⟨c, closings, rebalance⟩ :=
    fun loop same => ⟨same, fun _ => loop⟩
  cases move with
  | started => exact absurd rfl (other _ _)
  | began place => exact turn place rfl rfl
  | turned place running => exact turn place rfl rfl
  | stopped place told => exact place.elim (turn · rfl rfl) (turn · rfl rfl)
  | passed place worker move => exact turn place rfl rfl
  | polled polling running => exact turn polling rfl rfl
  | pollCrashed polling running => exact turn polling rfl rfl
  | decided deciding => exact turn deciding rfl rfl
  | reassigned held =>
    rename_i ps
    obtain ⟨m, ws, entries, tasks, names, after⟩ := o.consumer.reassign_eq env profile ps
    exact keep (by rw [after]) (by rw [after])
  | revoked free =>
    rename_i ps
    obtain ⟨m, after, -⟩ := Consumer.revoke_spec env o.consumer ps
    exact keep (by rw [after]) (by rw [after])
  | ignored | accepted | batch | handler | removal | told | close => exact keep rfl rfl
  | closing found early step =>
    obtain ⟨-, loop, -, same, -⟩ := alike_of_early early step
    exact keep loop same
  | shut place clear step =>
    rename_i party s u c
    have endures := endures_of_shut step
    cases party with
    | loop => exact turn (shutdown?_loop.mp place) rfl endures.started
    | call n => exact keep endures.loop endures.started
  | notified place heard =>
    rename_i party answer
    cases party with
    | loop => exact turn (shutdown?_loop.mp place) rfl rfl
    | call n => exact keep rfl rfl

/-- Only its start gives a consumer a loop. -/
theorem Entered.move {act : Act} {events : List ConsumerEvent} (h : Entered o)
    (move : Move profile env o act t events) : Entered t := by
  by_cases starts : ∃ inRuntime answer, act = .start inRuntime answer
  · obtain ⟨inRuntime, answer, rfl⟩ := starts
    cases move with
    | started =>
      intro unstarted
      rcases (Consumer.start_spec profile inRuntime answer o.consumer).2.2 with
        same | ⟨-, started, -⟩
      · dsimp only at unstarted ⊢
        rw [same] at unstarted ⊢
        exact h unstarted
      · cases started.symm.trans unstarted
  · push Not at starts
    have abides := move.abides starts
    intro unstarted
    have missing := h (abides.started.symm.trans unstarted)
    exact (abides.loop fun loop there => by cases missing.symm.trans there).trans missing

/-! ## What no move forgets -/

theorem alike_setShutdown (t : Shutdown) (party : Party) :
    o.consumer.Alike (o.setShutdown t party).consumer ∧
      (o.setShutdown t party).rebalance = o.rebalance := by
  cases party <;> exact ⟨⟨rfl, rfl, rfl, rfl, rfl⟩, rfl⟩

/-- Only an assignment registers workers, and no worker is forgotten. -/
theorem Gist.keeps {act : Act} {events : List ConsumerEvent}
    (gist : Gist profile env o act t events) :
    ((∃ ps, act = .reassign ∧ o.rebalance = some ps) ∨
      t.consumer.registry ⊆ o.consumer.registry) ∧ o.consumer.Keeps t.consumer := by
  cases gist with
  | aside aside =>
    exact ⟨.inr (aside.alike.registry ▸ fun _ => id), Consumer.keeps_of_eq aside.alike.badges⟩
  | accepted => exact ⟨.inr fun _ => id, Consumer.keeps_of_eq rfl⟩
  | reassigned held =>
    rename_i ps
    obtain ⟨⟨added, badges, -⟩, -⟩ := o.consumer.reassign_spec env profile ps
    exact ⟨.inl ⟨ps, rfl, held⟩, Consumer.keeps_of_append badges⟩
  | removal call worker move =>
    exact ⟨.inr fun _ => id, Consumer.keeps_setStation worker move.lasting⟩
  | shut place clear step =>
    rename_i party r u c
    obtain ⟨alike, -⟩ := alike_setShutdown (o := { o with consumer := c }) u party
    have endures := endures_of_shut step
    exact ⟨.inr (alike.registry ▸ endures.registry),
      endures.keeps.trans (Consumer.keeps_of_eq alike.badges)⟩
  | notified place tacit =>
    rename_i party answer
    obtain ⟨alike, -⟩ := alike_setShutdown (o := o) .finishing party
    exact ⟨.inr (alike.registry ▸ fun _ => id), Consumer.keeps_of_eq alike.badges⟩

end Office

end TopicConsumer
