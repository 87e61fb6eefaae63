import TopicConsumer.Proofs.Consumer.Landmarks

/-!
# How far a shutdown has come

At most one party has claimed the shutdown. `Office.Standing` says whether one has, and what is so
of the registry, of the calls that close workers and of the tasks that are waited for when the
shutdown has come so far.
-/

namespace TopicConsumer

namespace Shutdown

/-- The calls that close the workers which the shutdown has taken. -/
def hand : Shutdown → List (Nat × Disposal)
  | .closingWorker w call rest => (w, call) :: rest.map fun w => (w, .claiming)
  | _ => []

theorem hand_nextWorker (workers : List Nat) :
    (nextWorker workers).hand = workers.map fun w => (w, .claiming) := by
  cases workers <;> rfl

theorem isOver_nextWorker (workers : List Nat) : (nextWorker workers).isOver = false := by
  cases workers <;> rfl

end Shutdown

namespace Consumer

/-- Every task that closes a removed worker is over, or it is one of these. -/
def Recalls (c : Consumer) (tasks : List Nat) : Prop :=
  ∀ (task i : Nat) (d : Disposal), c.removals[task]? = some (i, d) → d.isOver = false → task ∈ tasks

variable {c : Consumer} {tasks : List Nat}

/-- A task that goes on was not over, so that it is one of these already. -/
theorem Recalls.advance (h : c.Recalls tasks) {d : Consumer} {task i : Nat} {e f : Disposal}
    (call : c.removals[task]? = some (i, e)) (busy : e.isOver = false)
    (removals : d.removals = c.removals.set task (i, f)) : d.Recalls tasks := by
  intro other j g found alive
  rw [removals] at found
  by_cases same : task = other
  · exact same ▸ h task i e call busy
  · rw [List.getElem?_set_ne same] at found
    exact h other j g found alive

theorem Recalls.removeOthers (h : c.Recalls c.remembered) (ps : List TopicPartition) :
    (c.removeOthers ps).1.Recalls (c.removeOthers ps).1.remembered := by
  rw [removeOthers_eq]
  intro task i d found alive
  dsimp only at found ⊢
  rcases Nat.lt_or_ge task c.removals.length with old | new
  · rw [List.getElem?_append_left old] at found
    refine List.mem_append_left _ (List.mem_filter.mpr ⟨h task i d found alive, ?_⟩)
    simp [removalIsOver, found, alive]
  · have bound := (List.getElem?_eq_some_iff.mp found).1
    rw [List.length_append, List.length_map] at bound
    exact List.mem_append_right _ (List.mem_range'_1.mpr ⟨new, bound⟩)

theorem Recalls.assign (h : c.Recalls c.remembered) (env : Surroundings)
    (profile : ConsumerProfile) (inRuntime : Bool) (ps : List TopicPartition) :
    (c.assign env profile inRuntime ps).1.Recalls
      (c.assign env profile inRuntime ps).1.remembered := by
  rw [Consumer.assign]
  split
  · exact h
  · split
    · exact h
    · obtain ⟨m, ws, entries, added⟩ := addWorkers_eq env profile.routing ps c
      have same := congrArg (fun d => (d.removals, d.remembered)) added
      split
      · next d events text started =>
        rw [started] at same
        obtain ⟨removals, remembered⟩ := Prod.mk.inj same
        intro task i e found
        exact remembered ▸ h task i e (removals ▸ found)
      · next d events started =>
        rw [started] at same
        obtain ⟨removals, remembered⟩ := Prod.mk.inj same
        have kept : d.Recalls d.remembered := by
          intro task i e found
          exact remembered ▸ h task i e (removals ▸ found)
        exact kept.removeOthers ps

end Consumer

namespace Office

variable {profile : ConsumerProfile} {env : Surroundings} {o t : Office}

/-- No worker is registered, and none will be. -/
structure Cleared (o : Office) : Prop where
  registry : o.consumer.registry = []
  rebalance : o.rebalance = none

/-- What is so when a shutdown that was claimed has come so far. -/
def Reached (o : Office) : Shutdown → Prop
  | .claiming => False
  | .stoppingLoop | .takingWorkers => o.consumer.Recalls o.consumer.remembered
  | .closingWorker _ _ _ | .takingRemovals => o.Cleared ∧ o.consumer.Recalls o.consumer.remembered
  | .awaiting tasks => o.Cleared ∧ o.consumer.Recalls tasks
  | .crashed _ => o.Cleared
  | _ => o.Cleared ∧ o.consumer.Recalls []

/-- A shutdown that has come so far goes on with these calls after it has closed some workers. -/
def inHand (closed : List Nat) (s : Shutdown) : List (Nat × Disposal) :=
  closed.map (fun w => (w, .returned)) ++ s.hand

/-- How far the shutdown of a consumer has come: nobody has claimed it yet, or the party that has is
under way with it, or it is over. -/
inductive Standing (routing : String → Option BatchSettings) (o : Office) : Shutdown → Prop
  | idle (live : o.consumer.disposed = false) (calm : ∀ party, Calm (o.shutdown? party))
      (housed : o.consumer.Housed routing (o.consumer.removals ++ []))
      (recalls : o.consumer.Recalls o.consumer.remembered) : Standing routing o .claiming
  | busy {party : Party} {s : Shutdown} {closed : List Nat} (claimed : o.consumer.disposed = true)
      (place : o.shutdown? party = some s) (reached : o.Reached s)
      (others : ∀ other, other ≠ party → Calm (o.shutdown? other))
      (housed : o.consumer.Housed routing (o.consumer.removals ++ inHand closed s)) :
      Standing routing o s
  | concluded {s : Shutdown} {hand : List (Nat × Disposal)} (claimed : o.consumer.disposed = true)
      (calm : ∀ party, Calm (o.shutdown? party)) (reached : o.Reached s) (ended : s.isOver = true)
      (housed : o.consumer.Housed routing (o.consumer.removals ++ hand))
      (closed : s = .returned → ∀ e ∈ hand, e.2 = .returned) : Standing routing o s

variable {routing : String → Option BatchSettings}

theorem standing_new : Standing routing new .claiming :=
  .idle rfl (fun party => .inl (by cases party <;> rfl)) Consumer.housed_fresh (by
    intro task i d found
    simp [new, Consumer.fresh] at found)

/-- What a shutdown has reached does not depend on more than this. -/
theorem Reached.congr {s : Shutdown} (h : o.Reached s)
    (registry : t.consumer.registry = o.consumer.registry) (rebalance : t.rebalance = o.rebalance)
    (recalls : ∀ tasks, o.consumer.Recalls tasks → t.consumer.Recalls tasks)
    (remembered : t.consumer.remembered = o.consumer.remembered) : t.Reached s := by
  have cleared : o.Cleared → t.Cleared := fun c =>
    ⟨registry.trans c.registry, rebalance.trans c.rebalance⟩
  cases s with
  | claiming => exact h
  | stoppingLoop | takingWorkers =>
    unfold Reached
    rw [remembered]
    exact recalls _ h
  | closingWorker w call rest | takingRemovals =>
    unfold Reached
    rw [remembered]
    exact ⟨cleared h.1, recalls _ h.2⟩
  | crashed text => exact cleared h
  | _ => exact ⟨cleared h.1, recalls _ h.2⟩

theorem Reached.cleared_of_isOver {s : Shutdown} (h : o.Reached s) (ended : s.isOver = true) :
    o.Cleared := by
  cases s with
  | returned => exact h.1
  | crashed text => exact h
  | _ => cases ended

theorem reached_nextWorker (workers : List Nat) (cleared : o.Cleared)
    (recalls : o.consumer.Recalls o.consumer.remembered) :
    o.Reached (Shutdown.nextWorker workers) := by
  cases workers <;> exact ⟨cleared, recalls⟩

/-- A shutdown that was claimed is not about to be claimed. -/
theorem Reached.not_calm {s : Shutdown} (h : o.Reached s) : ¬ Calm (some s) := by
  rintro (h' | h')
  · cases h'
  · cases h'
    exact h

/-! ### The move of a shutdown -/

theorem shutdown?_setShutdown_of_ne {c : Consumer} (loop : c.loop = o.consumer.loop) {t : Shutdown}
    {party other : Party} (apart : other ≠ party) :
    ({ o with consumer := c }.setShutdown t party).shutdown? other = o.shutdown? other := by
  cases party with
  | loop =>
    cases other with
    | loop => exact absurd rfl apart
    | call m => rfl
  | call n =>
    cases other with
    | loop => simp only [shutdown?, setShutdown, loop]
    | call m =>
      have hm : n ≠ m := fun h => apart (congrArg Party.call h.symm)
      simp only [shutdown?, setShutdown, List.getElem?_set_ne hm]

theorem shutdown?_setShutdown_self {c : Consumer} {s t : Shutdown} {party : Party}
    (place : o.shutdown? party = some s) :
    ({ o with consumer := c }.setShutdown t party).shutdown? party =
      if t.isOver then none else some t := by
  cases party with
  | loop => cases t <;> rfl
  | call n =>
    have bound := (List.getElem?_eq_some_iff.mp (shutdown?_call.mp place)).1
    cases t <;> simp [shutdown?, setShutdown, bound, Closing.ofShutdown, Shutdown.isOver]

/-- A party that comes too late for the claim is done. -/
theorem Aside.of_late {party : Party} (place : o.shutdown? party = some .claiming) :
    Aside o (o.setShutdown .returned party) := by
  obtain ⟨alike, rebalance⟩ := alike_setShutdown (o := o) .returned party
  refine ⟨alike, rebalance, fun other => ?_⟩
  by_cases apart : other = party
  · subst apart
    exact .inr ⟨.inr place, .inl (shutdown?_setShutdown_self (t := .returned) place)⟩
  · exact .inl (shutdown?_setShutdown_of_ne rfl apart)

namespace Standing

variable {s u : Shutdown}

theorem housed (h : Standing routing o s) : ∃ leaving, o.consumer.Housed routing leaving := by
  cases h with
  | idle _ _ housed => exact ⟨_, housed⟩
  | busy _ _ _ _ housed => exact ⟨_, housed⟩
  | concluded _ _ _ _ housed => exact ⟨_, housed⟩

theorem aside (h : Standing routing o s) (aside : Aside o t) : Standing routing t s := by
  obtain ⟨⟨disposed, badges, registry, removals, remembered⟩, rebalance, shutdown⟩ := aside
  have recalls : ∀ tasks, o.consumer.Recalls tasks → t.consumer.Recalls tasks := by
    intro tasks recalls task i d found
    exact recalls task i d (removals ▸ found)
  have calm : ∀ party, Calm (o.shutdown? party) → Calm (t.shutdown? party) := by
    intro party calm
    rcases shutdown party with same | ⟨-, after⟩
    · rw [same]
      exact calm
    · exact after
  cases h with
  | idle live all housed tasks =>
    refine .idle (disposed.trans live) (fun party => calm party (all party)) ?_ ?_
    · rw [removals]
      exact housed.congr badges registry
    · rw [remembered]
      exact recalls _ tasks
  | busy claimed place reached others housed =>
    refine .busy (disposed.trans claimed) ?_ (reached.congr registry rebalance recalls remembered)
      (fun other apart => calm other (others other apart)) (removals ▸ housed.congr badges registry)
    rcases shutdown _ with same | ⟨before, -⟩
    · exact same.trans place
    · rw [place] at before
      exact absurd before reached.not_calm
  | concluded claimed all reached ended housed closed =>
    exact .concluded (disposed.trans claimed) (fun party => calm party (all party))
      (reached.congr registry rebalance recalls remembered) ended
      (removals ▸ housed.congr badges registry) closed

theorem accepted (h : Standing routing o s) (live : o.consumer.disposed = false)
    (ps : List TopicPartition) : Standing routing { o with rebalance := some ps } s := by
  cases h with
  | idle live calm housed recalls =>
    refine .idle live (fun party => ?_) housed recalls
    rw [shutdown?_of_loop (o := o) rfl]
    exact calm party
  | busy claimed => exact absurd (live.symm.trans claimed) Bool.false_ne_true
  | concluded claimed => exact absurd (live.symm.trans claimed) Bool.false_ne_true

/-- An assignment that was begun before the shutdown was claimed is carried out before the workers
are taken. -/
theorem reassigned (h : Standing profile.routing o s) {ps : List TopicPartition}
    (held : o.rebalance = some ps) : Standing profile.routing
      { o with consumer := (o.consumer.reassign env profile ps).1, rebalance := none } s := by
  obtain ⟨m, ws, entries, tasks, names, after⟩ := o.consumer.reassign_eq env profile ps
  have uncleared : ¬ o.Cleared := by
    intro cleared
    rw [cleared.rebalance] at held
    cases held
  have disposed : (o.consumer.reassign env profile ps).1.disposed = o.consumer.disposed := by
    rw [after]
  have shutdown : ∀ party,
      ({ o with consumer := (o.consumer.reassign env profile ps).1, rebalance := none } :
        Office).shutdown? party = o.shutdown? party := by
    exact fun party => shutdown?_of_loop (by rw [after]) party
  have carried : ∀ {hand : List (Nat × Disposal)},
      o.consumer.Housed profile.routing (o.consumer.removals ++ hand) →
        (o.consumer.reassign env profile ps).1.Housed profile.routing
          ((o.consumer.reassign env profile ps).1.removals ++ hand) := by
    intro hand housed
    have start : ({ o.consumer with disposed := false } : Consumer).Housed profile.routing
        (o.consumer.removals ++ hand) := housed.congr rfl rfl
    exact (start.assign env true ps).congr rfl rfl
  have assigned : o.consumer.Recalls o.consumer.remembered →
      (o.consumer.reassign env profile ps).1.Recalls
        (o.consumer.reassign env profile ps).1.remembered := by
    intro recalls
    have start : ({ o.consumer with disposed := false } : Consumer).Recalls
        o.consumer.remembered := recalls
    exact start.assign env profile true ps
  cases h with
  | idle live calm housed recalls =>
    exact .idle (disposed.trans live) (fun party => by rw [shutdown]; exact calm party)
      (carried housed) (assigned recalls)
  | busy claimed place reached others housed =>
    have early : o.consumer.Recalls o.consumer.remembered ∧
        (s = .stoppingLoop ∨ s = .takingWorkers) := by
      cases s with
      | stoppingLoop => exact ⟨reached, .inl rfl⟩
      | takingWorkers => exact ⟨reached, .inr rfl⟩
      | claiming => exact reached.elim
      | crashed text => exact absurd reached uncleared
      | _ => exact absurd reached.1 uncleared
    refine .busy (disposed.trans claimed) ((shutdown _).trans place) ?_
      (fun other apart => by rw [shutdown]; exact others other apart) (carried housed)
    rcases early.2 with rfl | rfl <;> exact assigned early.1
  | concluded claimed calm reached ended => exact absurd (reached.cleared_of_isOver ended) uncleared

/-- A task goes on with closing a removed worker. -/
theorem removal (h : Standing routing o s) {task i : Nat} {d e : Disposal} {w : Worker}
    {v : Station} {events : List Event} (call : o.consumer.removals[task]? = some (i, d))
    (worker : o.consumer.workers[i]? = some w)
    (move : Disposal.Move env ⟨o.consumer.manager, w⟩ d v e events) : Standing routing
      { o with consumer := { o.consumer.setStation i v with
          removals := o.consumer.removals.set task (i, e) } } s := by
  have recalls : ∀ tasks, o.consumer.Recalls tasks → ({ o.consumer.setStation i v with
      removals := o.consumer.removals.set task (i, e) } : Consumer).Recalls tasks :=
    fun tasks recalls => recalls.advance call move.alive rfl
  have shutdown : ∀ party, ({ o with consumer := { o.consumer.setStation i v with
      removals := o.consumer.removals.set task (i, e) } } : Office).shutdown? party =
        o.shutdown? party := fun party => shutdown?_of_loop rfl party
  have advanced : ∀ hand, o.consumer.Housed routing (o.consumer.removals ++ hand) →
      ({ o.consumer.setStation i v with
        removals := o.consumer.removals.set task (i, e) } : Consumer).Housed routing
          (o.consumer.removals.set task (i, e) ++ hand) := by
    intro hand housed
    obtain ⟨bound, here⟩ := List.getElem?_eq_some_iff.mp call
    obtain ⟨front, back, before, -, after⟩ := @List.exists_of_set _ task (i, e) _ bound
    rw [here] at before
    rw [before, List.append_assoc, List.cons_append] at housed
    rw [after, List.append_assoc, List.cons_append]
    exact housed.advance worker move rfl rfl
  cases h with
  | idle live calm housed tasks =>
    exact .idle live (fun party => by rw [shutdown]; exact calm party) (advanced [] housed)
      (recalls _ tasks)
  | busy claimed place reached others housed =>
    exact .busy claimed ((shutdown _).trans place) (reached.congr rfl rfl recalls rfl)
      (fun other apart => by rw [shutdown]; exact others other apart) (advanced _ housed)
  | concluded claimed calm reached ended housed closed =>
    exact .concluded claimed (fun party => by rw [shutdown]; exact calm party)
      (reached.congr rfl rfl recalls rfl) ended (advanced _ housed) closed

/-- The shutdown goes on and is not over yet. -/
theorem proceed {party : Party} {t : Shutdown} {c : Consumer} {closed : List Nat}
    (place : o.shutdown? party = some s) (loop : c.loop = o.consumer.loop)
    (others : ∀ other, other ≠ party → Calm (o.shutdown? other)) (claimed : c.disposed = true)
    (reached : ({ o with consumer := c } : Office).Reached t) (goesOn : t.isOver = false)
    (housed : c.Housed routing (c.removals ++ inHand closed t)) :
    Standing routing ({ o with consumer := c }.setShutdown t party) t := by
  obtain ⟨⟨disposed, badges, registry, removals, remembered⟩, rebalance⟩ :=
    alike_setShutdown (o := { o with consumer := c }) t party
  have here : ({ o with consumer := c }.setShutdown t party).shutdown? party = some t := by
    rw [shutdown?_setShutdown_self place, goesOn]
    rfl
  refine .busy (disposed.trans claimed) here
    (reached.congr registry rebalance (fun tasks recalls task i d found =>
      recalls task i d (removals ▸ found)) remembered)
    (fun other apart => ?_) (removals ▸ housed.congr badges registry)
  rw [shutdown?_setShutdown_of_ne loop apart]
  exact others other apart

/-- The shutdown comes to its end. -/
theorem conclude {party : Party} {t : Shutdown} {c : Consumer} {hand : List (Nat × Disposal)}
    (place : o.shutdown? party = some s) (loop : c.loop = o.consumer.loop)
    (others : ∀ other, other ≠ party → Calm (o.shutdown? other)) (claimed : c.disposed = true)
    (reached : ({ o with consumer := c } : Office).Reached t) (ended : t.isOver = true)
    (housed : c.Housed routing (c.removals ++ hand))
    (closed : t = .returned → ∀ e ∈ hand, e.2 = .returned) :
    Standing routing ({ o with consumer := c }.setShutdown t party) t := by
  obtain ⟨⟨disposed, badges, registry, removals, remembered⟩, rebalance⟩ :=
    alike_setShutdown (o := { o with consumer := c }) t party
  refine .concluded (disposed.trans claimed) (fun other => ?_)
    (reached.congr registry rebalance (fun tasks recalls task i d found =>
      recalls task i d (removals ▸ found)) remembered) ended
    (removals ▸ housed.congr badges registry) closed
  by_cases apart : other = party
  · rw [apart, shutdown?_setShutdown_self place, ended]
    exact .inl rfl
  · rw [shutdown?_setShutdown_of_ne loop apart]
    exact others other apart

/-- Whoever is past the claim is the party whose shutdown it is. -/
theorem holder (h : Standing routing o u) {party : Party} (place : o.shutdown? party = some s)
    (past : s ≠ .claiming) : u = s ∧ ∃ closed, o.consumer.disposed = true ∧ o.Reached s ∧
      (∀ other, other ≠ party → Calm (o.shutdown? other)) ∧
        o.consumer.Housed routing (o.consumer.removals ++ inHand closed s) := by
  have uncalm : ¬ Calm (o.shutdown? party) := by
    rw [place]
    rintro (h | h)
    · cases h
    · exact past (Option.some.inj h)
  cases h with
  | idle live calm => exact absurd (calm party) uncalm
  | busy claimed there reached others housed =>
    rename_i holder closed
    obtain rfl : party = holder := by
      by_contra apart
      exact uncalm (others party apart)
    obtain rfl : s = u := Option.some.inj (place.symm.trans there)
    exact ⟨rfl, closed, claimed, reached, others, housed⟩
  | concluded claimed calm => exact absurd (calm party) uncalm

/-- A party that comes too late finds nothing left to do. -/
theorem late (h : Standing routing o s) {party : Party}
    (place : o.shutdown? party = some .claiming) :
    Standing routing (o.setShutdown .returned party) s :=
  h.aside (.of_late place)

/-- The first party that comes claims the shutdown. -/
theorem claim (h : Standing routing o s) {party : Party}
    (place : o.shutdown? party = some .claiming) (live : o.consumer.disposed = false) :
    s = .claiming ∧ Standing routing
      ({ o with consumer := { o.consumer with disposed := true } }.setShutdown .stoppingLoop party)
      .stoppingLoop := by
  cases h with
  | idle _ calm housed recalls =>
    have nobody : ({ o.consumer with disposed := true } : Consumer).Housed routing
        (o.consumer.removals ++ inHand [] .stoppingLoop) := housed.congr rfl rfl
    exact ⟨rfl, proceed place rfl (fun other _ => calm other) rfl recalls rfl nobody⟩
  | busy claimed => exact absurd (live.symm.trans claimed) Bool.false_ne_true
  | concluded claimed => exact absurd (live.symm.trans claimed) Bool.false_ne_true

/-- A shutdown closes one worker after the other. -/
theorem closing (h : Standing routing o u) {party : Party} {w : Nat} {call : Disposal}
    {rest : List Nat} {t : Shutdown} {c : Consumer} {events : List ConsumerEvent}
    (place : o.shutdown? party = some (.closingWorker w call rest))
    (step : Shutdown.step env profile o.consumer (.closingWorker w call rest) =
      some (c, t, events)) :
    Standing routing ({ o with consumer := c }.setShutdown t party) t := by
  obtain ⟨-, closed, claimed, reached, others, housed⟩ := h.holder place (by simp)
  cases call with
  | returned =>
    cases step
    have passed : inHand closed (.closingWorker w .returned rest) =
        inHand (closed ++ [w]) (Shutdown.nextWorker rest) := by
      rw [inHand, inHand, Shutdown.hand_nextWorker]
      simp [Shutdown.hand]
    rw [passed] at housed
    exact proceed place rfl others claimed (reached_nextWorker rest reached.1 reached.2)
      (Shutdown.isOver_nextWorker rest) housed
  | crashed text =>
    cases step
    have subsided := Consumer.subsided_forgetWorkers o.consumer rest
    obtain ⟨registry, removals, disposed⟩ :=
      Consumer.registry_forgetWorkers (c := o.consumer) rest
    have housed := housed.congr (Consumer.badges_forgetWorkers rest) registry
    rw [← removals] at housed
    exact conclude place subsided.loop others (disposed.trans claimed)
      ⟨registry.trans reached.1.registry, reached.1.rebalance⟩ rfl housed (by simp)
  | _ =>
    simp only [Shutdown.step, bind, Option.bind_eq_some_iff, Prod.exists] at step
    obtain ⟨station, found, v, f, moves, move, step⟩ := step
    cases step
    obtain ⟨worker, hw, rfl⟩ := Option.map_eq_some_iff.mp found
    have move := Disposal.move_of_step move
    rw [inHand, ← List.append_assoc] at housed
    have advanced := housed.advance (f := f) (d := o.consumer.setStation w v) hw move rfl rfl
    rw [List.append_assoc] at advanced
    exact proceed place rfl others claimed ⟨⟨reached.1.registry, reached.1.rebalance⟩, reached.2⟩
      rfl advanced

/-- A shutdown that was claimed goes on. -/
theorem shut (h : Standing routing o u) {party : Party} {t : Shutdown} {c : Consumer}
    {events : List ConsumerEvent} (place : o.shutdown? party = some s) (past : s ≠ .claiming)
    (clear : s = .takingWorkers → o.rebalance = none)
    (step : s.step env profile o.consumer = some (c, t, events)) :
    Standing routing ({ o with consumer := c }.setShutdown t party) t := by
  obtain ⟨-, closed, claimed, reached, others, housed⟩ := h.holder place past
  cases s with
  | claiming => exact absurd rfl past
  | closingWorker w call rest => exact h.closing place step
  | stoppingLoop =>
    cases step
    exact proceed place rfl others claimed reached rfl (housed.congr rfl rfl)
  | takingWorkers =>
    cases step
    have housed : o.consumer.Housed routing
        (o.consumer.removals ++ closed.map (fun w => (w, Disposal.returned)) ++ []) := by
      simpa [inHand, Shutdown.hand] using housed
    have taken := housed.dismiss (d := { o.consumer with registry := [] }) (.refl _) rfl rfl
    have hand : o.consumer.removals ++ closed.map (fun w => (w, Disposal.returned)) ++
        o.consumer.registry.map (fun entry => (entry.2, Disposal.claiming)) ++ [] =
          o.consumer.removals ++
            inHand closed (Shutdown.nextWorker (o.consumer.registry.map Prod.snd)) := by
      rw [inHand, Shutdown.hand_nextWorker, List.map_map]
      simp [Function.comp_def]
    rw [hand] at taken
    exact proceed place rfl others claimed (reached_nextWorker _ ⟨rfl, clear rfl⟩ reached)
      (Shutdown.isOver_nextWorker _) taken
  | takingRemovals =>
    cases step
    exact proceed place rfl others claimed ⟨⟨reached.1.registry, reached.1.rebalance⟩, reached.2⟩
      rfl (housed.congr rfl rfl)
  | awaiting tasks =>
    cases tasks with
    | nil =>
      cases step
      exact proceed place rfl others claimed reached rfl housed
    | cons task rest =>
      simp only [Shutdown.step, bind, Option.bind_eq_some_iff, Prod.exists] at step
      obtain ⟨i, call, found, step⟩ := step
      split at step
      · next finished =>
        cases step
        refine proceed place rfl others claimed ⟨reached.1, ?_⟩ rfl housed
        -- the task that was waited for is over
        intro other j e there busy
        rcases List.mem_cons.mp (reached.2 other j e there busy) with rfl | later
        · cases found.symm.trans there
          rw [finished] at busy
          cases busy
        · exact later
      · cases step
  | cancellingWorkers =>
    cases step
    exact proceed place rfl others claimed ⟨⟨reached.1.registry, reached.1.rebalance⟩, reached.2⟩
      rfl (housed.congr Consumer.badges_cancel rfl)
  | unsubscribing =>
    cases step
    exact proceed place rfl others claimed reached rfl housed
  | closingBroker =>
    cases step
    cases hook : profile.hasHook with
    | true => exact proceed place rfl others claimed reached rfl housed
    | false => exact proceed place rfl others claimed reached rfl housed
  | finishing =>
    cases step
    refine conclude place rfl others claimed reached rfl housed fun _ e mem => ?_
    simp only [inHand, Shutdown.hand, List.append_nil, List.mem_map] at mem
    obtain ⟨w, -, rfl⟩ := mem
    rfl
  | notifying | returned | crashed text => cases step

theorem notified (h : Standing routing o u) {party : Party}
    (place : o.shutdown? party = some .notifying) :
    Standing routing (o.setShutdown .finishing party) .finishing := by
  obtain ⟨-, closed, claimed, reached, others, housed⟩ := h.holder place (by simp)
  have hand : o.consumer.Housed routing (o.consumer.removals ++ inHand closed .finishing) := housed
  exact proceed place rfl others claimed reached rfl hand

end Standing

/-- The first move of a shutdown: it claims, or it comes too late. -/
theorem claim_cases {s : Shutdown} {c : Consumer} {events : List ConsumerEvent}
    (step : Shutdown.step env profile o.consumer .claiming = some (c, s, events)) :
    (o.consumer.disposed = true ∧ c = o.consumer ∧ s = .returned ∧ events = []) ∨
      o.consumer.disposed = false ∧ c = { o.consumer with disposed := true } ∧ s = .stoppingLoop ∧
        ConsumerEvent.landmarks events = [] := by
  simp only [Shutdown.step] at step
  split at step
  · next late =>
    cases step
    exact .inl ⟨late, rfl, rfl, rfl⟩
  · next live =>
    cases step
    exact .inr ⟨by simpa using live, rfl, rfl, rfl⟩

/-- Every move finds the shutdown in its place. -/
theorem Standing.move {s : Shutdown} {act : Act} {events : List ConsumerEvent}
    (h : Standing profile.routing o s) (gist : Gist profile env o act t events) :
    ∃ u, Standing profile.routing t u := by
  cases gist with
  | aside aside => exact ⟨s, h.aside aside⟩
  | accepted live => exact ⟨s, h.accepted live _⟩
  | reassigned held => exact ⟨s, h.reassigned held⟩
  | removal call worker move => exact ⟨s, h.removal call worker move⟩
  | shut place clear step =>
    rename_i party r u c
    by_cases past : r = .claiming
    · subst past
      rcases claim_cases step with ⟨late, rfl, rfl, -⟩ | ⟨live, rfl, rfl, -⟩
      · exact ⟨s, h.late place⟩
      · exact ⟨_, (h.claim place live).2⟩
    · exact ⟨u, h.shut place past clear step⟩
  | notified place => exact ⟨_, h.notified place⟩

/-- How far a shutdown has come in a run. -/
theorem Run.standing {history : List Entry} (run : Run profile new history o) :
    Entered o ∧ ∃ s, Standing profile.routing o s := by
  refine run.invariant (fun _ o => Entered o ∧ ∃ s, Standing profile.routing o s) ?_ ?_
  · exact ⟨fun _ => rfl, _, standing_new⟩
  · rintro history o env act t events ⟨entered, s, standing⟩ move
    exact ⟨entered.move move, standing.move (move.gist entered)⟩

end Office

end TopicConsumer
