import Mathlib.Data.List.Nodup
import TopicConsumer.Proofs.Consumer.Moves

/-!
# Where the workers of a consumer are

A worker that was started is registered for its partition, until it is handed over to somebody who
closes it; `Consumer.Housed routing c leaving` says that each worker is in one of these places and
in no other, when `leaving` lists the calls that close the workers that are not registered any more.
Assignments, shutdowns and calls that close a worker move workers from one place to the next.

All that matters about a worker here is its badge.
-/

namespace TopicConsumer

/-- What a worker was started with, and how far it has been closed. -/
structure Badge where
  partition : TopicPartition
  settings : BatchSettings
  status : WorkerStatus

def Worker.badge (w : Worker) : Badge := ⟨w.partition, w.settings, w.status⟩

/-! ## Moves of a worker -/

section Moves

variable {env : Surroundings} {s t : Station} {events : List Event}

theorem Batcher.Move.badge (move : Batcher.Move env s t events) :
    t.worker.badge = s.worker.badge := by
  cases move <;> rfl

theorem Batcher.Ends.badge {ending : Batcher.Ending} (ends : Batcher.Ends env s ending t events) :
    t.worker.badge = s.worker.badge := by
  cases ends <;> rfl

theorem Intake.Move.badge {r : Record} {i j : Intake} (move : Intake.Move env r s i t j events) :
    t.worker.badge = s.worker.badge := by
  cases move <;> rfl

/-- How far a worker has been closed by the call that closes it. -/
def Disposal.status : Disposal → WorkerStatus
  | .claiming => .active
  | .returned => .closed
  | _ => .draining

/-- The call that closes a worker alone changes how far it has been closed. -/
theorem Disposal.Move.badge {d e : Disposal} (move : Disposal.Move env s d t e events)
    (here : s.worker.status = d.status) :
    t.worker.badge = ⟨s.worker.partition, s.worker.settings, e.status⟩ := by
  cases move with
  | claimed active line => rfl
  | late inactive => exact absurd here inactive
  | closed drained line => rfl
  | crashed operating broken =>
    obtain ⟨drained, ⟨rfl, -⟩ | ⟨rfl, -⟩⟩ := operating <;> simp [Worker.badge, here, status]
  | _ => simp_all [Worker.badge, status, Worker.closeIntake, Worker.cancel]

/-- A worker is closed with the partition and the settings that it was started with. -/
theorem Disposal.Move.lasting {d e : Disposal} (move : Disposal.Move env s d t e events) :
    t.worker.partition = s.worker.partition ∧ t.worker.settings = s.worker.settings := by
  cases move <;> exact ⟨rfl, rfl⟩

theorem Disposal.Move.alive {d e : Disposal} (move : Disposal.Move env s d t e events) :
    d.isOver = false := by
  cases move with
  | crashed operating broken => obtain ⟨drained, ⟨rfl, -⟩ | ⟨rfl, -⟩⟩ := operating <;> rfl
  | _ => rfl

end Moves

/-! ## Keyed lists -/

section Registry

variable {l : List (TopicPartition × Nat)} {q : TopicPartition}

theorem Consumer.lookup_isSome : (l.lookup q).isSome = true ↔ q ∈ l.map Prod.fst := by
  induction l with
  | nil => simp
  | cons entry l ih =>
    obtain ⟨k, j⟩ := entry
    by_cases h : q = k
    · simp [h, List.lookup_cons_self]
    · rw [List.lookup_cons, beq_false_of_ne h]
      simp only [List.map_cons, List.mem_cons, h, false_or]
      exact ih

end Registry

namespace Consumer

/-! ## Badges -/

/-- The badges of all workers that were ever started. -/
def badges (c : Consumer) : List Badge := c.workers.map Worker.badge

variable {c d : Consumer} {i : Nat}

theorem badges_getElem? : c.badges[i]? = c.workers[i]?.map Worker.badge := List.getElem?_map

theorem badges_setStation (s : Station) :
    (c.setStation i s).badges = c.badges.set i s.worker.badge := List.map_set

theorem badges_setStation_same {w : Worker} {s : Station} (worker : c.workers[i]? = some w)
    (same : s.worker.badge = w.badge) : (c.setStation i s).badges = c.badges := by
  rw [badges_setStation, same]
  refine List.ext_getElem? fun j => ?_
  by_cases hij : i = j
  · subst hij
    have bound : i < c.badges.length := by
      simpa [badges] using (List.getElem?_eq_some_iff.mp worker).1
    rw [List.getElem?_set_self bound, badges_getElem?, worker]
    rfl
  · exact List.getElem?_set_ne hij

theorem badges_cancel : { c with workers := c.workers.map Worker.cancel }.badges = c.badges := by
  simp only [badges, List.map_map]
  rfl

theorem badges_forgetWorkers (workers : List Nat) :
    (c.forgetWorkers workers).badges = c.badges := by
  unfold forgetWorkers
  induction workers generalizing c with
  | nil => rfl
  | cons k workers ih =>
    -- a badge does not say whether the intake is closed
    refine ih.trans (List.ext_getElem? fun j => ?_)
    simp only [badges_getElem?, modifyWorker, List.getElem?_modify]
    split
    · cases c.workers[j]? <;> rfl
    · simp

theorem registry_forgetWorkers (workers : List Nat) :
    (c.forgetWorkers workers).registry = c.registry ∧
      (c.forgetWorkers workers).removals = c.removals ∧
        (c.forgetWorkers workers).disposed = c.disposed := by
  unfold forgetWorkers
  induction workers generalizing c with
  | nil => exact ⟨rfl, rfl, rfl⟩
  | cons k workers ih => exact ih

/-- Somebody got hold of the worker when it was started. -/
def Employs (c : Consumer) (i : Nat) : Prop :=
  ∃ b, c.badges[i]? = some b ∧ canSpawn b.settings = true

/-- All workers are still there, with the partitions and the settings that they were started with.
-/
def Keeps (c d : Consumer) : Prop :=
  ∀ (i : Nat) b, c.badges[i]? = some b → ∃ b' : Badge, d.badges[i]? = some b' ∧
    b'.partition = b.partition ∧ b'.settings = b.settings

theorem badges_getElem?_of_append {b : Badge} {more : List Badge}
    (badges : d.badges = c.badges ++ more) (found : c.badges[i]? = some b) :
    d.badges[i]? = some b := by
  rw [badges, List.getElem?_append_left (List.getElem?_eq_some_iff.mp found).1]
  exact found

theorem keeps_of_append {more : List Badge} (badges : d.badges = c.badges ++ more) : Keeps c d :=
  fun _ b found => ⟨b, badges_getElem?_of_append badges found, rfl, rfl⟩

theorem keeps_of_eq (badges : d.badges = c.badges) : Keeps c d :=
  keeps_of_append (badges.trans (List.append_nil _).symm)

theorem keeps_setStation {w : Worker} {s : Station} (worker : c.workers[i]? = some w)
    (same : s.worker.partition = w.partition ∧ s.worker.settings = w.settings) :
    Keeps c (c.setStation i s) := by
  intro j b found
  rw [badges_setStation]
  by_cases hij : i = j
  · subst hij
    have bound := (List.getElem?_eq_some_iff.mp found).1
    rw [badges_getElem?, worker] at found
    cases found
    exact ⟨s.worker.badge, List.getElem?_set_self bound, same⟩
  · exact ⟨b, (List.getElem?_set_ne hij).trans found, rfl, rfl⟩

theorem Keeps.trans {e : Consumer} (h : Keeps c d) (k : Keeps d e) : Keeps c e := by
  intro i b found
  obtain ⟨b', found, partition, settings⟩ := h i b found
  obtain ⟨b'', found, partition', settings'⟩ := k i b' found
  exact ⟨b'', found, partition'.trans partition, settings'.trans settings⟩

theorem Keeps.employs (h : Keeps c d) (employed : c.Employs i) : d.Employs i := by
  obtain ⟨b, found, able⟩ := employed
  obtain ⟨b', found, -, settings⟩ := h i b found
  exact ⟨b', found, by rwa [settings]⟩

/-! ## One place for each worker -/

/-- Every worker that somebody got hold of is registered or leaving, and in one place only. -/
structure Housed (routing : String → Option BatchSettings) (c : Consumer)
    (leaving : List (Nat × Disposal)) : Prop where
  keys : (c.registry.map Prod.fst).Nodup
  once : (c.registry.map Prod.snd ++ leaving.map Prod.fst).Nodup
  employed : ∀ i, c.Employs i ↔ i ∈ c.registry.map Prod.snd ++ leaving.map Prod.fst
  /-- A registered worker is that of its partition, batched as the topic is, and takes records. -/
  registered : ∀ q i, (q, i) ∈ c.registry → ∃ settings, routing q.topic = some settings ∧
    c.badges[i]? = some ⟨q, settings, .active⟩
  /-- A worker that leaves has been closed as far as the call says that closes it. -/
  leaves : ∀ i e, (i, e) ∈ leaving → c.badges[i]?.map Badge.status = some e.status

variable {routing : String → Option BatchSettings} {leaving front back : List (Nat × Disposal)}

theorem housed_fresh : Housed routing fresh [] where
  keys := .nil
  once := .nil
  employed i := by simp [Employs, fresh, badges]
  registered q i h := by cases h
  leaves i e h := by cases h

namespace Housed

theorem congr (h : Housed routing c leaving) (badges : d.badges = c.badges)
    (registry : d.registry = c.registry) : Housed routing d leaving where
  keys := registry ▸ h.keys
  once := registry ▸ h.once
  employed i := by
    rw [Employs, badges, registry]
    exact h.employed i
  registered q i hi := by
    rw [badges]
    exact h.registered q i (registry ▸ hi)
  leaves i e he := by
    rw [badges]
    exact h.leaves i e he

theorem workerOf?_eq_some (h : Housed routing c leaving) {q : TopicPartition} :
    c.workerOf? q = some i ↔ (q, i) ∈ c.registry :=
  ⟨mem_of_lookup, lookup_of_mem h.keys⟩

theorem leaves_of_append (h : Housed routing c leaving) {more : List Badge} {e : Disposal}
    (badges : d.badges = c.badges ++ more) (mem : (i, e) ∈ leaving) :
    d.badges[i]?.map Badge.status = some e.status := by
  obtain ⟨b, found, same⟩ := Option.map_eq_some_iff.mp (h.leaves i e mem)
  rw [badges_getElem?_of_append badges found, ← same]
  rfl

theorem not_registered (h : Housed routing c leaving) {e : Disposal} (mem : (i, e) ∈ leaving)
    (q : TopicPartition) : (q, i) ∉ c.registry := by
  intro registered
  exact (List.nodup_append.mp h.once).2.2 i (List.mem_map_of_mem registered) i
    (List.mem_map_of_mem mem) rfl

/-- A worker is started for a partition that has none. -/
theorem hire (h : Housed routing c leaving) {p : TopicPartition} {settings : BatchSettings}
    (lacking : c.workerOf? p = none) (routed : routing p.topic = some settings)
    (able : canSpawn settings = true) (badges : d.badges = c.badges ++ [⟨p, settings, .active⟩])
    (registry : d.registry = c.registry ++ [(p, c.badges.length)]) : Housed routing d leaving := by
  have known : ∀ i, i ∈ c.registry.map Prod.snd ++ leaving.map Prod.fst → i < c.badges.length := by
    intro i mem
    obtain ⟨b, found, -⟩ := (h.employed i).mpr mem
    exact (List.getElem?_eq_some_iff.mp found).1
  have newest : (c.registry.map Prod.snd ++ [c.badges.length] ++ leaving.map Prod.fst).Perm
      (c.badges.length :: (c.registry.map Prod.snd ++ leaving.map Prod.fst)) := by
    rw [List.append_assoc]
    exact List.perm_middle
  have older := fun {i : Nat} {b : Badge} => badges_getElem?_of_append (i := i) (b := b) badges
  constructor
  case keys =>
    -- the partition has no worker, so that its key is new
    rw [registry, List.map_append]
    refine List.nodup_append.mpr ⟨h.keys, List.nodup_singleton p, ?_⟩
    rintro q mem _ new rfl
    obtain rfl := List.mem_singleton.mp new
    have found := lookup_isSome.mpr mem
    rw [show c.registry.lookup q = none from lacking] at found
    cases found
  case once =>
    -- the new worker comes behind all those that are registered or leaving
    rw [registry, List.map_append]
    refine newest.nodup_iff.mpr (List.nodup_cons.mpr ⟨fun mem => ?_, h.once⟩)
    exact Nat.lt_irrefl _ (known _ mem)
  case employed =>
    intro i
    rw [registry, List.map_append]
    refine Iff.trans ?_ newest.mem_iff.symm
    rw [List.mem_cons, ← h.employed i]
    constructor
    · rintro ⟨b, found, good⟩
      rw [badges] at found
      rcases Nat.lt_or_ge i c.badges.length with old | new
      · rw [List.getElem?_append_left old] at found
        exact .inr ⟨b, found, good⟩
      · have bound := (List.getElem?_eq_some_iff.mp found).1
        rw [List.length_append, List.length_singleton] at bound
        exact .inl (Nat.le_antisymm (Nat.le_of_lt_succ bound) new)
    · rintro (rfl | ⟨b, found, good⟩)
      · exact ⟨⟨p, settings, .active⟩, by rw [badges]; simp, able⟩
      · exact ⟨b, older found, good⟩
  case registered =>
    intro q i mem
    rw [registry] at mem
    rcases List.mem_append.mp mem with old | new
    · obtain ⟨settings, routed, found⟩ := h.registered q i old
      exact ⟨settings, routed, older found⟩
    · obtain ⟨rfl, rfl⟩ := Prod.mk.inj (List.mem_singleton.mp new)
      exact ⟨settings, routed, by rw [badges]; simp⟩
  case leaves => exact fun i e mem => h.leaves_of_append badges mem

/-- A worker that nobody got hold of is in no place. -/
theorem turnAway (h : Housed routing c leaving) {b : Badge} (unable : canSpawn b.settings = false)
    (badges : d.badges = c.badges ++ [b]) (registry : d.registry = c.registry) :
    Housed routing d leaving := by
  have older := fun {i : Nat} {x : Badge} => badges_getElem?_of_append (i := i) (b := x) badges
  constructor
  case keys => exact registry ▸ h.keys
  case once => exact registry ▸ h.once
  case employed =>
    intro i
    rw [registry, ← h.employed i]
    constructor
    · rintro ⟨x, found, good⟩
      rw [badges] at found
      rcases Nat.lt_or_ge i c.badges.length with old | new
      · rw [List.getElem?_append_left old] at found
        exact ⟨x, found, good⟩
      · rw [List.getElem?_append_right new] at found
        obtain ⟨_, rfl⟩ := List.getElem?_eq_some_iff.mp found
        simp [unable] at good
    · exact fun ⟨x, found, good⟩ => ⟨x, older found, good⟩
  case registered =>
    intro q i mem
    obtain ⟨settings, routed, found⟩ := h.registered q i (registry ▸ mem)
    exact ⟨settings, routed, older found⟩
  case leaves => exact fun i e mem => h.leaves_of_append badges mem

/-- Some registered workers are handed over to be closed. -/
theorem dismiss {kept gone : List (TopicPartition × Nat)}
    (h : Housed routing c (front ++ back)) (split : c.registry.Perm (kept ++ gone))
    (badges : d.badges = c.badges) (registry : d.registry = kept) :
    Housed routing d (front ++ gone.map (fun entry => (entry.2, .claiming)) ++ back) := by
  have fst : (gone.map fun entry => (entry.2, Disposal.claiming)).map Prod.fst =
      gone.map Prod.snd := by
    rw [List.map_map]
    rfl
  -- the same workers are registered or leaving, in another order
  have moved : (c.registry.map Prod.snd ++ (front ++ back).map Prod.fst).Perm
      (kept.map Prod.snd ++
        (front ++ gone.map (fun entry => (entry.2, Disposal.claiming)) ++ back).map Prod.fst) := by
    refine ((split.map Prod.snd).append_right _).trans ?_
    simp only [List.map_append, fst, List.append_assoc]
    refine List.Perm.append_left _ ?_
    rw [← List.append_assoc, ← List.append_assoc]
    exact List.perm_append_comm.append_right _
  constructor
  case keys =>
    rw [registry]
    have keys := (split.map Prod.fst).nodup_iff.mp h.keys
    rw [List.map_append] at keys
    exact (List.nodup_append.mp keys).1
  case once =>
    rw [registry]
    exact moved.nodup_iff.mp h.once
  case employed =>
    intro i
    rw [Employs, badges, registry]
    exact (h.employed i).trans moved.mem_iff
  case registered =>
    intro q i mem
    rw [badges]
    exact h.registered q i (split.mem_iff.mpr (List.mem_append_left _ (registry ▸ mem)))
  case leaves =>
    intro i e mem
    rw [badges]
    simp only [List.mem_append, List.mem_map] at mem
    rcases mem with (mem | ⟨⟨q, j⟩, mem, same⟩) | mem
    · exact h.leaves i e (List.mem_append_left _ mem)
    · obtain ⟨rfl, rfl⟩ := Prod.mk.inj same
      obtain ⟨settings, -, found⟩ :=
        h.registered q j (split.mem_iff.mpr (List.mem_append_right _ mem))
      rw [found]
      rfl
    · exact h.leaves i e (List.mem_append_right _ mem)

/-- A worker that leaves is closed a little further. -/
theorem advance {env : Surroundings} {w : Worker} {s : Station} {e f : Disposal}
    {events : List Event} (h : Housed routing c (front ++ (i, e) :: back))
    (worker : c.workers[i]? = some w) (move : Disposal.Move env ⟨c.manager, w⟩ e s f events)
    (badges : d.badges = (c.setStation i s).badges) (registry : d.registry = c.registry) :
    Housed routing d (front ++ (i, f) :: back) := by
  have here : w.status = e.status := by
    have status := h.leaves i e (by simp)
    rw [badges_getElem?, worker] at status
    exact Option.some.inj status
  have bound : i < c.badges.length := by
    simpa [Consumer.badges] using (List.getElem?_eq_some_iff.mp worker).1
  have changed : d.badges[i]? = some ⟨w.partition, w.settings, f.status⟩ := by
    rw [badges, badges_setStation, move.badge here, List.getElem?_set_self bound]
  have others : ∀ j, j ≠ i → d.badges[j]? = c.badges[j]? := by
    intro j hj
    rw [badges, badges_setStation, List.getElem?_set_ne hj.symm]
  -- no worker leaves twice, so that all other calls close other workers
  have apart : ∀ j g, (j, g) ∈ front ++ back → j ≠ i := by
    rintro j g mem rfl
    have once := (List.nodup_append.mp h.once).2.1
    rw [List.map_append, List.map_cons] at once
    have single := List.nodup_cons.mp (List.perm_middle.nodup_iff.mp once)
    rw [← List.map_append] at single
    exact single.1 (List.mem_map.mpr ⟨(j, g), mem, rfl⟩)
  have places : (front ++ (i, f) :: back).map Prod.fst =
      (front ++ (i, e) :: back).map Prod.fst := by
    simp
  constructor
  case keys => exact registry ▸ h.keys
  case once =>
    rw [registry, places]
    exact h.once
  case employed =>
    intro j
    rw [registry, places, ← h.employed j, Employs, Employs]
    by_cases hj : j = i
    · subst hj
      rw [changed, badges_getElem?, worker]
      simp [Worker.badge]
    · rw [others j hj]
  case registered =>
    intro q j mem
    have hj : j ≠ i := by
      rintro rfl
      exact h.not_registered (e := e) (by simp) q (registry ▸ mem)
    rw [others j hj]
    exact h.registered q j (registry ▸ mem)
  case leaves =>
    intro j g mem
    rcases List.mem_cons.mp (List.perm_middle.mem_iff.mp mem) with same | mem
    · cases same
      rw [changed]
      rfl
    · rw [others j (apart j g mem)]
      refine h.leaves j g (List.perm_middle.mem_iff.mpr (List.mem_cons_of_mem _ mem))

end Housed

/-! ## Assignments -/

theorem spawn_eq (env : Surroundings) (p : TopicPartition) (settings : BatchSettings)
    (c : Consumer) : ∃ m ws entries, (spawn env p settings c).1 =
      { c with manager := m, workers := ws, registry := entries } := by
  simp only [spawn]
  split
  · exact ⟨_, _, _, rfl⟩
  · split <;> exact ⟨_, _, _, rfl⟩

theorem addWorkers_eq (env : Surroundings) (routing : String → Option BatchSettings)
    (ps : List TopicPartition) (c : Consumer) : ∃ m ws entries, (addWorkers env routing ps c).1 =
      { c with manager := m, workers := ws, registry := entries } := by
  induction ps generalizing c with
  | nil => exact ⟨_, _, _, rfl⟩
  | cons p rest ih =>
    rw [addWorkers]
    split
    · exact ih c
    · split
      · exact ih c
      · next settings _ =>
        obtain ⟨m, ws, entries, started⟩ := spawn_eq env p settings c
        split
        · next spawned =>
          rw [spawned] at started
          exact ⟨m, ws, entries, started⟩
        · next d events spawned =>
          rw [spawned] at started
          obtain ⟨m', ws', entries', more⟩ := ih d
          refine ⟨m', ws', entries', ?_⟩
          rw [more, show d = _ from started]

theorem Housed.spawn (h : Housed routing c leaving) (env : Surroundings) {p : TopicPartition}
    {settings : BatchSettings} (lacking : c.workerOf? p = none)
    (routed : routing p.topic = some settings) :
    Housed routing (spawn env p settings c).1 leaving := by
  have worker := Station.spawn_worker env c.manager p settings
  simp only [Consumer.spawn]
  split
  · exact h.congr rfl rfl
  · split
    · next able =>
      refine h.hire lacking routed able ?_ ?_
      · simp only [badges, List.map_append, worker]
        rfl
      · simp only [badges, List.length_map]
    · next unable =>
      refine h.turnAway (b := ⟨p, settings, .active⟩) (by simpa using unable) ?_ rfl
      simp only [badges, List.map_append, worker]
      rfl

theorem Housed.addWorkers (h : Housed routing c leaving) (env : Surroundings)
    (ps : List TopicPartition) : Housed routing (addWorkers env routing ps c).1 leaving := by
  induction ps generalizing c with
  | nil => exact h
  | cons p rest ih =>
    rw [Consumer.addWorkers]
    split
    · exact ih h
    · next lacking =>
      rw [Option.not_isSome_iff_eq_none] at lacking
      split
      · exact ih h
      · next settings routed =>
        have started := h.spawn env lacking routed
        split
        · next spawned =>
          rw [spawned] at started
          exact started
        · next d events spawned =>
          rw [spawned] at started
          exact ih started

/-- What is left and what is new when workers are removed one after the other. -/
theorem foldl_remove_eq (others : List (TopicPartition × Nat)) (c : Consumer) :
    others.foldl (fun c other => c.remove other.1 other.2) c =
      { c with
        registry := c.registry.filter fun entry => others.all (entry.1 ≠ ·.1)
        removals := c.removals ++ others.map fun other => (other.2, .claiming)
        remembered := c.remembered ++ List.range' c.removals.length others.length } := by
  induction others generalizing c with
  | nil => simp
  | cons other others ih =>
    rw [List.foldl_cons, ih]
    simp only [remove, List.filter_filter, List.all_cons, List.map_cons, List.length_append,
      List.length_cons, List.append_assoc, List.singleton_append]
    congr 2
    funext entry
    rw [Bool.and_comm]

/-- The registry is left with the listed partitions. -/
theorem removeOthers_eq (ps : List TopicPartition) (c : Consumer) : (removeOthers ps c).1 =
    { c with
      registry := c.registry.filter fun entry => ps.contains entry.1
      removals := c.removals ++
        (c.registry.filter fun entry => !ps.contains entry.1).map fun other => (other.2, .claiming)
      remembered := (c.remembered.filter fun task => !c.removalIsOver task) ++
        List.range' c.removals.length
          (c.registry.filter fun entry => !ps.contains entry.1).length } := by
  rw [removeOthers]
  simp only []
  rw [foldl_remove_eq]
  congr 1
  refine List.filter_congr fun entry mem => ?_
  rw [Bool.eq_iff_iff, List.all_eq_true]
  constructor
  · intro apart
    by_contra out
    have self := apart entry (List.mem_filter.mpr ⟨mem, by simpa using out⟩)
    simp at self
  · intro listed other hother
    have unlisted := (List.mem_filter.mp hother).2
    refine decide_eq_true fun same => ?_
    rw [← same, listed] at unlisted
    cases unlisted

theorem Housed.removeOthers {hand : List (Nat × Disposal)}
    (h : Housed routing c (c.removals ++ hand)) (ps : List TopicPartition) :
    Housed routing (removeOthers ps c).1 ((removeOthers ps c).1.removals ++ hand) := by
  rw [removeOthers_eq]
  exact h.dismiss (List.filter_append_perm
    (fun entry : TopicPartition × Nat => ps.contains entry.1) _).symm rfl rfl

/-- An assignment leaves every worker in one place, however it ends. -/
theorem Housed.assign {profile : ConsumerProfile} {hand : List (Nat × Disposal)}
    (h : Housed profile.routing c (c.removals ++ hand)) (env : Surroundings) (inRuntime : Bool)
    (ps : List TopicPartition) : Housed profile.routing (c.assign env profile inRuntime ps).1
      ((c.assign env profile inRuntime ps).1.removals ++ hand) := by
  rw [Consumer.assign]
  split
  · exact h
  · split
    · exact h
    · have grown := h.addWorkers env ps
      obtain ⟨m, ws, entries, added⟩ := addWorkers_eq env profile.routing ps c
      have removals := congrArg Consumer.removals added
      split
      · next d events text started =>
        rw [started] at removals grown
        rw [show d.removals = c.removals from removals]
        exact grown
      · next d events started =>
        rw [started] at removals grown
        rw [← show d.removals = c.removals from removals] at grown
        exact grown.removeOthers ps

end Consumer

end TopicConsumer
