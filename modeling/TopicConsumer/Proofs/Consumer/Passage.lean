import TopicConsumer.Proofs.Consumer.Retention
import TopicConsumer.Proofs.Consumer.Service

/-!
# From one worker of a partition to the next

A partition that is given back gets a new worker, while the task that closes its earlier worker may
still be under way. `Consumer.Lineage` says that the registered worker is younger than every removed
worker of its partition. `Consumer.Passage forgets c d` says what the moves of a consumer that is
not shut down have in common: workers keep their partitions, a worker that is newly registered has
just been started and its partition been assigned, and the state of a registered partition is
retained, unless the partition is one that is forgotten.
-/

namespace TopicConsumer

namespace Consumer

/-- The registry leads to workers of the right partition, which were started after all removed
workers of this partition. -/
structure Lineage (c : Consumer) : Prop where
  registered : ∀ q i, (q, i) ∈ c.registry → ∃ w, c.workers[i]? = some w ∧ w.partition = q
  earlier : ∀ j e, (j, e) ∈ c.removals → ∃ w, c.workers[j]? = some w ∧
    ∀ i, c.workerOf? w.partition = some i → j < i

/-- What the moves of a consumer that is not shut down have in common. -/
structure Passage (forgets : TopicPartition → Prop) (c d : Consumer) : Prop where
  worker : ∀ (i : Nat) w, c.workers[i]? = some w →
    ∃ v, d.workers[i]? = some v ∧ v.partition = w.partition
  registered : ∀ q i, (q, i) ∈ d.registry →
    (q, i) ∈ c.registry ∨ ∃ w, d.workers[i]? = some w ∧ w.partition = q
  /-- A partition has the worker that it had, or it is assigned anew. -/
  found : ∀ q i, d.workerOf? q = some i → c.workerOf? q = some i ∨
    c.workerOf? q = none ∧ c.workers.length ≤ i ∧ (d.manager.state q).assignedAt.isSome = true
  removed : ∀ j e, (j, e) ∈ d.removals → (∃ f, (j, f) ∈ c.removals) ∨
    ∃ w, d.workers[j]? = some w ∧ d.workerOf? w.partition = none
  retained : ∀ q, (c.workerOf? q).isSome = true → ¬ forgets q →
    (c.manager.state q).Retains (d.manager.state q)
  forgotten : ∀ q, forgets q → (d.manager.state q).assignedAt = none

variable {forgets : TopicPartition → Prop} {c d e : Consumer}

theorem Lineage.passage (lineage : c.Lineage) (passage : Passage forgets c d) : d.Lineage where
  registered q i hi := by
    rcases passage.registered q i hi with old | new
    · obtain ⟨w, hw, rfl⟩ := lineage.registered q i old
      exact passage.worker i w hw
    · exact new
  earlier j f hf := by
    rcases passage.removed j f hf with ⟨g, hg⟩ | ⟨w, hw, free⟩
    · obtain ⟨w, hw, younger⟩ := lineage.earlier j g hg
      obtain ⟨v, hv, same⟩ := passage.worker j w hw
      refine ⟨v, hv, fun i hi => ?_⟩
      rcases passage.found _ i hi with old | ⟨-, fresh, -⟩
      · exact younger i (same ▸ old)
      · exact Nat.lt_of_lt_of_le (List.getElem?_eq_some_iff.mp hw).1 fresh
    · refine ⟨w, hw, fun i hi => ?_⟩
      cases free.symm.trans hi

namespace Passage

/-- Only workers and states change, and nothing is forgotten. -/
theorem of_retains (nothing : ∀ q, ¬ forgets q)
    (worker : ∀ (i : Nat) w, c.workers[i]? = some w →
      ∃ v, d.workers[i]? = some v ∧ v.partition = w.partition)
    (registry : d.registry = c.registry) (removals : d.removals = c.removals)
    (retains : c.manager.Retains d.manager) : Passage forgets c d where
  worker := worker
  registered q i hi := .inl (registry ▸ hi)
  found q i hi := by
    rw [workerOf?, registry] at hi
    exact .inl hi
  removed j f hf := .inl ⟨f, removals ▸ hf⟩
  retained q _ _ := retains q
  forgotten q h := absurd h (nothing q)

/-- Neither the workers nor the states change. -/
theorem aside (nothing : ∀ q, ¬ forgets q) (manager : d.manager = c.manager)
    (workers : d.workers = c.workers) (registry : d.registry = c.registry)
    (removals : d.removals = c.removals) : Passage forgets c d := by
  refine of_retains nothing (fun i w hw => ⟨w, workers ▸ hw, rfl⟩) registry removals ?_
  rw [manager]
  exact .refl _

/-- Every worker is there after the move of one of them. -/
theorem exists_worker_set {i : Nat} {w : Worker} {s : Station} (hw : c.workers[i]? = some w)
    (partition : s.worker.partition = w.partition) (j : Nat) (v : Worker)
    (hv : c.workers[j]? = some v) :
    ∃ u, (c.workers.set i s.worker)[j]? = some u ∧ u.partition = v.partition := by
  by_cases hij : i = j
  · subst hij
    cases hw.symm.trans hv
    exact ⟨_, List.getElem?_set_self (List.getElem?_eq_some_iff.mp hw).1, partition⟩
  · exact ⟨v, (List.getElem?_set_ne hij).trans hv, rfl⟩

/-- A worker makes a move by which nothing is forgotten. -/
theorem station (nothing : ∀ q, ¬ forgets q) {i : Nat} {w : Worker} {s : Station}
    (hw : c.workers[i]? = some w) (partition : s.worker.partition = w.partition)
    (retains : c.manager.Retains s.manager) : Passage forgets c (c.setStation i s) :=
  of_retains nothing (exists_worker_set hw partition) rfl rfl retains

end Passage

/-! ## Assignments -/

/-- Some workers were started, each for a partition that had none and is assigned now. -/
structure Started (c d : Consumer) : Prop where
  removals : d.removals = c.removals
  length : c.workers.length ≤ d.workers.length
  found : ∀ q i, d.workerOf? q = some i → c.workerOf? q = some i ∨
    c.workerOf? q = none ∧ c.workers.length ≤ i ∧ (d.manager.state q).assignedAt.isSome = true
  kept : ∀ q, (c.workerOf? q).isSome = true →
    (d.workerOf? q).isSome = true ∧ d.manager.state q = c.manager.state q

theorem Started.refl (c : Consumer) : Started c c :=
  ⟨rfl, Nat.le_refl _, fun _ _ => .inl, fun _ h => ⟨h, rfl⟩⟩

theorem Started.trans (h : Started c d) (k : Started d e) : Started c e where
  removals := k.removals.trans h.removals
  length := Nat.le_trans h.length k.length
  found q i hi := by
    rcases k.found q i hi with old | ⟨lacking, fresh, assigned⟩
    · refine (h.found q i old).imp_right fun ⟨lacking, fresh, assigned⟩ => ?_
      rw [(k.kept q (old ▸ rfl)).2]
      exact ⟨lacking, fresh, assigned⟩
    · have before : c.workerOf? q = none := by
        rw [← Option.not_isSome_iff_eq_none] at lacking ⊢
        exact fun present => lacking (h.kept q present).1
      exact .inr ⟨before, Nat.le_trans h.length fresh, assigned⟩
  kept q present := by
    obtain ⟨there, same⟩ := h.kept q present
    obtain ⟨still, equal⟩ := k.kept q there
    exact ⟨still, equal.trans same⟩

theorem started_spawn (env : Surroundings) {p : TopicPartition} (settings : BatchSettings)
    (lacking : c.workerOf? p = none) : Started c (spawn env p settings c).1 := by
  have elsewhere : ∀ q, (c.workerOf? q).isSome = true →
      (Station.spawn env c.manager p settings).1.manager.state q = c.manager.state q := by
    intro q present
    rw [Station.spawn_fst]
    refine Manager.state_set_of_ne _ ?_ _
    rintro rfl
    rw [lacking] at present
    cases present
  simp only [spawn]
  split
  · exact ⟨rfl, Nat.le_refl _, fun _ _ => .inl, fun q h => ⟨h, elsewhere q h⟩⟩
  · next fine =>
    split
    · refine ⟨rfl, by simp, fun q i hi => ?_, fun q h => ⟨?_, elsewhere q h⟩⟩
      · rw [workerOf?, List.lookup_append, Option.or_eq_some_iff] at hi
        rcases hi with hi | ⟨lacks, hi⟩
        · exact .inl hi
        · obtain ⟨rfl, rfl⟩ := Prod.mk.inj (List.mem_singleton.mp (mem_of_lookup hi))
          have assigned := Station.spawn_assignedAt env c.manager q settings (by simpa using fine)
          exact .inr ⟨lacks, Nat.le_refl _, assigned⟩
      · rw [workerOf?, List.lookup_append, Option.isSome_or, Bool.or_eq_true]
        exact .inl h
    · exact ⟨rfl, by simp, fun _ _ => .inl, fun q h => ⟨h, elsewhere q h⟩⟩

theorem started_addWorkers (env : Surroundings) (routing : String → Option BatchSettings)
    (ps : List TopicPartition) (c : Consumer) : Started c (addWorkers env routing ps c).1 := by
  induction ps generalizing c with
  | nil => exact .refl c
  | cons p rest ih =>
    rw [addWorkers]
    split
    · exact ih c
    · next lacking =>
      rw [Option.not_isSome_iff_eq_none] at lacking
      split
      · exact ih c
      · next settings _ =>
        have started := started_spawn env settings lacking
        split
        · next spawned =>
          rw [spawned] at started
          exact started
        · next d events spawned =>
          rw [spawned] at started
          exact started.trans (ih d)

/-- Whoever is removed leaves its partition without a worker, and a task is to close it. -/
theorem foldl_remove (others : List (TopicPartition × Nat)) (c : Consumer) :
    (∀ j e, (j, e) ∈ (others.foldl (fun d other => d.remove other.1 other.2) c).removals →
        (j, e) ∈ c.removals ∨ ∃ q, (q, j) ∈ others) ∧
      ∀ q, (∃ j, (q, j) ∈ others) ∨ c.workerOf? q = none →
        (others.foldl (fun d other => d.remove other.1 other.2) c).workerOf? q = none := by
  induction others generalizing c with
  | nil =>
    refine ⟨fun _ _ => .inl, fun q gone => gone.elim ?_ id⟩
    rintro ⟨j, mem⟩
    cases mem
  | cons other others ih =>
    obtain ⟨removals, gone⟩ := ih (c.remove other.1 other.2)
    have here : (c.remove other.1 other.2).workerOf? other.1 = none := by
      rw [Option.eq_none_iff_forall_not_mem]
      intro i hi
      have mem : (other.1, i) ∈ c.registry.filter (·.1 ≠ other.1) := mem_of_lookup hi
      simp at mem
    refine ⟨fun j e mem => ?_, fun q lacking => gone q ?_⟩
    · rcases removals j e mem with mem | ⟨q, mem⟩
      · rcases List.mem_append.mp mem with mem | mem
        · exact .inl mem
        · cases List.mem_singleton.mp mem
          exact .inr ⟨other.1, List.mem_cons_self⟩
      · exact .inr ⟨q, List.mem_cons_of_mem other mem⟩
    · rcases lacking with ⟨j, mem⟩ | lacking
      · rcases List.mem_cons.mp mem with rfl | mem
        · exact .inr here
        · exact .inl ⟨j, mem⟩
      · refine .inr ?_
        by_cases hq : q = other.1
        · rw [hq]
          exact here
        · exact (lookup_filter_ne hq _).trans lacking

/-- Starting workers forgets nothing. -/
theorem Passage.of_started {wanted : TopicPartition → BatchSettings → Prop}
    (nothing : ∀ q, ¬ forgets q) (grown : Grown wanted c d) (started : Started c d) :
    Passage forgets c d where
  worker i w hw := ⟨w, grown.worker hw, rfl⟩
  registered q i hi := by
    obtain ⟨added, heq, fresh⟩ := grown.registry
    rw [heq] at hi
    rcases List.mem_append.mp hi with old | new
    · exact .inl old
    · obtain ⟨settings, -, hw⟩ := fresh q i new
      exact .inr ⟨_, hw, rfl⟩
  found := started.found
  removed j e he := .inl ⟨e, started.removals ▸ he⟩
  retained q present _ := by
    rw [(started.kept q present).2]
    exact .refl _
  forgotten q h := absurd h (nothing q)

/-- Taking workers out of the registry forgets nothing. -/
theorem Passage.removeOthers (passage : Passage forgets c d) (lineage : d.Lineage)
    (ps : List TopicPartition) : Passage forgets c (d.removeOthers ps).1 := by
  obtain ⟨shrunk, -⟩ := shrunk_removeOthers (c := d) ps
  obtain ⟨removals, gone⟩ := foldl_remove (d.registry.filter fun entry => !ps.contains entry.1)
    { d with remembered := d.remembered.filter fun task => !d.removalIsOver task }
  have workers : ∀ i : Nat, (d.removeOthers ps).1.workers[i]? = d.workers[i]? :=
    fun i => congrArg (·[i]?) shrunk.workers
  have state : ∀ q, (d.removeOthers ps).1.manager.state q = d.manager.state q :=
    fun q => congrArg (·.state q) shrunk.manager
  refine ⟨fun i w hw => ?_, fun q i hi => ?_, fun q i hi => ?_, fun j e he => ?_,
    fun q present kept => ?_, fun q h => ?_⟩
  · rw [workers]
    exact passage.worker i w hw
  · rw [workers]
    exact passage.registered q i (shrunk.registry q i hi)
  · rw [state]
    exact passage.found q i (shrunk.found q i hi)
  · rw [workers]
    rcases removals j e he with old | ⟨q, mem⟩
    · refine (passage.removed j e old).imp_right fun ⟨w, hw, lacking⟩ => ⟨w, hw, ?_⟩
      exact gone w.partition (.inr lacking)
    · obtain ⟨w, hw, rfl⟩ := lineage.registered q j (List.mem_filter.mp mem).1
      exact .inr ⟨w, hw, gone w.partition (.inl ⟨j, mem⟩)⟩
  · rw [state]
    exact passage.retained q present kept
  · rw [state]
    exact passage.forgotten q h

/-- An assignment starts workers for partitions that had none, and removes others. -/
theorem Lineage.passage_assign (lineage : c.Lineage) (env : Surroundings)
    (profile : ConsumerProfile) (ps : List TopicPartition) (nothing : ∀ q, ¬ forgets q) :
    Passage forgets c (c.assign env profile true ps).1 := by
  rw [assign]
  split
  · exact .aside nothing rfl rfl rfl rfl
  · simp only [Bool.not_true, Bool.and_false, Bool.false_eq_true, if_false]
    have started := started_addWorkers env profile.routing ps c
    have grown := (grown_addWorkers env c profile.routing ps
      fun q _ settings (_ : profile.routing q.topic = some settings) => trivial).1
    generalize addWorkers env profile.routing ps c = added at started grown
    obtain ⟨d, events, crash⟩ := added
    have passage : Passage forgets c d := .of_started nothing grown started
    cases crash with
    | some text => exact passage
    | none => exact passage.removeOthers (lineage.passage passage) ps

end Consumer

end TopicConsumer
