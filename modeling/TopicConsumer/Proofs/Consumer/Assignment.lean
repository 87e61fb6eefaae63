import TopicConsumer.Consumer.Assignment
import TopicConsumer.Proofs.Worker.Feed

/-!
# What an assignment changes

An assignment starts workers and takes others out of the registry. It never changes a worker that is
there already, and it changes neither the pause of a partition nor its position. A worker that was
taken out stays among the workers, since it still has to be closed.
-/

namespace TopicConsumer

/-- No call of the broker is among the events. -/
def ConsumerEvent.Quiet (events : List ConsumerEvent) : Prop :=
  ∀ call answered, .work (.call call answered) ∉ events

namespace ConsumerEvent.Quiet

variable {events more : List ConsumerEvent}

theorem nil : Quiet [] := by simp [Quiet]

theorem line (l : LogLine) : Quiet [.log l] := by
  intro call answered mem
  cases List.mem_singleton.mp mem

theorem append (h : Quiet events) (hm : Quiet more) : Quiet (events ++ more) := by
  intro call answered mem
  rcases List.mem_append.mp mem with mem | mem
  · exact h call answered mem
  · exact hm call answered mem

theorem map_log {α : Type} (f : α → LogLine) (l : List α) :
    Quiet (l.map fun a => ConsumerEvent.log (f a)) := by
  intro call answered mem
  obtain ⟨a, -, h⟩ := List.mem_map.mp mem
  cases h

end ConsumerEvent.Quiet

namespace Consumer

variable {wanted : TopicPartition → BatchSettings → Prop}

/-- The consumer has got workers that have just been started, and some of them are registered, as is
wanted. -/
structure Grown (wanted : TopicPartition → BatchSettings → Prop) (c d : Consumer) : Prop where
  loop : d.loop = c.loop
  disposed : d.disposed = c.disposed
  state : ∀ q, (d.manager.state q).pausedAt = (c.manager.state q).pausedAt ∧
    (d.manager.state q).committed = (c.manager.state q).committed
  workers : ∃ added, d.workers = c.workers ++ added ∧
    ∀ w ∈ added, ∃ q settings, w = .fresh q settings ∨ w = (Worker.fresh q settings).closeIntake
  registry : ∃ added, d.registry = c.registry ++ added ∧ ∀ q i, (q, i) ∈ added →
    ∃ settings, wanted q settings ∧ d.workers[i]? = some (.fresh q settings)

namespace Grown

theorem refl (c : Consumer) : Grown wanted c c where
  loop := rfl
  disposed := rfl
  state _ := ⟨rfl, rfl⟩
  workers := ⟨[], by simp, by simp⟩
  registry := ⟨[], by simp, by simp⟩

variable {c d e : Consumer}

/-- A worker that is there stays as it is. -/
theorem worker (h : Grown wanted c d) {i : Nat} {w : Worker} (hw : c.workers[i]? = some w) :
    d.workers[i]? = some w := by
  obtain ⟨added, heq, -⟩ := h.workers
  rw [heq, List.getElem?_append_left (List.getElem?_eq_some_iff.mp hw).1]
  exact hw

/-- A partition keeps its worker. -/
theorem workerOf? (h : Grown wanted c d) {q : TopicPartition}
    (hq : (c.workerOf? q).isSome = true) : (d.workerOf? q).isSome = true := by
  obtain ⟨added, heq, -⟩ := h.registry
  rw [Consumer.workerOf?, heq, List.lookup_append, Option.isSome_or, Bool.or_eq_true]
  exact .inl hq

theorem trans (h : Grown wanted c d) (k : Grown wanted d e) : Grown wanted c e where
  loop := k.loop.trans h.loop
  disposed := k.disposed.trans h.disposed
  state q := ⟨(k.state q).1.trans (h.state q).1, (k.state q).2.trans (h.state q).2⟩
  workers := by
    obtain ⟨first, hfirst, freshFirst⟩ := h.workers
    obtain ⟨second, hsecond, freshSecond⟩ := k.workers
    refine ⟨first ++ second, by rw [hsecond, hfirst, List.append_assoc], fun w hw => ?_⟩
    rcases List.mem_append.mp hw with hw | hw
    · exact freshFirst w hw
    · exact freshSecond w hw
  registry := by
    obtain ⟨first, hfirst, startedFirst⟩ := h.registry
    obtain ⟨second, hsecond, startedSecond⟩ := k.registry
    refine ⟨first ++ second, by rw [hsecond, hfirst, List.append_assoc], fun q i hi => ?_⟩
    rcases List.mem_append.mp hi with hi | hi
    · obtain ⟨settings, routed, hw⟩ := startedFirst q i hi
      exact ⟨settings, routed, k.worker hw⟩
    · exact startedSecond q i hi

end Grown

variable {env : Surroundings} {c : Consumer}

theorem grown_spawn (env : Surroundings) (c : Consumer) {p : TopicPartition}
    {settings : BatchSettings} (asked : wanted p settings) :
    Grown wanted c (spawn env p settings c).1 ∧
      ConsumerEvent.Quiet (spawn env p settings c).2.1 ∧
        ((spawn env p settings c).2.2 = none →
          ((spawn env p settings c).1.workerOf? p).isSome = true) := by
  have state := Station.spawn_state env c.manager p settings
  have worker := Station.spawn_worker env c.manager p settings
  have calls := Station.call_notMem_spawn env c.manager p settings
  have quiet : ConsumerEvent.Quiet ((Station.spawn env c.manager p settings).2.1.map .work) := by
    intro call answered mem
    exact calls call answered (by simpa using mem)
  have last : ∀ w : Worker, (c.workers ++ [w])[c.workers.length]? = some w := by simp
  simp only [spawn]
  split
  · next crashed =>
    refine ⟨⟨rfl, rfl, state, ⟨[], by simp, by simp⟩, ⟨[], by simp, by simp⟩⟩, quiet,
      fun none => ?_⟩
    rw [none] at crashed
    cases crashed
  · split
    · refine ⟨⟨rfl, rfl, state, ⟨_, rfl, ?_⟩, ⟨_, rfl, ?_⟩⟩, quiet, fun _ => ?_⟩
      · intro w hw
        exact ⟨p, settings, .inl ((List.mem_singleton.mp hw).trans worker)⟩
      · intro q i hi
        obtain ⟨rfl, rfl⟩ := Prod.mk.inj (List.mem_singleton.mp hi)
        exact ⟨settings, asked, (last _).trans (congrArg some worker)⟩
      · rw [workerOf?, List.lookup_append, List.lookup_cons_self]
        cases c.registry.lookup p <;> rfl
    · refine ⟨⟨rfl, rfl, state, ⟨_, rfl, ?_⟩, ⟨[], by simp, by simp⟩⟩, quiet, by simp⟩
      intro w hw
      rw [List.mem_singleton.mp hw, worker]
      exact ⟨p, settings, .inr rfl⟩

/-- Workers are started up to the first crash. If there is none, every partition has a worker whose
topic belongs to a subscription. -/
theorem grown_addWorkers (env : Surroundings) (c : Consumer)
    (routing : String → Option BatchSettings) (ps : List TopicPartition)
    (asked : ∀ q ∈ ps, ∀ settings, routing q.topic = some settings → wanted q settings) :
    Grown wanted c (addWorkers env routing ps c).1 ∧
      ConsumerEvent.Quiet (addWorkers env routing ps c).2.1 ∧
        ((addWorkers env routing ps c).2.2 = none → ∀ q ∈ ps, ∀ settings,
          routing q.topic = some settings →
            ((addWorkers env routing ps c).1.workerOf? q).isSome = true) := by
  induction ps generalizing c with
  | nil => exact ⟨Grown.refl c, .nil, by simp⟩
  | cons p rest ih =>
    have ih := fun c => ih c fun q hq => asked q (List.mem_cons_of_mem p hq)
    rw [addWorkers]
    split
    · next present =>
      obtain ⟨grown, quiet, all⟩ := ih c
      refine ⟨grown, quiet, fun fine q hq settings routed => ?_⟩
      rcases List.mem_cons.mp hq with rfl | hq
      · exact grown.workerOf? present
      · exact all fine q hq settings routed
    · split
      · next unrouted =>
        obtain ⟨grown, quiet, all⟩ := ih c
        refine ⟨grown, fun call answered mem => ?_, fun fine q hq settings routed => ?_⟩
        · rcases List.mem_cons.mp mem with h | mem
          · cases h
          · exact quiet call answered mem
        · rcases List.mem_cons.mp hq with rfl | hq
          · cases unrouted.symm.trans routed
          · exact all fine q hq settings routed
      · next settings routed =>
        obtain ⟨grown, quiet, present⟩ :=
          grown_spawn env c (asked p List.mem_cons_self settings routed)
        split
        · next spawned =>
          rw [spawned] at grown quiet
          exact ⟨grown, quiet, by simp⟩
        · next d events spawned =>
          rw [spawned] at grown quiet present
          obtain ⟨more, silent, all⟩ := ih d
          refine ⟨grown.trans more, quiet.append silent, fun fine q hq settings routed => ?_⟩
          rcases List.mem_cons.mp hq with rfl | hq
          · exact more.workerOf? (present rfl)
          · exact all fine q hq settings routed

/-! ## Workers that are taken out -/

/-- Some registered workers were taken out of the registry, none of them that of a partition in
`ps`, and nothing else has changed for the workers and the states of the partitions. -/
structure Shrunk (ps : List TopicPartition) (c d : Consumer) : Prop where
  loop : d.loop = c.loop
  disposed : d.disposed = c.disposed
  manager : d.manager = c.manager
  workers : d.workers = c.workers
  registry : ∀ q i, (q, i) ∈ d.registry → (q, i) ∈ c.registry
  found : ∀ q i, d.workerOf? q = some i → c.workerOf? q = some i
  kept : ∀ q ∈ ps, d.workerOf? q = c.workerOf? q

theorem Shrunk.refl (ps : List TopicPartition) (c : Consumer) : Shrunk ps c c :=
  ⟨rfl, rfl, rfl, rfl, fun _ _ => id, fun _ _ => id, fun _ _ => rfl⟩

theorem Shrunk.trans {ps : List TopicPartition} {c d e : Consumer} (h : Shrunk ps c d)
    (k : Shrunk ps d e) : Shrunk ps c e where
  loop := k.loop.trans h.loop
  disposed := k.disposed.trans h.disposed
  manager := k.manager.trans h.manager
  workers := k.workers.trans h.workers
  registry q i hi := h.registry q i (k.registry q i hi)
  found q i hi := h.found q i (k.found q i hi)
  kept q hq := (k.kept q hq).trans (h.kept q hq)

theorem shrunk_remove {ps : List TopicPartition} {p : TopicPartition} (hp : p ∉ ps) (worker : Nat) :
    Shrunk ps c (c.remove p worker) where
  loop := rfl
  disposed := rfl
  manager := rfl
  workers := rfl
  registry _ _ hi := (List.mem_filter.mp hi).1
  found q i hi := by
    by_cases hq : q = p
    · have mem : (q, i) ∈ c.registry.filter (·.1 ≠ p) := mem_of_lookup hi
      simp [hq] at mem
    · exact (lookup_filter_ne hq _).symm.trans hi
  kept q hq := by
    refine lookup_filter_ne ?_ _
    rintro rfl
    exact hp hq

theorem shrunk_removeOthers (ps : List TopicPartition) :
    Shrunk ps c (removeOthers ps c).1 ∧ ConsumerEvent.Quiet (removeOthers ps c).2 := by
  refine ⟨?_, ConsumerEvent.Quiet.map_log _ _⟩
  have fold : ∀ (others : List (TopicPartition × Nat)) (d : Consumer),
      (∀ other ∈ others, other.1 ∉ ps) → Shrunk ps c d →
        Shrunk ps c (others.foldl (fun d other => d.remove other.1 other.2) d) := by
    intro others
    induction others with
    | nil => exact fun _ _ h => h
    | cons other others ih =>
      intro d out h
      exact ih _ (fun o ho => out o (List.mem_cons_of_mem _ ho))
        (h.trans (shrunk_remove (out other List.mem_cons_self) other.2))
  refine fold _ _ (fun other ho => ?_)
    ⟨rfl, rfl, rfl, rfl, fun _ _ => id, fun _ _ => id, fun _ _ => rfl⟩
  simpa using (List.mem_filter.mp ho).2

/-! ## An assignment -/

/-- The consumer has been told its partitions: some workers were started, and then some were taken
out. -/
structure Reassigned (wanted : TopicPartition → BatchSettings → Prop) (c d : Consumer) : Prop where
  loop : d.loop = c.loop
  disposed : d.disposed = c.disposed
  state : ∀ q, (d.manager.state q).pausedAt = (c.manager.state q).pausedAt ∧
    (d.manager.state q).committed = (c.manager.state q).committed
  /-- A worker was there before or has just been started. -/
  workers : ∀ w ∈ d.workers, w ∈ c.workers ∨
    ∃ q settings, w = .fresh q settings ∨ w = (Worker.fresh q settings).closeIntake
  /-- A worker that was there is there still. -/
  worker : ∀ (i : Nat) (w : Worker), c.workers[i]? = some w → d.workers[i]? = some w
  registry : ∀ q i, (q, i) ∈ d.registry → (q, i) ∈ c.registry ∨
    ∃ settings, d.workers[i]? = some (.fresh q settings)
  /-- A partition has the worker that it had, or it had none and has one that has just been started.
  -/
  found : ∀ q i, d.workerOf? q = some i → c.workerOf? q = some i ∨ c.workerOf? q = none ∧
    ∃ settings, wanted q settings ∧ d.workers[i]? = some (.fresh q settings)

theorem Grown.reassigned {ps : List TopicPartition} {c d e : Consumer} (h : Grown wanted c d)
    (k : Shrunk ps d e) : Reassigned wanted c e where
  loop := k.loop.trans h.loop
  disposed := k.disposed.trans h.disposed
  state q := by
    rw [k.manager]
    exact h.state q
  workers w hw := by
    obtain ⟨added, heq, fresh⟩ := h.workers
    rw [k.workers, heq] at hw
    rcases List.mem_append.mp hw with hw | hw
    · exact .inl hw
    · exact .inr (fresh w hw)
  worker i w hw := by
    rw [k.workers]
    exact h.worker hw
  registry q i hi := by
    obtain ⟨added, heq, started⟩ := h.registry
    have hi := k.registry q i hi
    rw [k.workers]
    rw [heq] at hi
    rcases List.mem_append.mp hi with hi | hi
    · exact .inl hi
    · obtain ⟨settings, -, hw⟩ := started q i hi
      exact .inr ⟨settings, hw⟩
  found q i hi := by
    obtain ⟨added, heq, started⟩ := h.registry
    have hi := k.found q i hi
    rw [k.workers]
    rw [Consumer.workerOf?, heq, List.lookup_append, Option.or_eq_some_iff] at hi
    rcases hi with hi | ⟨none, hi⟩
    · exact .inl hi
    · exact .inr ⟨none, started q i (mem_of_lookup hi)⟩

/-- An assignment calls no broker. If it does not crash, each partition in it has a worker
afterwards whose topic belongs to a subscription; a consumer whose shutdown has begun does nothing.
-/
theorem reassigned_assign (env : Surroundings) (c : Consumer) (profile : ConsumerProfile)
    (ps : List TopicPartition) :
    Reassigned (fun q settings => q ∈ ps ∧ profile.routing q.topic = some settings) c
        (c.assign env profile true ps).1 ∧
      ConsumerEvent.Quiet (c.assign env profile true ps).2.1 ∧
        (c.disposed = true → (c.assign env profile true ps).1 = c) ∧
          (c.disposed = false → (c.assign env profile true ps).2.2 = none → ∀ q ∈ ps, ∀ settings,
            profile.routing q.topic = some settings →
              ((c.assign env profile true ps).1.workerOf? q).isSome = true) := by
  rw [assign]
  split
  · next disposed =>
    exact ⟨(Grown.refl c).reassigned (.refl ps c), .line _, fun _ => rfl,
      fun live => absurd (live.symm.trans disposed) Bool.false_ne_true⟩
  · next live =>
    simp only [Bool.not_true, Bool.and_false, Bool.false_eq_true, if_false]
    obtain ⟨grown, quiet, all⟩ := grown_addWorkers env c profile.routing ps
      fun q hq settings routed => And.intro hq routed
    split
    · next added =>
      rw [added] at grown quiet
      exact ⟨grown.reassigned (.refl ps _), quiet, fun disposed => absurd disposed live, by simp⟩
    · next d events added =>
      rw [added] at grown quiet all
      obtain ⟨shrunk, silent⟩ := shrunk_removeOthers (c := d) ps
      refine ⟨grown.reassigned shrunk, (quiet.append silent).append (.line _),
        fun disposed => absurd disposed live, fun _ _ q hq settings routed => ?_⟩
      rw [shrunk.kept q hq]
      exact all rfl q hq settings routed

/-! ## A revocation -/

/-- Committing a partition changes the state of none. -/
theorem state_set_commit (m : Manager) (p q : TopicPartition) :
    (m.set p (m.effect p env.answers .commit).state).state q = m.state q := by
  by_cases hq : q = p
  · subst hq
    rw [Manager.state_set_self]
    exact PartitionState.commit_state q _
  · exact Manager.state_set_of_ne m hq _

/-- A revocation commits positions that are cached and leaves everything else as it is. -/
theorem revoke_spec (env : Surroundings) (c : Consumer) (ps : List TopicPartition) :
    ∃ m : Manager, (revoke env ps c).1 = { c with manager := m } ∧
      (∀ q, m.state q = c.manager.state q) ∧
        ∀ call answered, .work (.call call answered) ∈ (revoke env ps c).2.1 →
          ∃ q n, call = .commit ⟨q, n⟩ ∧ (c.manager.state q).committed = some n := by
  induction ps generalizing c with
  | nil => exact ⟨c.manager, rfl, fun _ => rfl, fun call answered h => by simp [revoke] at h⟩
  | cons p rest ih =>
    have calls : ∀ call answered,
        .work (.call call answered) ∈ (Event.operation p .commit ::
          (c.manager.effect p env.answers .commit).calls.map (fun c => Event.call c.1 c.2) ++
            (c.manager.effect p env.answers .commit).logs.map Event.log).map ConsumerEvent.work →
          ∃ q n, call = .commit ⟨q, n⟩ ∧ (c.manager.state q).committed = some n := by
      intro call answered mem
      have mem : (call, answered) ∈ (c.manager.effect p env.answers .commit).calls := by
        simpa using mem
      obtain ⟨n, hn, hcall⟩ := PartitionState.mem_commit_calls p _ mem
      exact ⟨p, n, hcall, hn⟩
    rw [revoke]
    split
    · exact ih c
    · simp only []
      split
      · exact ⟨_, rfl, state_set_commit c.manager p, calls⟩
      · obtain ⟨m, heq, state, more⟩ := ih { c with
          manager := c.manager.set p (c.manager.effect p env.answers .commit).state }
        refine ⟨m, heq, fun q => (state q).trans (state_set_commit c.manager p q), ?_⟩
        intro call answered mem
        rcases List.mem_append.mp mem with mem | mem
        · exact calls call answered mem
        · obtain ⟨q, n, hcall, hn⟩ := more call answered mem
          rw [state_set_commit] at hn
          exact ⟨q, n, hcall, hn⟩

end Consumer

end TopicConsumer
