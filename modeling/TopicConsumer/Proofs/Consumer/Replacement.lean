import TopicConsumer.Proofs.Consumer.Standing
import TopicConsumer.Proofs.Consumer.Validation
import TopicConsumer.Proofs.Worker.Worksite

/-!
# One assignment replaces the other

An assignment lists the partitions that a consumer is to have. `Consumer.Replaced` says what it
comes to: the listed partitions whose topic somebody subscribes to have a worker, those of them that
had one have kept it, and every other worker has been handed over to be closed.
`Consumer.Accounted` says that no worker is lost, and none handed over twice. `Office.run_replaces`
says that an assignment comes to this after whatever was asked of the consumer before, provided that
the capacities can be counted that it needs, and where it crashes otherwise.
-/

namespace TopicConsumer

/-- A station is set up for a worker if the clock shows something. -/
theorem Station.crash_spawn {env : Surroundings} (m : Manager) (p : TopicPartition)
    (settings : BatchSettings) {now : Timestamp} (clock : env.reading = .shown now) :
    (Station.spawn env m p settings).2.2 = none := by
  have crash : Station.crashing? env p (.assign env.reading) ⟨m, .fresh p settings⟩ = none := by
    rw [clock]
    rfl
  simp only [Station.spawn, Station.operate_eq, crash]

namespace Consumer

/-! ## Starting workers -/

section Starting

variable {routing : String → Option BatchSettings} {p : TopicPartition} {ps : List TopicPartition}
  {c d e : Consumer} {env : Surroundings} {now : Timestamp} {crash : Option String}

/-- The partition is to get a worker with more capacity than can be counted. -/
def overburdens (routing : String → Option BatchSettings) (c : Consumer) (p : TopicPartition) :
    Bool :=
  (c.workerOf? p).isNone && (routing p.topic).any fun settings => !canSpawn settings

/-- The partitions before the first one that is to get too much capacity. -/
def reached (routing : String → Option BatchSettings) (c : Consumer) (ps : List TopicPartition) :
    List TopicPartition :=
  ps.takeWhile fun p => !c.overburdens routing p

theorem reached_cons (able : c.overburdens routing p = false) :
    c.reached routing (p :: ps) = p :: c.reached routing ps :=
  List.takeWhile_cons_of_pos (by rw [able]; rfl)

theorem reached_cons_of_overburdens (heavy : c.overburdens routing p = true) :
    c.reached routing (p :: ps) = [] :=
  List.takeWhile_cons_of_neg (by rw [heavy]; exact Bool.false_ne_true)

theorem overburdens_eq_false
    (able : ∀ settings, routing p.topic = some settings → canSpawn settings = true) :
    c.overburdens routing p = false := by
  cases routed : routing p.topic with
  | none => simp [overburdens, routed]
  | some settings => simp [overburdens, routed, able settings routed]

/-- Workers were started up to the first one with too much capacity, where it ended in a crash. -/
structure Hired (routing : String → Option BatchSettings) (ps : List TopicPartition)
    (c d : Consumer) (crash : Option String) : Prop where
  crashes : crash = (ps.find? (c.overburdens routing)).map fun _ => Executor.tooManyPermits
  found : ∀ q, (d.workerOf? q).isSome = true ↔ (c.workerOf? q).isSome = true ∨
    q ∈ c.reached routing ps ∧ (routing q.topic).isSome = true

theorem Hired.cons (able : c.overburdens routing p = false)
    (first : ∀ q, (d.workerOf? q).isSome = true ↔
      (c.workerOf? q).isSome = true ∨ q = p ∧ (routing q.topic).isSome = true)
    (rest : Hired routing ps d e crash) : Hired routing (p :: ps) c e crash := by
  -- if the first one was started, it has not got too much
  have same : d.overburdens routing = c.overburdens routing := by
    funext q
    cases heavy : (routing q.topic).any fun settings => !canSpawn settings with
    | false => simp [overburdens, heavy]
    | true =>
      have before : q = p → (c.workerOf? q).isSome = true := by
        rintro rfl
        simpa [overburdens, heavy] using able
      have equal : (d.workerOf? q).isSome = (c.workerOf? q).isSome := by
        rw [Bool.eq_iff_iff, first, or_iff_left_of_imp fun h => before h.1]
      simp only [overburdens, ← Option.not_isSome, equal]
  constructor
  case crashes => rw [rest.crashes, same, List.find?_cons_of_neg (by simp [able])]
  case found =>
    intro q
    have later : d.reached routing ps = c.reached routing ps := by rw [reached, same, reached]
    rw [rest.found, first, later, reached_cons able, List.mem_cons, or_and_right, or_assoc]

/-- A worker starts if its capacity can be counted, when the clock shows something. -/
theorem spawn_spec (p : TopicPartition) (settings : BatchSettings) (c : Consumer)
    (clock : env.reading = .shown now) :
    (spawn env p settings c).2.2 =
        (if canSpawn settings then none else some Executor.tooManyPermits) ∧
      ∀ q, ((spawn env p settings c).1.workerOf? q).isSome = true ↔
        (c.workerOf? q).isSome = true ∨ q = p ∧ canSpawn settings = true := by
  have fine := Station.crash_spawn c.manager p settings clock
  cases able : canSpawn settings <;> simp [spawn, fine, able, workerOf?]

theorem hired_addWorkers (routing : String → Option BatchSettings) (ps : List TopicPartition)
    (c : Consumer) (clock : env.reading = .shown now) :
    Hired routing ps c (addWorkers env routing ps c).1 (addWorkers env routing ps c).2.2 := by
  induction ps generalizing c with
  | nil => exact ⟨rfl, by simp [addWorkers, reached]⟩
  | cons p rest ih =>
    rw [addWorkers]
    split
    · next present =>
      refine .cons ?_ (fun q => ?_) (ih c)
      · simp [overburdens, Option.isNone_eq_false_iff.mpr present]
      · refine (or_iff_left_of_imp ?_).symm
        rintro ⟨rfl, -⟩
        exact present
    · next lacking =>
      rw [Option.not_isSome_iff_eq_none] at lacking
      split
      · next unrouted =>
        refine .cons (by simp [overburdens, unrouted]) (fun q => ?_) (ih c)
        refine (or_iff_left_of_imp ?_).symm
        rintro ⟨rfl, routed⟩
        simp [unrouted] at routed
      · next settings routed =>
        obtain ⟨crash, found⟩ := spawn_spec p settings c clock
        split
        · next text spawned =>
          -- the first one is started in vain
          rw [spawned] at crash found
          obtain ⟨heavy, rfl⟩ : canSpawn settings = false ∧ text = Executor.tooManyPermits := by
            simpa using crash
          have first : c.overburdens routing p = true := by
            simp [overburdens, lacking, routed, heavy]
          constructor
          · rw [List.find?_cons_of_pos first]
            rfl
          · simp [found, heavy, reached_cons_of_overburdens first]
        · next d events spawned =>
          rw [spawned] at crash found
          have able : canSpawn settings = true := by simpa using crash
          refine .cons (by simp [overburdens, routed, able]) (fun q => ?_) (ih d)
          rw [found]
          refine or_congr_right (and_congr_right ?_)
          rintro rfl
          simp [able, routed]

/-- If all capacities can be counted, every worker starts. -/
theorem Hired.eq_none (hired : Hired routing ps c d crash)
    (able : ∀ q ∈ ps, ∀ settings, routing q.topic = some settings → canSpawn settings = true) :
    crash = none := by
  rw [hired.crashes, List.find?_eq_none.mpr fun q hq => by simp [overburdens_eq_false (able q hq)]]
  rfl

end Starting

theorem crash_addWorkers (env : Surroundings) (routing : String → Option BatchSettings)
    (ps : List TopicPartition) (c : Consumer) {now : Timestamp} (clock : env.reading = .shown now)
    (able : ∀ q ∈ ps, ∀ settings, routing q.topic = some settings → canSpawn settings = true) :
    (addWorkers env routing ps c).2.2 = none :=
  (hired_addWorkers routing ps c clock).eq_none able

/-! ## What an assignment comes to -/

variable {A : Dialogue}

/-- Every worker that somebody got hold of is registered, or it has been handed over to be closed,
and this once. -/
structure Accounted (c : Consumer) : Prop where
  either : ∀ (i : Nat) w, c.workers[i]? = some w → canSpawn w.settings = true →
    ((∃ q, (q, i) ∈ c.registry) ∧ (c.removals.map Prod.fst).count i = 0) ∨
      (∀ q, (q, i) ∉ c.registry) ∧ (c.removals.map Prod.fst).count i = 1

/-- The consumer has been told that it is to have the partitions `ps`. -/
structure Replaced (settings : ConsumerSettings A) (ps : List TopicPartition) (c d : Consumer) :
    Prop where
  /-- The registered partitions are the listed ones whose topic belongs to a subscription, each of
  them once. -/
  keys : ∀ q, q ∈ d.registry.map Prod.fst ↔
    q ∈ ps ∧ ∃ s ∈ settings.subscriptions, q.topic ∈ s.topics
  nodup : (d.registry.map Prod.fst).Nodup
  /-- The worker of a partition is made for it, and batches as the one subscription says that lists
  its topic. It has not begun to be closed. -/
  built : ∀ q i, (q, i) ∈ d.registry → ∃ w, d.workers[i]? = some w ∧ w.partition = q ∧
    w.status = .active ∧ ∃ s ∈ settings.subscriptions, q.topic ∈ s.topics ∧
      w.settings = s.batching ∧ ∀ u ∈ settings.subscriptions, q.topic ∈ u.topics → u = s
  /-- A partition that is listed again keeps its worker, which is left as it is. -/
  kept : ∀ q i, (q, i) ∈ c.registry → q ∈ ps →
    (q, i) ∈ d.registry ∧ d.workers[i]? = c.workers[i]?
  /-- The worker of any other partition is handed over to a task of its own. -/
  removed : ∀ q i, (q, i) ∈ c.registry → q ∉ ps → (d.removals.map Prod.fst).count i = 1 ∧
    (i, .claiming) ∈ d.removals ∧ i ∉ c.removals.map Prod.fst

variable {c : Consumer} {routing : String → Option BatchSettings}

theorem Housed.accounted (h : Housed routing c c.removals) : Accounted c where
  either i w worker able := by
    have employed : c.Employs i := ⟨w.badge, by rw [badges_getElem?, worker]; rfl, able⟩
    obtain ⟨-, once, apart⟩ := List.nodup_append.mp h.once
    rcases List.mem_append.mp ((h.employed i).mp employed) with here | gone
    · obtain ⟨⟨q, j⟩, mem, rfl⟩ := List.mem_map.mp here
      refine .inl ⟨⟨q, mem⟩, List.count_eq_zero.mpr fun gone => ?_⟩
      exact apart j here j gone rfl
    · refine .inr ⟨fun q mem => ?_, List.count_eq_one_of_mem once gone⟩
      exact apart i (List.mem_map.mpr ⟨(q, i), mem, rfl⟩) i gone rfl

/-- An assignment crashes where it starts workers, or starts them all and then removes others. -/
theorem assign_spec (env : Surroundings) (profile : ConsumerProfile) {inRuntime : Bool}
    (ps : List TopicPartition) (live : c.disposed = false)
    (able : (c.hasRuntime || inRuntime) = true) :
    (c.assign env profile inRuntime ps).2.2 = (addWorkers env profile.routing ps c).2.2 ∧
      (c.assign env profile inRuntime ps).1 =
        if (addWorkers env profile.routing ps c).2.2 = none then
          (removeOthers ps (addWorkers env profile.routing ps c).1).1
        else (addWorkers env profile.routing ps c).1 := by
  have awake : (!c.hasRuntime && !inRuntime) = false := by
    rw [← Bool.not_or, able]
    rfl
  simp only [assign, live, awake, Bool.false_eq_true, if_false]
  split
  · next started =>
    rw [started]
    exact ⟨rfl, by simp⟩
  · next started =>
    rw [started]
    exact ⟨rfl, by simp⟩

theorem mem_registry_removeOthers {ps : List TopicPartition} {q : TopicPartition} {i : Nat} :
    (q, i) ∈ (removeOthers ps c).1.registry ↔ (q, i) ∈ c.registry ∧ q ∈ ps := by
  rw [removeOthers_eq, List.mem_filter, List.contains_iff_mem]

theorem mem_removals_removeOthers {ps : List TopicPartition} {q : TopicPartition} {i : Nat}
    (registered : (q, i) ∈ c.registry) (unlisted : q ∉ ps) :
    (i, .claiming) ∈ (removeOthers ps c).1.removals := by
  rw [removeOthers_eq]
  have gone : (q, i) ∈ c.registry.filter fun entry => !ps.contains entry.1 :=
    List.mem_filter.mpr ⟨registered, by simpa using unlisted⟩
  exact List.mem_append_right _ (List.mem_map.mpr ⟨(q, i), gone, rfl⟩)

/-- A consumer that is not shut down and knows where to run tasks is left with the listed
partitions. -/
theorem replaced_assign {settings : ConsumerSettings A} (valid : settings.validate = .ok ())
    {hasHook : Bool} (housed : Housed (settings.profile hasHook).routing c c.removals)
    (env : Surroundings) {inRuntime : Bool} (ps : List TopicPartition) (live : c.disposed = false)
    (able : (c.hasRuntime || inRuntime) = true)
    (fine : (c.assign env (settings.profile hasHook) inRuntime ps).2.2 = none) :
    Replaced settings ps c (c.assign env (settings.profile hasHook) inRuntime ps).1 := by
  rw [← List.append_nil c.removals] at housed
  have after := housed.assign env inRuntime ps
  rw [List.append_nil] at after housed
  obtain ⟨crash, same⟩ := assign_spec env (settings.profile hasHook) ps live able
  rw [if_pos (crash.symm.trans fine)] at same
  obtain ⟨grown, -, all⟩ := grown_addWorkers env c (settings.profile hasHook).routing ps
    fun q hq settings routed => And.intro hq routed
  have present := all (crash.symm.trans fine)
  rw [same] at after ⊢
  generalize (addWorkers env (settings.profile hasHook).routing ps c).1 = d at *
  obtain ⟨added, registry, -⟩ := grown.registry
  have old : ∀ {q : TopicPartition} {i : Nat}, (q, i) ∈ c.registry → (q, i) ∈ d.registry := by
    intro q i mem
    rw [registry]
    exact List.mem_append_left added mem
  have workers : (removeOthers ps d).1.workers = d.workers := by rw [removeOthers_eq]
  constructor
  case keys =>
    intro q
    rw [List.mem_map]
    constructor
    · rintro ⟨⟨q, i⟩, mem, rfl⟩
      obtain ⟨b, routed, -⟩ := after.registered q i mem
      obtain ⟨s, hs, listed, -⟩ := (ConsumerSettings.routing_eq_some_iff valid hasHook).mp routed
      exact ⟨(mem_registry_removeOthers.mp mem).2, s, hs, listed⟩
    · rintro ⟨wanted, s, hs, listed⟩
      have routed := (ConsumerSettings.routing_eq_some_iff valid hasHook).mpr ⟨s, hs, listed, rfl⟩
      obtain ⟨i, found⟩ := Option.isSome_iff_exists.mp (present q wanted _ routed)
      exact ⟨(q, i), mem_registry_removeOthers.mpr ⟨mem_of_lookup found, wanted⟩, rfl⟩
  case nodup => exact after.keys
  case built =>
    intro q i mem
    obtain ⟨b, routed, badge⟩ := after.registered q i mem
    rw [badges_getElem?] at badge
    obtain ⟨w, worker, same⟩ := Option.map_eq_some_iff.mp badge
    obtain ⟨s, hs, listed, rfl⟩ := (ConsumerSettings.routing_eq_some_iff valid hasHook).mp routed
    obtain ⟨partition, batched, status⟩ := Badge.mk.inj same
    exact ⟨w, worker, partition, status, s, hs, listed, batched, fun u hu again =>
      ConsumerSettings.eq_of_mem_topics valid hu hs again listed⟩
  case kept =>
    intro q i mem wanted
    obtain ⟨b, -, badge⟩ := housed.registered q i mem
    rw [badges_getElem?] at badge
    obtain ⟨w, worker, -⟩ := Option.map_eq_some_iff.mp badge
    refine ⟨mem_registry_removeOthers.mpr ⟨old mem, wanted⟩, ?_⟩
    rw [workers, worker]
    exact grown.worker worker
  case removed =>
    intro q i mem unlisted
    have handed := mem_removals_removeOthers (old mem) unlisted
    refine ⟨?_, handed, fun earlier => ?_⟩
    · exact List.count_eq_one_of_mem (List.nodup_append.mp after.once).2.1
        (List.mem_map.mpr ⟨(i, .claiming), handed, rfl⟩)
    · have registered := List.mem_map_of_mem (f := Prod.snd) mem
      exact (List.nodup_append.mp housed.once).2.2 i registered i earlier rfl

end Consumer

/-! ## Any number of assignments -/

namespace Office

variable {A : Dialogue}

/-- What an assignment of `ps` does to a consumer that is not shut down and knows where to run
tasks, whatever has been asked of it before. -/
structure Replaces (settings : ConsumerSettings A) (hasHook : Bool) (env : Surroundings)
    (inRuntime : Bool) (ps : List TopicPartition) (history : List Entry) (o : Office) : Prop where
  /-- The assignment can be made, and others after it. -/
  goesOn : ∃ more, Run (settings.profile hasHook) new (history ++ more)
    { o with consumer := (o.consumer.assign env (settings.profile hasHook) inRuntime ps).1 }
  /-- It crashes just if a listed partition that has no worker is to get more capacity than can be
  counted. -/
  crashes : ∀ now, env.reading = .shown now →
    (o.consumer.assign env (settings.profile hasHook) inRuntime ps).2.2 =
      (ps.find? (o.consumer.overburdens (settings.profile hasHook).routing)).map
        fun _ => Executor.tooManyPermits
  /-- If the capacities of the subscriptions can be counted that the listed partitions belong to, it
  does not crash and comes to what it should. -/
  replaced : ∀ now, env.reading = .shown now →
    (∀ s ∈ settings.subscriptions, (∃ q ∈ ps, q.topic ∈ s.topics) →
      Consumer.canSpawn s.batching = true) →
    (o.consumer.assign env (settings.profile hasHook) inRuntime ps).2.2 = none ∧
      Consumer.Replaced settings ps o.consumer
        (o.consumer.assign env (settings.profile hasHook) inRuntime ps).1
  accounted : (o.consumer.assign env (settings.profile hasHook) inRuntime ps).1.Accounted
  /-- Partitions that are about to be taken away stay registered. -/
  revoked : ∀ env qs, (o.consumer.revoke env qs).1.registry = o.consumer.registry

theorem run_replaces {settings : ConsumerSettings A} (valid : settings.validate = .ok ())
    (hasHook : Bool) {history : List Entry} {o : Office}
    (run : Run (settings.profile hasHook) new history o) (live : o.consumer.disposed = false)
    (free : o.rebalance = none) (env : Surroundings) (inRuntime : Bool)
    (able : (o.consumer.hasRuntime || inRuntime) = true) (ps : List TopicPartition) :
    Replaces settings hasHook env inRuntime ps history o := by
  have housed : o.consumer.Housed (settings.profile hasHook).routing
      (o.consumer.removals ++ []) := by
    obtain ⟨-, s, standing⟩ := run.standing
    cases standing with
    | idle live calm housed => exact housed
    | busy claimed => exact absurd (live.symm.trans claimed) Bool.false_ne_true
    | concluded claimed => exact absurd (live.symm.trans claimed) Bool.false_ne_true
  constructor
  case goesOn =>
    -- the lock is free, so that the assignment is begun and carried out at once
    have begun : o.step (settings.profile hasHook) env (.assign inRuntime ps) =
        some ({ o with rebalance := some ps }, []) := by
      have awake : (!o.consumer.hasRuntime && !inRuntime) = false := by
        rw [← Bool.not_or, able]
        rfl
      simp [step, free, live, awake]
    have carried := Consumer.reassign_eq_assign env (settings.profile hasHook) ps live able
    have made : ({ o with rebalance := some ps } : Office).step (settings.profile hasHook) env
        .reassign = some ({ o with
          consumer := (o.consumer.assign env (settings.profile hasHook) inRuntime ps).1 },
          (o.consumer.assign env (settings.profile hasHook) inRuntime ps).2.1) := by
      simp only [step, bind, Option.bind_some, carried, ← free]
    have run := (run.step begun).step made
    rw [List.append_assoc] at run
    exact ⟨_, run⟩
  case crashes =>
    intro now clock
    rw [(Consumer.assign_spec env (settings.profile hasHook) ps live able).1]
    exact (Consumer.hired_addWorkers _ ps o.consumer clock).crashes
  case replaced =>
    intro now clock countable
    have fine : (o.consumer.assign env (settings.profile hasHook) inRuntime ps).2.2 = none := by
      rw [(Consumer.assign_spec env (settings.profile hasHook) ps live able).1]
      refine Consumer.crash_addWorkers env _ ps o.consumer clock fun q wanted b routed => ?_
      obtain ⟨s, hs, listed, rfl⟩ := (ConsumerSettings.routing_eq_some_iff valid hasHook).mp routed
      exact countable s hs ⟨q, wanted, listed⟩
    exact ⟨fine, Consumer.replaced_assign valid (by simpa using housed) env ps live able fine⟩
  case accounted =>
    have after := housed.assign env inRuntime ps
    rw [List.append_nil] at after
    exact after.accounted
  case revoked =>
    intro env qs
    exact (Consumer.alike_revoke env qs o.consumer).1.registry

/-- The consumer has been started and has got a partition of each topic, and one of a topic that
nobody subscribes to. -/
def stocked : List Entry × Office :=
  new.play (shop.profile false)
    [(.calm 0, .start true .done),
      (.calm 0, .assign true [⟨"orders", 0⟩, ⟨"returns", 1⟩, ⟨"stray", 0⟩]), (.calm 0, .reassign)]

/-- It gets another partition of the one topic, listed twice, and none of the other. -/
theorem stocked_replaces :
    Replaces shop false (.calm 0) true [⟨"orders", 0⟩, ⟨"orders", 2⟩, ⟨"orders", 2⟩]
        stocked.1 stocked.2 ∧
      stocked.2.consumer.registry = [(⟨"orders", 0⟩, 0), (⟨"returns", 1⟩, 1)] ∧
      (stocked.2.consumer.assign (.calm 0) (shop.profile false) true
        [⟨"orders", 0⟩, ⟨"orders", 2⟩, ⟨"orders", 2⟩]).1.registry =
          [(⟨"orders", 0⟩, 0), (⟨"orders", 2⟩, 2)] := by
  refine ⟨run_replaces rfl false (run_play (shop.profile false) new _) ?_ ?_ (.calm 0) true ?_ _,
    ?_, ?_⟩
  · decide +kernel
  · decide +kernel
  · decide +kernel
  · decide +kernel
  · decide +kernel

/-- A shop that also keeps a ledger, for which it wants more capacity than can be counted. -/
def ledgered : ConsumerSettings ⟨Empty, fun _ => Unit⟩ :=
  shop.subscribe { topics := ["ledger"], handler := fun _ => .done (.ok ()),
                   batching := { queueCapacity := 2305843009213693952 } }

/-- The capacity is accepted, and the consumer has got a partition of the first topic. The next
assignment names one of the ledger and one of the second topic. It crashes over the ledger, so that
the partition named behind it gets no worker and the one that is not named any more stays
registered. -/
theorem exists_not_replaced :
    ∃ history o, Run (ledgered.profile false) new history o ∧ ledgered.validate = .ok () ∧
      o.consumer.disposed = false ∧ o.rebalance = none ∧ o.consumer.hasRuntime = true ∧
      let d := (o.consumer.assign (.calm 0) (ledgered.profile false) true
        [⟨"ledger", 0⟩, ⟨"returns", 1⟩]).1
      d.workerOf? ⟨"ledger", 0⟩ = none ∧ d.workerOf? ⟨"returns", 1⟩ = none ∧
        d.workerOf? ⟨"orders", 0⟩ = some 0 ∧
        ¬ Consumer.Replaced ledgered [⟨"ledger", 0⟩, ⟨"returns", 1⟩] o.consumer d := by
  have run := run_play (ledgered.profile false) new
    [(.calm 0, .start true .done), (.calm 0, .assign true [⟨"orders", 0⟩]), (.calm 0, .reassign)]
  refine ⟨_, _, run, by decide +kernel, by decide +kernel, by decide +kernel, by decide +kernel,
    by decide +kernel, by decide +kernel, by decide +kernel, fun replaced => ?_⟩
  have stays := (replaced.keys ⟨"orders", 0⟩).mp (by decide +kernel)
  exact absurd stays.1 (by decide)

end Office

end TopicConsumer
