import Mathlib.Data.List.TakeWhile
import TopicConsumer.Proofs.Batch.Parallelism
import TopicConsumer.Proofs.Consumer.Acceptance
import TopicConsumer.Proofs.Consumer.Replacement
import TopicConsumer.Proofs.Worker.Allocation

/-!
# Sizes that are accepted and cannot be had

A configuration accepts every size that is not zero, and an executor every parallelism. Neither asks
how much there can be: a worker cannot be started with more capacity than there can be permits, a
batch cannot be opened that is greater than there can be room for, and no executor handles more
messages side by side than there can be permits. `NamedBatching.load_limited` says what becomes of
accepted sizes on either side of these limits.

In an assignment all partitions suffer from one of them: those listed behind it are left without
workers, however small their own capacities are.
-/

namespace TopicConsumer

namespace Consumer

variable {routing : String → Option BatchSettings} {ps : List TopicPartition} {c d e : Consumer}
  {env : Surroundings} {now : Timestamp} {crash : Option String}

/-! ## Assignments -/

theorem isSome_workerOf?_removeOthers (q : TopicPartition) :
    ((removeOthers ps c).1.workerOf? q).isSome = true ↔
      q ∈ ps ∧ (c.workerOf? q).isSome = true := by
  by_cases listed : q ∈ ps
  · rw [(shrunk_removeOthers ps).1.kept q listed, and_iff_right listed]
  · refine iff_of_false (fun there => ?_) fun h => listed h.1
    obtain ⟨i, there⟩ := Option.isSome_iff_exists.mp there
    exact listed (mem_registry_removeOthers.mp (mem_of_lookup there)).2

/-- An assignment was carried out as far as capacities can be counted. -/
structure Supplied (routing : String → Option BatchSettings) (ps : List TopicPartition)
    (c d : Consumer) (crash : Option String) : Prop where
  /-- It crashes just if one of the listed partitions is to get too much capacity. -/
  crashes : crash = (ps.find? (c.overburdens routing)).map fun _ => Executor.tooManyPermits
  /-- Those before the first such partition get workers, those behind it do not. -/
  listed : ∀ q ∈ ps, (d.workerOf? q).isSome = true ↔ (c.workerOf? q).isSome = true ∨
    q ∈ c.reached routing ps ∧ (routing q.topic).isSome = true
  /-- The workers of other partitions are removed only if there is no such partition. -/
  others : ∀ q ∉ ps, (d.workerOf? q).isSome = true ↔
    (c.workerOf? q).isSome = true ∧ crash.isSome = true
  /-- A partition that had no worker has a new one, which is batched as its topic is. -/
  started : ∀ q i, d.workerOf? q = some i → c.workerOf? q = none →
    ∃ settings, routing q.topic = some settings ∧ d.workers[i]? = some (.fresh q settings)
  /-- If all capacities can be counted, every partition gets a worker that is to have one. -/
  complete : (∀ q ∈ ps, ∀ settings, routing q.topic = some settings → canSpawn settings = true) →
    crash = none ∧ ∀ q ∈ ps, (routing q.topic).isSome = true → (d.workerOf? q).isSome = true

/-- Workers have been started, and if all of them were, those of other partitions were removed. -/
theorem Hired.supplied (hired : Hired routing ps c d crash)
    (found : ∀ q, (e.workerOf? q).isSome = true ↔
      (q ∈ ps ∨ crash.isSome = true) ∧ (d.workerOf? q).isSome = true)
    (started : ∀ q i, e.workerOf? q = some i → c.workerOf? q = none →
      ∃ settings, routing q.topic = some settings ∧ e.workers[i]? = some (.fresh q settings)) :
    Supplied routing ps c e crash where
  crashes := hired.crashes
  listed q hq := by rw [found, and_iff_right (.inl hq), hired.found]
  others q hq := by
    have behind : q ∉ c.reached routing ps := fun mem => hq ((List.takeWhile_sublist _).subset mem)
    rw [found, hired.found, or_iff_right hq, and_comm, or_iff_left fun h => behind h.1]
  started := started
  complete able := by
    have all : c.reached routing ps = ps :=
      List.takeWhile_eq_self_iff.mpr fun q hq => by rw [overburdens_eq_false (able q hq)]; rfl
    refine ⟨hired.eq_none able, fun q hq routed => ?_⟩
    rw [found, hired.found, all]
    exact ⟨.inl hq, .inr ⟨hq, routed⟩⟩

theorem supplied_assign (profile : ConsumerProfile) (inRuntime : Bool) (ps : List TopicPartition)
    (clock : env.reading = .shown now) (live : c.disposed = false)
    (able : (c.hasRuntime || inRuntime) = true) :
    Supplied profile.routing ps c (c.assign env profile inRuntime ps).1
      (c.assign env profile inRuntime ps).2.2 := by
  have hired := hired_addWorkers profile.routing ps c clock
  obtain ⟨grown, -, -⟩ := grown_addWorkers env c profile.routing ps
    fun q hq settings routed => And.intro hq routed
  -- a worker that was not there before is a new one
  have started : ∀ {e : Consumer}, Shrunk ps (addWorkers env profile.routing ps c).1 e →
      ∀ q i, e.workerOf? q = some i → c.workerOf? q = none → ∃ settings,
        profile.routing q.topic = some settings ∧ e.workers[i]? = some (.fresh q settings) := by
    intro e shrunk q i found lacking
    rcases (grown.reassigned shrunk).found q i found with
      before | ⟨-, settings, ⟨-, routed⟩, worker⟩
    · cases lacking.symm.trans before
    · exact ⟨settings, routed, worker⟩
  obtain ⟨crash, same⟩ := assign_spec env profile ps live able
  rw [crash]
  split at same
  · next fine =>
    rw [same]
    refine hired.supplied (fun q => ?_) (started (shrunk_removeOthers ps).1)
    rw [isSome_workerOf?_removeOthers, fine]
    simp
  · next broken =>
    rw [same]
    refine hired.supplied (fun q => ?_) (started (.refl ps _))
    rw [and_iff_right (.inr (Option.isSome_iff_ne_none.mpr broken))]

end Consumer

/-! ## Accepted sizes -/

namespace NamedBatching

variable {A : Dialogue} {root : ConfigValue} {section_ : String} {named : NamedBatching}

/-- What becomes of accepted sizes, in a consumer, in its workers, and in an executor. -/
structure Limited (named : NamedBatching) (e : Executor A) : Prop where
  /-- The sizes under a name are what a subscription is batched with that is given this name. -/
  routed : ∀ settings : ConsumerSettings A, settings.validate = .ok () →
    ∀ name (sub : Subscription A), sub.withBatching (named.get name) ∈ settings.subscriptions →
      ∀ topic ∈ sub.topics, ∀ hasHook,
        (settings.profile hasHook).routing topic = some (named.get name)
  /-- An assignment is carried out as far as capacities can be counted. -/
  supplied : ∀ (env : Surroundings) (now : Timestamp) (profile : ConsumerProfile) (inRuntime : Bool)
    (ps : List TopicPartition) (c : Consumer), env.reading = .shown now → c.disposed = false →
      (c.hasRuntime || inRuntime) = true →
        Consumer.Supplied profile.routing ps c (c.assign env profile inRuntime ps).1
          (c.assign env profile inRuntime ps).2.2
  /-- A worker opens its batches if there is room for them. -/
  opening : ∀ name rule env m p history w,
    Workshop.Run rule (.spawned env m p (named.get name)) history w →
      Workshop.Opening (named.get name) history w
  /-- An executor does not crash by itself if it has its permits. -/
  strained : ∀ items messages history (c : Crew A),
    Crew.Run (.ofRoutine (e.execute messages items)) history c →
      Crew.Strained e items messages history c

theorem load_limited (loaded : load root section_ = .ok named) {pipeline : MessagePipeline A}
    {n : Nat} {e : Executor A} (accepted : Executor.withParallelism pipeline n = .ok e) :
    Limited named e where
  routed settings valid name sub mem topic listed hasHook := by
    refine (ConsumerSettings.routing_eq_some_iff valid hasHook).mpr ⟨_, mem, listed, ?_⟩
    exact BatchSettings.clamped_of_tooSmall_eq_nil (tooSmall_get loaded name)
  supplied _ _ profile inRuntime ps _ clock live able :=
    Consumer.supplied_assign profile inRuntime ps clock live able
  opening _ _ _ _ _ _ _ run := Workshop.run_opening run
  strained _ _ _ _ run := Crew.run_strained accepted run

theorem stocked_limited :
    ∃ named e, load ConsumerConfig.stocked "subscriptions" = .ok named ∧
      Executor.withParallelism Crew.picky 2 = .ok e ∧ Limited named e ∧
      Consumer.canSpawn (named.get "orders") = true ∧ (named.get "orders").Roomy ∧
      e.parallelism ≤ Executor.greatestPermits := by
  have loaded : load ConsumerConfig.stocked "subscriptions" = .ok
      ⟨[("orders", ⟨50, 200, 100, 1000, 60000⟩), ("refunds", ⟨7, 10000, 100, 1000, 60000⟩)]⟩ := by
    decide +kernel
  have accepted : Executor.withParallelism Crew.picky 2 = .ok ⟨Crew.picky, 2⟩ := rfl
  refine ⟨_, _, loaded, accepted, load_limited loaded accepted, ?_, ?_, ?_⟩ <;> decide +kernel

/-- A capacity that cannot be counted stands under one name, and a batch size for which there is no
room under another. -/
def vast : ConfigValue :=
  .table none [("subscriptions", .table none [
    ("ledger", .table none [("queue_capacity", .leaf none (.integer 2305843009213693952))]),
    ("archive", .table none [("batch_size", .leaf none (.integer 1152921504606846976))])])]

/-- A subscription that is given the first of these names, and one that is not given any. -/
def audit (named : NamedBatching) : ConsumerSettings Crew.mute :=
  let settings := { ConsumerSettings.new "localhost:9092" "audit" with named := named }
  (settings.subscribeNamed "ledger" { topics := ["ledger"], handler := fun _ => .done (.ok ()) })
    |>.subscribe { topics := ["orders"], handler := fun _ => .done (.ok ()) }

/-- The batcher of the worker finds a record. -/
def archived (named : NamedBatching) : List Workshop.Entry × Workshop :=
  let p : TopicPartition := ⟨"archive", 0⟩
  let acts : List Workshop.Act :=
    .enqueue (.bare p 1) :: List.replicate 6 (.intake 0) ++ [.batch]
  Workshop.play (fun _ _ => true) (.spawned (.calm 0) .empty p (named.get "archive"))
    (acts.map (.calm 0, ·))

/-- All these sizes are accepted. The assignment crashes and leaves the partition of the other
subscription without a worker, the batch task crashes instead of opening its first batch, and the
executor crashes before it has handled the message. -/
theorem vast_crashes :
    ∃ named e, load vast "subscriptions" = .ok named ∧
      Executor.withParallelism Crew.picky 2305843009213693952 = .ok e ∧
      (audit named).validate = .ok () ∧
      (Consumer.fresh.assign (.calm 0) ((audit named).profile false) true
        [⟨"ledger", 0⟩, ⟨"orders", 0⟩]).2.2 = some Executor.tooManyPermits ∧
      (Consumer.fresh.assign (.calm 0) ((audit named).profile false) true
        [⟨"ledger", 0⟩, ⟨"orders", 0⟩]).1.workerOf? ⟨"orders", 0⟩ = none ∧
      Workshop.Run (fun _ _ => true)
        (.spawned (.calm 0) .empty ⟨"archive", 0⟩ (named.get "archive")) (archived named).1
        (archived named).2 ∧
      (archived named).2.station.worker.batcher = .ended (some Worker.tooManyBytes) ∧
      ∀ env, ((Crew.ofRoutine (e.execute [Crew.messageAt 1] [])).step env .lead).map (·.1.lead) =
        some (.crashed Executor.tooManyPermits) := by
  have loaded : load vast "subscriptions" = .ok
      ⟨[("ledger", ⟨1, 10000, 2305843009213693952, 1000, 60000⟩),
        ("archive", ⟨1152921504606846976, 10000, 100, 1000, 60000⟩)]⟩ := by
    decide +kernel
  refine ⟨_, _, loaded, rfl, by decide +kernel, by decide +kernel, by decide +kernel,
    Workshop.run_play _ _ _, by decide +kernel, fun env => ?_⟩
  let e : Executor Crew.mute := ⟨Crew.picky, 2305843009213693952⟩
  obtain ⟨k, crash⟩ := e.execute_eq_crash [Crew.messageAt 1] [] (by decide)
  rw [crash]
  rfl

end NamedBatching

end TopicConsumer
