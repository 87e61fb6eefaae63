import TopicConsumer.Proofs.Consumer.Passage

/-!
# The state of a partition that is given back

The state of a partition belongs to whoever is the worker of the partition. The task that closes a
removed worker forgets it at its end, whether or not the partition has a new worker by then. Nothing
else takes the state of a registered partition away: `Service.recordedRun_kept` is about every run
of a consumer that is not shut down, whatever the broker answers. Either a task has forgotten the
state late, so that the partition has a worker but does not look assigned, or a revocation commits
every position that this worker has stored. `Service.exists_forgotten` shows that the first case
occurs.
-/

namespace TopicConsumer

/-- A call that closes the consumer looks after the loop first. -/
theorem Closing.aside_of_step {env : Surroundings} {profile : ConsumerProfile} {c d : Consumer}
    {call next : Closing} {events : List ConsumerEvent}
    (h : call.step env profile c = some (d, next, events))
    (claimed : ∀ s, call = .shuttingDown s → s = .claiming ∨ c.disposed = true) :
    d.disposed = true ∨ (∀ s, next = .shuttingDown s → s = .claiming) ∧
      ∃ token holds, d = { c with loopToken := token, holdsLoop := holds } := by
  cases call with
  | stoppingLoop =>
    cases h
    exact .inr ⟨by simp, _, _, rfl⟩
  | takingLoop =>
    cases h
    refine .inr ⟨fun s hs => ?_, _, _, rfl⟩
    split at hs <;> cases hs
    rfl
  | awaitingLoop =>
    simp only [Closing.step] at h
    split at h <;> cases h <;>
      exact .inr ⟨fun s hs => (Closing.shuttingDown.inj hs).symm, _, _, rfl⟩
  | shuttingDown s =>
    simp only [Closing.step, bind, Option.bind_eq_some_iff, Prod.exists] at h
    obtain ⟨d, t, events, move, h⟩ := h
    cases h
    exact .inl (Shutdown.step_spec move (claimed s rfl)).1
  | returned | crashed text => cases h

namespace Service

/-- One move of a run, with the consumer before it. -/
structure Entry where
  before : Consumer
  act : Act
  moments : List Moment

namespace Entry

/-- The task that closes the removed worker `j` of the partition forgets the state. -/
def Forgets (e : Entry) (p : TopicPartition) (j : Nat) : Prop :=
  ∃ task drained w, e.act = .removal task ∧ e.before.removals[task]? = some (j, .revoking drained) ∧
    e.before.workers[j]? = some w ∧ w.partition = p

/-- The batcher of the worker stores the position. -/
def Stores (e : Entry) (p : TopicPartition) (i : Nat) (n : Offset) : Prop :=
  e.act = .batch i ∧ (∃ offset, n = offset + 1 ∧
    .event (.operation p (.store offset)) ∈ e.moments) ∧
      ∀ call text, .event (.call call (.crashed text)) ∉ e.moments

theorem forgets_nothing {c : Consumer} {act : Act} {moments : List Moment}
    (other : ∀ task, act ≠ .removal task) (q : TopicPartition) :
    ¬ ∃ j, Entry.Forgets ⟨c, act, moments⟩ q j := by
  rintro ⟨j, task, drained, w, act, -⟩
  exact other task act

end Entry

/-- The state of the partition was forgotten by the task of an earlier worker when `i` was its
worker already. -/
def ForgottenLate (p : TopicPartition) (i : Nat) (history : List Entry) : Prop :=
  ∃ e ∈ history, ∃ j, j < i ∧ e.Forgets p j ∧ e.before.workerOf? p = some i

/-- The partition is assigned, and a revocation commits every position that its worker has stored.
-/
structure Tenured (p : TopicPartition) (i : Nat) (history : List Entry) (c : Consumer) : Prop where
  assigned : (c.manager.state p).assignedAt.isSome = true
  commits : ∀ n, (∃ e ∈ history, e.Stores p i n) → ∀ env : Surroundings, ∃ k, n ≤ k ∧
    .work (.call (.commit ⟨p, k⟩) (env.answers (.commit ⟨p, k⟩))) ∈
      (Consumer.revoke env [p] c).2.1

/-- A run with its moves, whatever the broker answers and whatever the polls find. -/
inductive RecordedRun (profile : ConsumerProfile) (p : TopicPartition) (v₀ : Service) :
    List Entry → Service → Prop
  | start : RecordedRun profile p v₀ [] v₀
  | step {history : List Entry} {v w : Service} {env : Surroundings} {act : Act}
      {moments : List Moment} (run : RecordedRun profile p v₀ history v)
      (step : v.step p profile env act = some (w, moments)) :
      RecordedRun profile p v₀ (history ++ [⟨v.consumer, act, moments⟩]) w

/-- A shutdown beyond its claim has disposed of the consumer. -/
structure Claimed (v : Service) : Prop where
  loop : ∀ s, v.consumer.loop = some (.shuttingDown s) → s = .claiming ∨ v.consumer.disposed = true
  closings : ∀ s, Closing.shuttingDown s ∈ v.closings → s = .claiming ∨ v.consumer.disposed = true

/-- A move that is no part of a shutdown. -/
structure Proceeds (v : Service) (act : Act) (moments : List Moment) (w : Service) : Prop where
  disposed : w.consumer.disposed = v.consumer.disposed
  loop : ∀ s, w.consumer.loop = some (.shuttingDown s) →
    s = .claiming ∨ v.consumer.loop = some (.shuttingDown s)
  closings : ∀ s, Closing.shuttingDown s ∈ w.closings →
    s = .claiming ∨ Closing.shuttingDown s ∈ v.closings
  passage : v.consumer.Lineage →
    Consumer.Passage (fun q => ∃ j, Entry.Forgets ⟨v.consumer, act, moments⟩ q j) v.consumer
      w.consumer

variable {profile : ConsumerProfile} {p : TopicPartition} {v w : Service} {env : Surroundings}
  {act : Act} {moments : List Moment}

namespace Proceeds

/-- Neither workers nor states change. -/
theorem aside (other : ∀ task, act ≠ .removal task)
    (disposed : w.consumer.disposed = v.consumer.disposed)
    (manager : w.consumer.manager = v.consumer.manager)
    (workers : w.consumer.workers = v.consumer.workers)
    (registry : w.consumer.registry = v.consumer.registry)
    (removals : w.consumer.removals = v.consumer.removals)
    (loop : ∀ s, w.consumer.loop = some (.shuttingDown s) →
      s = .claiming ∨ v.consumer.loop = some (.shuttingDown s))
    (closings : ∀ s, Closing.shuttingDown s ∈ w.closings →
      s = .claiming ∨ Closing.shuttingDown s ∈ v.closings) : Proceeds v act moments w where
  disposed := disposed
  loop := loop
  closings := closings
  passage _ := .aside (Entry.forgets_nothing other) manager workers registry removals

/-- The loop goes on where it is free. -/
theorem turn {next : PollLoop} {feed : Feed} (other : ∀ task, act ≠ .removal task)
    (after : ∀ s, next = .shuttingDown s → s = .claiming) :
    Proceeds v act moments ⟨turnTo v.consumer next, v.closings, feed⟩ :=
  aside other rfl rfl rfl rfl rfl (fun s hs => .inl (after s (Option.some.inj hs))) fun _ => .inr

/-- A worker makes a move. -/
theorem station {i : Nat} {worker : Worker} {s : Station} {feed : Feed}
    (other : ∀ task, act ≠ .removal task) (present : v.consumer.workers[i]? = some worker)
    (partition : s.worker.partition = worker.partition)
    (retains : v.consumer.manager.Retains s.manager) :
    Proceeds v act moments ⟨v.consumer.setStation i s, v.closings, feed⟩ where
  disposed := rfl
  loop _ := .inr
  closings _ := .inr
  passage _ := .station (Entry.forgets_nothing other) present partition retains

/-- A task that closes a removed worker forgets the state of its partition, and only at its end. -/
theorem removal {task i : Nat} {d e : Disposal} {worker : Worker} {s : Station}
    {events : List Event} {feed : Feed} (call : v.consumer.removals[task]? = some (i, d))
    (present : v.consumer.workers[i]? = some worker)
    (move : Disposal.Move env ⟨v.consumer.manager, worker⟩ d s e events) :
    Proceeds v (.removal task) moments
      ⟨{ v.consumer.setStation i s with removals := v.consumer.removals.set task (i, e) },
        v.closings, feed⟩ := by
  have partition : s.worker.partition = worker.partition := by rw [move.worker_eq.1]
  refine ⟨rfl, fun _ => .inr, fun _ => .inr, fun _ => ?_⟩
  -- Only the last thing that the call does to the state is to forget it.
  have forgets : ∀ q, (∃ j, Entry.Forgets ⟨v.consumer, .removal task, moments⟩ q j) ↔
      (∃ drained, d = .revoking drained) ∧ q = worker.partition := by
    intro q
    constructor
    · rintro ⟨j, task, drained, w, act, found, hw, rfl⟩
      cases act
      cases call.symm.trans found
      cases present.symm.trans hw
      exact ⟨⟨drained, rfl⟩, rfl⟩
    · rintro ⟨⟨drained, rfl⟩, rfl⟩
      exact ⟨i, task, drained, worker, rfl, call, present, rfl⟩
  refine ⟨Consumer.Passage.exists_worker_set present partition, fun _ _ => .inl,
    fun _ _ => .inl, fun j f hf => .inl ?_, fun q _ kept => ?_, fun q forgotten => ?_⟩
  · rcases List.mem_or_eq_of_mem_set hf with old | new
    · exact ⟨f, old⟩
    · cases new
      exact ⟨d, List.mem_of_getElem? call⟩
  · rcases move.retains with ⟨revoking, elsewhere, -⟩ | ⟨-, retains⟩
    · have same := elsewhere q fun hq => kept ((forgets q).mpr ⟨revoking, hq⟩)
      exact same ▸ .refl _
    · exact retains q
  · obtain ⟨⟨drained, revoking⟩, rfl⟩ := (forgets q).mp forgotten
    rcases move.retains with ⟨-, -, empty⟩ | ⟨not, -⟩
    · exact congrArg PartitionState.assignedAt empty
    · exact absurd revoking (not drained)

/-- The partitions are handed out or about to be taken away. -/
theorem rebalanced {d : Consumer} {crash : Option String} {feed : Feed}
    (disposed : d.disposed = v.consumer.disposed) (loop : d.loop = v.consumer.loop)
    (passage : v.consumer.Lineage → Consumer.Passage
      (fun q => ∃ j, Entry.Forgets ⟨v.consumer, act, moments⟩ q j) v.consumer d) :
    Proceeds v act moments ⟨Service.rebalanced d crash, v.closings, feed⟩ := by
  cases crash with
  | none =>
    refine ⟨disposed, fun s hs => .inr ?_, fun _ => .inr, passage⟩
    rw [← loop]
    exact hs
  | some text =>
    refine ⟨disposed, fun s hs => ?_, fun _ => .inr, fun lineage => ?_⟩
    · cases hs
    · obtain ⟨worker, registered, found, removed, retained, forgotten⟩ := passage lineage
      exact ⟨worker, registered, found, removed, retained, forgotten⟩

end Proceeds


namespace Claimed

variable (claimed : v.Claimed)

include claimed

theorem proceeds_loop {loop next : PollLoop} {c : Consumer} {events : List ConsumerEvent}
    {feed : Feed} (place : v.consumer.loop = some loop)
    (move : PollLoop.Move env profile v.consumer loop c next events) :
    c.disposed = true ∨ Proceeds v .loop moments ⟨turnTo c next, v.closings, feed⟩ := by
  have other : ∀ task, Act.loop ≠ .removal task := by simp
  cases move with
  | turned _ _ after => exact .inr (.turn other fun s h => by rw [h] at after; exact after)
  | @passed i r call j worker station events present move =>
    refine .inr ⟨rfl, fun s hs => .inl ?_, fun _ => .inr, fun _ => ?_⟩
    · rcases PollLoop.ofIntake_spec i r j with ⟨-, h⟩ | ⟨-, free, -⟩
      · rw [h] at hs
        cases hs
      · rw [Option.some.inj hs] at free
        exact free
    · have partition : station.worker.partition = worker.partition := by
        rcases move.worker_eq with ⟨-, -, -, -, h⟩ | ⟨-, h⟩ <;> rw [h]
      have worker := Consumer.Passage.exists_worker_set present partition
      exact .of_retains (Entry.forgets_nothing other) worker rfl rfl move.retains
  | shut step => exact .inl (Shutdown.step_spec step (claimed.loop _ place)).1

/-- A move belongs to the shutdown of the consumer, or it proceeds. -/
theorem proceeds (step : v.step p profile env act = some (w, moments)) :
    w.consumer.disposed = true ∨ Proceeds v act moments w := by
  cases move_of_step step with
  | @loop _ _ c _ place move => exact claimed.proceeds_loop (c := c) place move
  | @polled result =>
    refine .inr (.turn (by simp) fun s hs => ?_)
    rcases PollLoop.polled_spec v.consumer result with ⟨r, i, -, -, h⟩ | ⟨free, -⟩
    · rw [h] at hs
      cases hs
    · rw [hs] at free
      exact free
  | @decided _ decision =>
    refine .inr (.turn (by simp) fun s hs => ?_)
    have free := (PollLoop.decided_spec decision).1
    rw [hs] at free
    exact free
  | notified place => exact .inl ((claimed.loop _ place).resolve_left (by simp))
  | @assign ps =>
    have reassigned := (Consumer.reassigned_assign env v.consumer profile ps).1
    exact .inr (.rebalanced reassigned.disposed reassigned.loop fun lineage =>
      lineage.passage_assign env profile ps (Entry.forgets_nothing (by simp)))
  | @revoke ps =>
    obtain ⟨m, same, state, -⟩ := Consumer.revoke_spec env v.consumer ps
    rw [same]
    refine .inr (.rebalanced rfl rfl fun _ => .of_retains (Entry.forgets_nothing (by simp))
      (fun i w hw => ⟨w, hw, rfl⟩) rfl rfl fun q => ?_)
    rw [state q]
    exact .refl _
  | batch present move =>
    exact .inr (.station (by simp) present (by rw [move.worker_eq]) move.retains)
  | @handler i ending worker s events present ends =>
    have same : v.consumer.manager.Retains s.manager := ends.manager_eq ▸ .refl _
    exact .inr (.station (by simp) present (by rw [ends.worker_eq]) same)
  | removal call present move => exact .inr (.removal call present move)
  | stop => exact .inr (.aside (by simp) rfl rfl rfl rfl rfl (fun _ => .inr) fun _ => .inr)
  | close =>
    refine .inr (.aside (by simp) rfl rfl rfl rfl rfl (fun _ => .inr) fun s hs => .inr ?_)
    simpa using hs
  | @closing n call next c events found move =>
    have own : ∀ s, call = .shuttingDown s → s = .claiming ∨ v.consumer.disposed = true :=
      fun s hs => claimed.closings s (hs ▸ List.mem_of_getElem? found)
    rcases Closing.aside_of_step move own with disposed | ⟨claims, token, holds, rfl⟩
    · exact .inl disposed
    · refine .inr (.aside (by simp) rfl rfl rfl rfl rfl (fun _ => .inr) fun s hs => ?_)
      rcases List.mem_or_eq_of_mem_set hs with old | new
      · exact .inr old
      · exact .inl (claims s new.symm)
  | closingNotified found =>
    exact .inl ((claimed.closings _ (List.mem_of_getElem? found)).resolve_left (by simp))
  | flush => exact .inr (.aside (by simp) rfl rfl rfl rfl rfl (fun _ => .inr) fun _ => .inr)

end Claimed

theorem Claimed.step (claimed : v.Claimed)
    (step : v.step p profile env act = some (w, moments)) : w.Claimed := by
  rcases claimed.proceeds step with disposed | proceeds
  · exact ⟨fun _ _ => .inr disposed, fun _ _ => .inr disposed⟩
  · refine ⟨fun s hs => ?_, fun s hs => ?_⟩
    · rw [proceeds.disposed]
      exact (proceeds.loop s hs).elim .inl (claimed.loop s)
    · rw [proceeds.disposed]
      exact (proceeds.closings s hs).elim .inl (claimed.closings s)

/-- What is stored stands in the state of the partition. -/
theorem reaches_of_step {q : TopicPartition} {i : Nat} {n : Offset}
    (step : v.step p profile env act = some (w, moments))
    (stores : Entry.Stores ⟨v.consumer, act, moments⟩ q i n) :
    i < v.consumer.workers.length ∧
      ∃ m, (w.consumer.manager.state q).committed = some m ∧ n ≤ m := by
  obtain ⟨rfl, ⟨offset, rfl, stored⟩, fine⟩ := stores
  cases move_of_step step with
  | batch present move =>
    refine ⟨(List.getElem?_eq_some_iff.mp present).1, ?_⟩
    exact move.reaches (by simpa using stored) fun call text mem =>
      fine call text (List.mem_map_of_mem mem)

/-- What holds in every run up to the shutdown. -/
structure Settled (p : TopicPartition) (history : List Entry) (c : Consumer) : Prop where
  lineage : c.Lineage
  /-- Whoever has stored something or was registered is among the workers. -/
  past : ∀ e ∈ history, ∀ i, (∃ n, e.Stores p i n) ∨ e.before.workerOf? p = some i →
    i < c.workers.length
  forgotten : ∀ i, c.workerOf? p = some i → ForgottenLate p i history →
    (c.manager.state p).assignedAt = none
  kept : ∀ i, c.workerOf? p = some i → ¬ ForgottenLate p i history →
    (c.manager.state p).assignedAt.isSome = true ∧ ∀ n, (∃ e ∈ history, e.Stores p i n) →
      ∃ m, (c.manager.state p).committed = some m ∧ n ≤ m

/-- Whoever forgets the state of a partition that has a worker comes late. -/
theorem ForgottenLate.of_forgets {history : List Entry} {i : Nat} {e : Entry}
    (lineage : e.before.Lineage) (found : e.before.workerOf? p = some i)
    (forgets : ∃ j, e.Forgets p j) (mem : e ∈ history) : ForgottenLate p i history := by
  obtain ⟨j, forgets⟩ := forgets
  obtain ⟨task, drained, w, -, closing, hw, rfl⟩ := id forgets
  obtain ⟨w', hw', younger⟩ := lineage.earlier j _ (List.mem_of_getElem? closing)
  cases hw.symm.trans hw'
  exact ⟨e, mem, j, younger i found, forgets, found⟩

theorem Settled.step {history : List Entry} (settled : Settled p history v.consumer)
    (proceeds : Proceeds v act moments w) (step : v.step p profile env act = some (w, moments)) :
    Settled p (history ++ [⟨v.consumer, act, moments⟩]) w.consumer := by
  have passage := proceeds.passage settled.lineage
  have before : ∀ e ∈ history ++ [⟨v.consumer, act, moments⟩], ∀ i,
      (∃ n, e.Stores p i n) ∨ e.before.workerOf? p = some i → i < v.consumer.workers.length := by
    intro e mem i past
    rcases List.mem_append.mp mem with old | new
    · exact settled.past e old i past
    · cases List.mem_singleton.mp new
      rcases past with ⟨n, stores⟩ | found
      · exact (reaches_of_step step stores).1
      · obtain ⟨worker, present, -⟩ := settled.lineage.registered p i (mem_of_lookup found)
        exact (List.getElem?_eq_some_iff.mp present).1
  refine ⟨settled.lineage.passage passage, fun e mem i past => ?_, fun i hi late => ?_,
    fun i hi timely => ?_⟩
  · obtain ⟨u, present, -⟩ := passage.worker i _ (List.getElem?_eq_getElem (before e mem i past))
    exact (List.getElem?_eq_some_iff.mp present).1
  · rcases passage.found p i hi with found | ⟨-, fresh, -⟩
    · by_cases forgets : ∃ j, Entry.Forgets ⟨v.consumer, act, moments⟩ p j
      · exact passage.forgotten p forgets
      · rw [(passage.retained p (found ▸ rfl) forgets).assignedAt]
        refine settled.forgotten i found ?_
        obtain ⟨e, mem, j, younger, revokes, registered⟩ := late
        rcases List.mem_append.mp mem with old | new
        · exact ⟨e, old, j, younger, revokes, registered⟩
        · cases List.mem_singleton.mp new
          exact absurd ⟨j, revokes⟩ forgets
    -- A worker that has just been started has no past.
    · obtain ⟨e, mem, -, -, -, registered⟩ := late
      exact absurd (before e mem i (.inr registered)) (Nat.not_lt.mpr fresh)
  · rcases passage.found p i hi with found | ⟨-, fresh, assigned⟩
    · have keeps : ¬ ∃ j, Entry.Forgets ⟨v.consumer, act, moments⟩ p j := fun forgets =>
        timely (.of_forgets settled.lineage found forgets List.mem_concat_self)
      have untouched : ¬ ForgottenLate p i history := fun ⟨e, mem, late⟩ =>
        timely ⟨e, List.mem_append_left _ mem, late⟩
      obtain ⟨assigned, reached⟩ := settled.kept i found untouched
      have retained := passage.retained p (found ▸ rfl) keeps
      refine ⟨retained.assignedAt ▸ assigned, fun n stored => ?_⟩
      obtain ⟨e, mem, stores⟩ := stored
      rcases List.mem_append.mp mem with old | new
      · obtain ⟨m, cached, le⟩ := reached n ⟨e, old, stores⟩
        obtain ⟨k, later, further⟩ := retained.committed m cached
        exact ⟨k, later, Int.le_trans le further⟩
      · cases List.mem_singleton.mp new
        exact (reaches_of_step step stores).2
    · refine ⟨assigned, fun n stored => ?_⟩
      obtain ⟨e, mem, stores⟩ := stored
      exact absurd (before e mem i (.inl ⟨n, stores⟩)) (Nat.not_lt.mpr fresh)

/-- A cached position of a partition that has a worker is committed by a revocation. -/
theorem commit_mem_revoke {c : Consumer} {m : Offset} (present : (c.workerOf? p).isSome = true)
    (cached : (c.manager.state p).committed = some m) (env : Surroundings) :
    .work (.call (.commit ⟨p, m⟩) (env.answers (.commit ⟨p, m⟩))) ∈
      (Consumer.revoke env [p] c).2.1 := by
  have mem := @PartitionState.commit_mem_calls p (c.manager.state p) env.answers m cached
  have lacks : (c.workerOf? p).isNone = false := by simpa using present
  simp only [Consumer.revoke, lacks, Bool.false_eq_true, if_false]
  split <;> simpa [Manager.effect, PartitionState.perform] using mem

theorem Claimed.opened (profile : ConsumerProfile) (start : Offset) :
    (opened profile start).Claimed where
  loop _ h := by cases h
  closings _ h := by cases h

theorem Settled.opened (profile : ConsumerProfile) (p : TopicPartition) (start : Offset) :
    Settled p [] (Service.opened profile start).consumer where
  lineage := {
    registered := fun _ _ h => by cases h
    earlier := fun _ _ h => by cases h }
  past _ h := by cases h
  forgotten _ h := by cases h
  kept _ h := by cases h

/-- As long as a consumer is not shut down, a registered partition keeps its state, unless the task
that closes an earlier worker of the partition has forgotten it late. -/
theorem recordedRun_kept {start : Offset} {history : List Entry} {i : Nat}
    (run : RecordedRun profile p (opened profile start) history v)
    (live : v.consumer.disposed = false) (found : v.consumer.workerOf? p = some i) :
    ForgottenLate p i history ∧ (v.consumer.manager.state p).assignedAt = none ∨
      ¬ ForgottenLate p i history ∧ Tenured p i history v.consumer := by
  have kept : v.Claimed ∧ (v.consumer.disposed = false → Settled p history v.consumer) := by
    clear live found
    induction run with
    | start => exact ⟨.opened profile start, fun _ => .opened profile p start⟩
    | step run step ih =>
      obtain ⟨claimed, settled⟩ := ih
      refine ⟨claimed.step step, fun live => ?_⟩
      rcases claimed.proceeds step with disposed | proceeds
      · cases live.symm.trans disposed
      · exact (settled (proceeds.disposed ▸ live)).step proceeds step
  have settled := kept.2 live
  by_cases late : ForgottenLate p i history
  · exact .inl ⟨late, settled.forgotten i found late⟩
  · obtain ⟨assigned, reached⟩ := settled.kept i found late
    refine .inr ⟨late, assigned, fun n stored env => ?_⟩
    obtain ⟨m, cached, le⟩ := reached n stored
    exact ⟨m, le, commit_mem_revoke (found ▸ rfl) cached env⟩

/-! ## Schedules -/

/-- Makes the moves of a schedule, each at its time, and leaves out those that cannot be made. -/
def record (p : TopicPartition) (profile : ConsumerProfile) (v : Service) :
    List (Nat × Act) → Service × List Entry
  | [] => (v, [])
  | (now, act) :: rest =>
    match v.step p profile (.calm now) act with
    | some (w, moments) =>
      ((w.record p profile rest).1, ⟨v.consumer, act, moments⟩ :: (w.record p profile rest).2)
    | none => v.record p profile rest

theorem RecordedRun.record {v₀ : Service} {history : List Entry}
    (run : RecordedRun profile p v₀ history v) (schedule : List (Nat × Act)) :
    RecordedRun profile p v₀ (history ++ (v.record p profile schedule).2)
      (v.record p profile schedule).1 := by
  induction schedule generalizing history v with
  | nil => simpa [Service.record] using run
  | cons move rest ih =>
    obtain ⟨now, act⟩ := move
    rw [Service.record]
    split
    · next w moments made =>
      have longer := ih (run.step made)
      rw [List.append_assoc, List.singleton_append] at longer
      exact longer
    · exact ih run

/-- A record is handled by the worker of the partition, which is taken away and given back. The next
record is handled by the new worker, before or after the task that closes the old one. -/
def succeeded (p : TopicPartition) (late : Bool) : List (Nat × Act) :=
  let early : List (List Act) :=
    [[.loop, .loop, .assign [p]], passing p 1, handling 0, [.revoke [p], .assign []]]
  let closing : List (List Act) :=
    [List.replicate 2 (.removal 0), [.batch 0], List.replicate 7 (.removal 0)]
  let next : List (List Act) := [[.assign [p]], passing p 2, handling 1]
  (early ++ if late then next ++ closing else closing ++ next).flatten.map (0, ·)

theorem succeeded_kept :
    let p : TopicPartition := ⟨"orders", 0⟩
    let played := (opened narrow 1).record p narrow (succeeded p false)
    Tenured p 1 played.2 played.1.consumer ∧
      .event (.call (.store ⟨p, 3⟩) .done) ∈ played.2.flatMap Entry.moments := by
  intro p played
  have run : RecordedRun narrow p (opened narrow 1) played.2 played.1 :=
    RecordedRun.start.record (succeeded p false)
  have live : played.1.consumer.disposed = false := by decide +kernel
  have found : played.1.consumer.workerOf? p = some 1 := by decide +kernel
  have assigned : (played.1.consumer.manager.state p).assignedAt ≠ none := by decide +kernel
  refine ⟨?_, by decide +kernel⟩
  rcases recordedRun_kept run live found with ⟨-, lost⟩ | ⟨-, tenured⟩
  · exact absurd lost assigned
  · exact tenured

/-- Nothing is committed of a partition of which nothing is known. -/
theorem quiet_revoke {c : Consumer} (forgotten : (c.manager.state p).committed = none)
    (env : Surroundings) : ConsumerEvent.Quiet (Consumer.revoke env [p] c).2.1 := by
  have calls : (c.manager.effect p env.answers .commit).calls = [] := by
    simp [Manager.effect, PartitionState.perform, PartitionState.commit, forgotten]
  intro call answered
  rw [Consumer.revoke]
  split
  · simp [Consumer.revoke]
  · simp only [calls]
    split <;> simp [Consumer.revoke]

/-- A worker may lose the state of its partition to the task that closes an earlier worker. The
partition does not look assigned any more, and a revocation commits nothing. -/
theorem exists_forgotten :
    let p : TopicPartition := ⟨"orders", 0⟩
    ∃ history v, RecordedRun narrow p (opened narrow 1) history v ∧ v.consumer.disposed = false ∧
      v.consumer.workerOf? p = some 1 ∧ v.consumer.workers[1]?.map Worker.status = some .active ∧
        .event (.call (.store ⟨p, 3⟩) .done) ∈ history.flatMap Entry.moments ∧
          (v.consumer.manager.state p).assignedAt = none ∧
            ∀ env, ConsumerEvent.Quiet (Consumer.revoke env [p] v.consumer).2.1 := by
  intro p
  let played := (opened narrow 1).record p narrow (succeeded p true)
  have run : RecordedRun narrow p (opened narrow 1) played.2 played.1 :=
    RecordedRun.start.record (succeeded p true)
  have forgotten : (played.1.consumer.manager.state p).committed = none := by decide +kernel
  exact ⟨played.2, played.1, run, by decide +kernel, by decide +kernel, by decide +kernel,
    by decide +kernel, by decide +kernel, quiet_revoke forgotten⟩

end Service

end TopicConsumer
