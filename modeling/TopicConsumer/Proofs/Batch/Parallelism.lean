import TopicConsumer.Proofs.Batch.InPlace
import TopicConsumer.Proofs.Batch.Supervision

/-!
# How much parallelism an executor can have

An executor is accepted with every parallelism but zero, and it counts what it handles side by side
by permits, of which there can be only so many. With more parallelism than that it crashes before it
handles anything. Otherwise it crashes only with a message that it handles in place. Both are said
by `Crew.run_strained`.
-/

namespace TopicConsumer

variable {A : Dialogue}

/-! ## Routines that do not crash -/

namespace Routine

variable {D : Dialogue} {α β : Type} {bad : D.Query → Prop}

/-- Whatever it is replied, the routine asks no question of this kind. -/
def Avoids (bad : D.Query → Prop) : Routine D α → Prop
  | .done _ => True
  | .ask q k => ¬ bad q ∧ ∀ a, (k a).Avoids bad

theorem Avoids.andThen {r : Routine D α} {f : α → Routine D β} (first : r.Avoids bad)
    (rest : ∀ a, (f a).Avoids bad) : (r.andThen f).Avoids bad := by
  induction r with
  | done a => exact rest a
  | ask q k ih => exact ⟨first.1, fun a => ih a (first.2 a)⟩

end Routine

/-- The question is no question but a crash. -/
def MessageQuery.IsCrash : MessageQuery A → Prop
  | .crash _ => True
  | _ => False

/-- The question is no question but a crash. -/
def BatchQuery.IsCrash : BatchQuery A → Prop
  | .message q => q.IsCrash
  | .dispatch _ _ => False

theorem MessageRoutine.avoids_inBatch {α : Type} {r : MessageRoutine A α}
    (avoids : r.Avoids MessageQuery.IsCrash) : r.inBatch.Avoids BatchQuery.IsCrash := by
  induction r with
  | done a => trivial
  | ask q k ih => exact ⟨avoids.1, fun a => ih a (avoids.2 a)⟩

namespace Executor

variable {e : Executor A} {items : Items} {messages : List Message}

theorem withParallelism_eq_ok_iff {p : MessagePipeline A} {n : Nat} :
    withParallelism p n = .ok e ↔ 1 ≤ n ∧ e = ⟨p, n⟩ := by
  unfold withParallelism
  split
  · next zero => simp [zero]
  · next some =>
    rw [Except.ok.injEq, eq_comm]
    exact (and_iff_right (Nat.one_le_iff_ne_zero.mpr some)).symm

theorem avoids_oneByOne (fine : ∀ m ∈ messages, (e.job items m).Avoids MessageQuery.IsCrash) :
    (e.oneByOne items messages).Avoids BatchQuery.IsCrash := by
  induction messages with
  | nil => trivial
  | cons m rest ih =>
    rw [List.forall_mem_cons] at fine
    rw [oneByOne_cons]
    refine (MessageRoutine.avoids_inBatch fine.1).andThen fun outcome => ?_
    cases outcome with
    | ok => exact ih fine.2
    | error fault => trivial

/-- An executor that has its permits does not crash by itself. Side by side it does not crash with a
message either. -/
theorem avoids_execute (positive : 1 ≤ e.parallelism) (permitted : e.parallelism ≤ greatestPermits)
    (fine : e.parallelism = 1 → ∀ m ∈ messages, (e.job items m).Avoids MessageQuery.IsCrash) :
    (e.execute messages items).Avoids BatchQuery.IsCrash := by
  rcases Nat.eq_or_lt_of_le positive with one | many
  · have same : e.execute messages items = e.oneByOne items (inOrder messages) := if_pos one.symm
    rw [same]
    exact avoids_oneByOne fun m mem => fine one.symm m (List.mem_mergeSort.mp mem)
  · rw [execute_eq_dispatch many permitted]
    exact ⟨id, fun _ => trivial⟩

/-- An executor that cannot have its permits crashes at once. -/
theorem execute_eq_crash (e : Executor A) (messages : List Message) (items : Items)
    (strained : greatestPermits < e.parallelism) :
    ∃ k, e.execute messages items = .ask (.message (.crash tooManyPermits)) k := by
  have many : e.parallelism ≠ 1 := by
    rintro one
    rw [one] at strained
    exact absurd strained (by decide)
  exact ⟨_, (if_neg many).trans (if_pos strained)⟩

end Executor

/-! ## Crews that do not crash -/

/-- Whatever comes, the lead will not crash. -/
def Lead.Composed : Lead A → Prop
  | .working routine => routine.Avoids BatchQuery.IsCrash
  | .dispatching _ resume => ∀ outcome, (resume outcome).Avoids BatchQuery.IsCrash
  | .crashed _ => False

namespace Crew

variable {history events : List (CrewEvent A)} {c t : Crew A} {env : Replies A} {act : Act}

theorem composed_finish {n : Nat} {outcome : Outcome} (composed : c.lead.Composed) :
    (c.finish n outcome).lead.Composed := by
  obtain ⟨lead, hands, cancelled⟩ := c
  cases lead with
  | working | dispatching => exact composed
  | crashed => exact composed

theorem Move.composed (move : Move env c act t events) (composed : c.lead.Composed) :
    t.lead.Composed := by
  cases move with
  | cancel | handReplied => exact composed
  | finished | handCrashed => exact composed_finish composed
  | replied lead answer =>
    rw [lead] at composed
    exact composed.2 _
  | crashed lead =>
    rw [lead] at composed
    exact absurd trivial composed.1
  | opened lead =>
    rw [lead] at composed
    exact composed.2
  | started lead | refused lead =>
    rw [lead] at composed
    exact composed
  | concluded lead =>
    rw [lead] at composed
    exact composed _

theorem Run.composed {routine : BatchRoutine A Outcome}
    (avoids : routine.Avoids BatchQuery.IsCrash) (run : Run (ofRoutine routine) history c) :
    c.lead.Composed := by
  have start : (ofRoutine routine).lead.Composed := avoids
  exact run.invariant (fun _ c => c.lead.Composed) start fun composed move => move.composed composed

/-- The lead can do nothing but crash with this text, or it has done so, and nothing else has
happened but that the cancellation was raised. -/
structure Doomed (text : String) (history : List (CrewEvent A)) (c : Crew A) : Prop where
  lead : (∃ k, c.lead = .working (.ask (.message (.crash text)) k)) ∨ c.lead = .crashed text
  hands : c.hands = []
  quiet : ∀ x ∈ history, x = .cancelled

theorem Doomed.move {text : String} (doomed : Doomed text history c)
    (move : Move env c act t events) : Doomed text (history ++ events) t := by
  obtain ⟨lead, hands, quiet⟩ := doomed
  cases move with
  | cancel =>
    refine ⟨lead, hands, ?_⟩
    simpa [or_imp, forall_and] using quiet
  | handReplied hand | finished hand | handCrashed hand => simp [hands] at hand
  | crashed lead' =>
    rw [List.append_nil]
    rcases lead with ⟨k, lead⟩ | lead
    · cases lead.symm.trans lead'
      exact ⟨.inr rfl, hands, quiet⟩
    · cases lead.symm.trans lead'
  | @replied q k a lead' =>
    rcases lead with ⟨k, lead⟩ | lead
    · cases lead.symm.trans lead'
      exact Empty.elim a
    · cases lead.symm.trans lead'
  | opened lead' | started lead' | refused lead' | concluded lead' =>
    rcases lead with ⟨k, lead⟩ | lead <;> cases lead.symm.trans lead'

/-- Until it has crashed, the lead can do so. -/
theorem Doomed.crashes {text : String} (doomed : Doomed text history c) (env : Replies A) :
    c.lead = .crashed text ∨ c.step env .lead = some ({ c with lead := .crashed text }, []) := by
  rcases doomed.lead with ⟨k, lead⟩ | lead
  · refine .inr ?_
    rw [step, leadStep, lead]
  · exact .inl lead

/-! ## Executors under strain -/

/-- What an executor comes to that may have more parallelism than it can have permits. -/
structure Strained (e : Executor A) (items : Items) (messages : List Message)
    (history : List (CrewEvent A)) (c : Crew A) : Prop where
  /-- With permits for all, it crashes only with a message that it handles in place. -/
  fine : e.parallelism ≤ Executor.greatestPermits →
    (e.parallelism = 1 → ∀ m ∈ messages, (e.job items m).Avoids MessageQuery.IsCrash) →
      ∀ text, c.lead ≠ .crashed text
  /-- Otherwise it can do nothing else. -/
  doomed : Executor.greatestPermits < e.parallelism → Doomed Executor.tooManyPermits history c

theorem run_strained {p : MessagePipeline A} {n : Nat} {e : Executor A} {items : Items}
    {messages : List Message} (accepted : Executor.withParallelism p n = .ok e)
    (run : Run (ofRoutine (e.execute messages items)) history c) :
    Strained e items messages history c := by
  obtain ⟨positive, rfl⟩ := Executor.withParallelism_eq_ok_iff.mp accepted
  constructor
  case fine =>
    intro permitted jobs text crashed
    have composed := run.composed (Executor.avoids_execute positive permitted jobs)
    rw [crashed] at composed
    exact composed
  case doomed =>
    intro strained
    obtain ⟨k, crash⟩ := Executor.execute_eq_crash _ messages items strained
    rw [crash] at run
    exact run.invariant (Doomed Executor.tooManyPermits) ⟨.inl ⟨k, rfl⟩, rfl, by simp⟩ Doomed.move

end Crew

end TopicConsumer
