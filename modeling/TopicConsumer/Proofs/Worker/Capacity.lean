import TopicConsumer.Proofs.Worker.Frame
import TopicConsumer.Proofs.Worker.Worksite

/-!
# The capacity of a worker

Every permit of a worker is free, or it belongs to a pending record, or to the call that is about to
admit one. No move creates a permit or loses one, whatever the broker and the handler do, so that in
every run the three add up to the capacity with which the worker was started.
-/

namespace TopicConsumer

/-! ## What one machine does to the permits -/

section Moves

variable {env : Surroundings} {s t : Station} {events : List Event}

theorem Batcher.Move.permits_add_pending (h : Batcher.Move env s t events) :
    t.worker.permits + t.worker.pending.length = s.worker.permits + s.worker.pending.length := by
  cases h with
  | finish | crashed | skipped | givenUp =>
    simp [Worker.endTask, Worker.dropBatch, Batcher.crash, Worker.pending, Batcher.batch,
      Nat.add_assoc]
  | opened idle live queue => simp [Worker.pending, Batcher.batch, idle, queue]
  | overflowed idle live queue =>
    simp only [Worker.endTask, Worker.pending, Batcher.batch, idle, queue, List.length_append,
      List.length_cons, List.length_nil]
    omega
  | taken collecting _ _ queue =>
    simp [Worker.pending, Batcher.batch, collecting, queue]
  | formed phase | checked phase | compared phase | handed phase | woken phase | released phase
  | stored phase | resumed phase =>
    simp [Worker.pending, Batcher.batch, phase, Nat.add_assoc]

theorem Batcher.Ends.permits_add_pending {ending : Batcher.Ending}
    (h : Batcher.Ends env s ending t events) :
    t.worker.permits + t.worker.pending.length = s.worker.permits + s.worker.pending.length := by
  cases h with
  | handled handling | failed handling => simp [Worker.pending, Batcher.batch, handling]
  | crashed =>
    simp [Worker.endTask, Batcher.crash, Worker.pending, Batcher.batch, Nat.add_assoc]

theorem Intake.Move.permits_add_pending {r : Record} {i j : Intake}
    (h : Intake.Move env r s i t j events) :
    t.worker.permits + t.worker.pending.length + j.permits =
      s.worker.permits + s.worker.pending.length + i.permits := by
  cases h with
  | acquired attempt free =>
    simp only [Worker.pending, Intake.permits]
    omega
  | admitted => simp [Worker.pending, Intake.permits, Nat.add_assoc]
  | turnedAway =>
    simp only [Worker.pending, Intake.permits]
    omega
  | _ => rfl

theorem Disposal.Move.permits_add_pending {d e : Disposal} (h : Disposal.Move env s d t e events) :
    t.worker.permits + t.worker.pending.length = s.worker.permits + s.worker.pending.length := by
  rw [h.worker_eq.1]
  rfl

end Moves

/-! ## What a run does to them -/

namespace Worksite

/-- The permits that the call under way holds. -/
def callPermits (w : Worksite) : Nat := w.call.elim 0 (·.2.permits)

/-- The permits of the worker, wherever they are. -/
def allPermits (w : Worksite) : Nat :=
  w.station.worker.permits + w.station.worker.pending.length + w.callPermits

theorem callPermits_of_isFree {w : Worksite} (free : w.isFree = true) : w.callPermits = 0 := by
  obtain ⟨station, call, disposals⟩ := w
  cases call with
  | none => rfl
  | some call =>
    obtain ⟨r, i⟩ := call
    cases i <;> first | rfl | cases free

theorem Move.allPermits_eq {env : Surroundings} {w t : Worksite} {act : Act} {moments : List Moment}
    (move : Move env w act t moments) : t.allPermits = w.allPermits := by
  cases move with
  | enqueue r free =>
    have none : w.callPermits = 0 := callPermits_of_isFree free
    rw [allPermits, allPermits, none]
    rfl
  | @intake r i j s events call move =>
    have here : w.callPermits = i.permits := by simp [callPermits, call]
    rw [allPermits, allPermits, here]
    exact move.permits_add_pending
  | batch move => exact congrArg (· + w.callPermits) move.permits_add_pending
  | handler ends => exact congrArg (· + w.callPermits) ends.permits_add_pending
  | disposal call move => exact congrArg (· + w.callPermits) move.permits_add_pending
  | dispose | cancel | elsewhere => rfl

/-- In every run the permits add up to the capacity. -/
theorem Run.allPermits_eq {allowed : Surroundings → Act → Prop} {env : Surroundings} {m : Manager}
    {p : TopicPartition} {settings : BatchSettings} {history : List Moment} {w : Worksite}
    (run : Run allowed (spawned env m p settings) history w) :
    w.allPermits = settings.queueCapacity := by
  refine run.invariant (fun _ w => w.allPermits = settings.queueCapacity) ?_ fun h _ move => ?_
  · simp [allPermits, callPermits, Worker.fresh, Worker.pending, Batcher.batch]
  · exact move.allPermits_eq.trans h

end Worksite

end TopicConsumer
