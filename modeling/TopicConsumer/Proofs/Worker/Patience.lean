import Mathlib.Data.List.Basic
import Mathlib.Data.List.Flatten
import TopicConsumer.Proofs.Worker.Allocation
import TopicConsumer.Proofs.Worker.Boundaries

/-!
# How long a worker that is closed waits

The call that closes a worker stops the intake and then waits for the batch task, but no longer than
`stopTimeout`. `Patient` says by the clock what this means: the call does not cancel the worker
before that time has passed, and a worker whose batches are all handled by then has left no record.

The clock goes on only when the batcher has nothing to do. Once the intake is closed, the batcher
has nothing to do only while the handler has a batch, while a batch that failed waits for its next
attempt, or when the batch task has ended. A call that cancels the worker has therefore waited for a
batch that was formed before the deadline and was not handled before it, as `Timed.pressed` shows.

Together with `Conducted` this is `run_conducted`, the law of closing a worker.
-/

namespace TopicConsumer.Workshop

variable {p : TopicPartition} {m : Manager} {settings : BatchSettings} {t₀ now c deadline time : Nat}
  {strokes : List Stroke} {x : Stroke} {env₀ env : Surroundings} {w w₀ t : Workshop} {act : Act}
  {moments : List Moment}

/-! ## What was handled in time -/

/-- With this move a call that closes the worker cancels it. -/
def Stroke.Cuts (x : Stroke) : Prop :=
  (∃ n, x.entry.act = .disposal n) ∧ x.entry.before.station.worker.cancelled = false ∧
    x.after.station.worker.cancelled = true

/-- What happened before a time. -/
def momentsBefore (time : Nat) (strokes : List Stroke) : List Moment :=
  momentsIn ((strokes.filter (·.time < time)).map Stroke.entry)

/-- Every batch that was formed was handled before the deadline. -/
def HandledBy (deadline : Nat) (strokes : List Stroke) : Prop :=
  handledIn (momentsBefore deadline strokes) = formedIn (momentsIn (strokes.map Stroke.entry))

instance : Decidable (HandledBy deadline strokes) := inferInstanceAs (Decidable (_ = _))

/-- What happens at a time did not happen before it. -/
theorem momentsBefore_concat (strokes : List Stroke) (le : time ≤ x.time) :
    momentsBefore time (strokes ++ [x]) = momentsBefore time strokes := by
  simp [momentsBefore, List.filter_append, Nat.not_lt.mpr le]

theorem Timed.momentsBefore_succ (run : Timed t₀ w₀ strokes now w) :
    momentsBefore (now + 1) strokes = momentsIn (strokes.map Stroke.entry) := by
  have all : strokes.filter (·.time < now + 1) = strokes :=
    List.filter_eq_self.mpr fun x hx => decide_eq_true (Nat.lt_succ_of_le (run.time_le x hx))
  rw [momentsBefore, all]

theorem momentsBefore_sublist (time : Nat) (strokes : List Stroke) :
    (momentsBefore time strokes).Sublist (momentsIn (strokes.map Stroke.entry)) :=
  (List.filter_sublist.map _).flatMap _

theorem momentsBefore_mono (strokes : List Stroke) (le : time ≤ deadline) :
    (momentsBefore time strokes).Sublist (momentsBefore deadline strokes) :=
  ((List.monotone_filter_right strokes fun _ earlier =>
    decide_eq_true (Nat.lt_of_lt_of_le (of_decide_eq_true earlier) le)).map _).flatMap _

namespace HandledBy

/-- A batch that was handled in time was handled. -/
theorem handled (inTime : HandledBy deadline strokes)
    (tallied : Tallied (strokes.map Stroke.entry) w) :
    handledIn (momentsIn (strokes.map Stroke.entry)) =
      formedIn (momentsIn (strokes.map Stroke.entry)) := by
  have sublist := (momentsBefore_sublist deadline strokes).filterMap Moment.handled?
  have length := Nat.le_of_add_right_le tallied.finished
  rw [← inTime] at length ⊢
  exact (sublist.eq_of_length_le length).symm

/-- If no batch is late, then at no time since has one been waited for. -/
theorem length_le (inTime : HandledBy deadline strokes) (le : deadline ≤ time) :
    (formedIn (momentsBefore time strokes)).length ≤
      (handledIn (momentsBefore time strokes)).length :=
  calc (formedIn (momentsBefore time strokes)).length
    _ ≤ (formedIn (momentsIn (strokes.map Stroke.entry))).length :=
      ((momentsBefore_sublist time strokes).filterMap _).length_le
    _ = (handledIn (momentsBefore deadline strokes)).length := congrArg _ inTime.symm
    _ ≤ (handledIn (momentsBefore time strokes)).length :=
      ((momentsBefore_mono strokes le).filterMap _).length_le

end HandledBy

/-! ## Until when the call waits -/

/-- As long as the batch task goes on, the clock goes past the end of the intake only while a batch
is waited for that was formed before. -/
theorem Timed.pressed (run : Timed t₀ (spawned env₀ m p settings) strokes now w)
    (shut : closing strokes = some c) (past : c < now)
    (alive : w.station.worker.batcher.hasEnded = false) :
    (handledIn (momentsBefore now strokes)).length <
      (formedIn (momentsBefore now strokes)).length := by
  induction run with
  | start => cases shut
  | @move history w t env act moments run step ih =>
    rw [momentsBefore_concat history (Nat.le_refl env.now)]
    rw [closing_concat] at shut
    cases before : closing history with
    | some d =>
      rw [before] at shut
      cases shut
      exact ih before past ((move_of_step step).going alive)
    | none =>
      rw [before, Option.none_or] at shut
      split at shut <;> cases shut
      exact absurd past (Nat.lt_irrefl _)
  | @tick history now w run rests ih =>
    rw [run.momentsBefore_succ]
    have closed : w.station.worker.intakeOpen ≠ true := by
      rw [← run.closing_isNone, shut]
      exact Bool.false_ne_true
    have finished := run.tallied.finished
    cases rests with
    | idle _ _ _ accepting | collecting _ _ _ _ accepting => exact absurd accepting closed
    | handling phase | backingOff phase =>
      rw [phase] at finished
      exact finished
    | ended phase =>
      rw [phase] at alive
      cases alive

theorem closing_concat_of_some (shut : closing strokes = some c) :
    closing (strokes ++ [x]) = some c := by
  rw [closing_concat, shut]
  rfl

/-- Until then a call waits for the batch task that has closed the intake. -/
def IsDeadline (settings : BatchSettings) (strokes : List Stroke) (deadline : Nat) : Prop :=
  ∃ shut, closing strokes = some shut ∧ deadline = shut + settings.stopTimeout

theorem IsDeadline.concat (h : IsDeadline settings strokes deadline) :
    IsDeadline settings (strokes ++ [x]) deadline := by
  obtain ⟨shut, closed, eq⟩ := h
  exact ⟨shut, closing_concat_of_some closed, eq⟩

/-- The deadline has come, and a batch is waited for that was formed before. -/
def Overdue (settings : BatchSettings) (strokes : List Stroke) (time : Nat) : Prop :=
  ∃ shut, closing strokes = some shut ∧ shut + settings.stopTimeout ≤ time ∧
    (shut < time → (handledIn (momentsBefore time strokes)).length <
      (formedIn (momentsBefore time strokes)).length)

theorem Overdue.concat (overdue : Overdue settings strokes time) (le : time ≤ x.time) :
    Overdue settings (strokes ++ [x]) time := by
  obtain ⟨shut, closed, due, pressed⟩ := overdue
  refine ⟨shut, closing_concat_of_some closed, due, ?_⟩
  rwa [momentsBefore_concat strokes le]

/-- How far a call that closes the worker has waited. -/
structure Awaiting (settings : BatchSettings) (strokes : List Stroke) (w : Workshop) : Prop where
  deadlines : ∀ (n deadline : Nat), w.disposals[n]? = some (Disposal.draining deadline) →
    IsDeadline settings strokes deadline
  cuts : ∀ x ∈ strokes, x.Cuts →
    x.entry.before.station.worker.batcher.hasEnded = true ∨ Overdue settings strokes x.time

namespace Awaiting

/-- If every batch was handled before the deadline, the call has not given up the batch task. -/
theorem uncut (awaiting : Awaiting settings strokes w) (closed : closing strokes = some c)
    (inTime : HandledBy (c + settings.stopTimeout) strokes) (long : 0 < settings.stopTimeout) :
    ∀ x ∈ strokes, x.Cuts → x.entry.before.station.worker.batcher.hasEnded = true := by
  intro x hx cuts
  refine (awaiting.cuts x hx cuts).resolve_right ?_
  rintro ⟨shut, closed', due, pressed⟩
  cases closed.symm.trans closed'
  have late := pressed (Nat.lt_of_lt_of_le (Nat.lt_add_of_pos_right long) due)
  exact absurd late (Nat.not_lt.mpr (inTime.length_le due))

end Awaiting

/-! ## What a worker that is waited for leaves -/

/-- Only a call that closes the worker, or whoever it works for, cancels it. -/
theorem Move.cut (move : Move env w act t moments) (live : w.station.worker.cancelled = false)
    (cancelled : t.station.worker.cancelled = true) : act = .cancel ∨ ∃ n, act = .disposal n := by
  cases move with
  | cancel => exact .inl rfl
  | @disposal n => exact .inr ⟨n, rfl⟩
  | intake call move =>
    rcases move.worker_eq with ⟨-, -, -, -, worker⟩ | ⟨-, worker⟩ <;> rw [worker] at cancelled <;>
      cases live.symm.trans cancelled
  | batch move =>
    rw [move.worker_eq] at cancelled
    cases live.symm.trans cancelled
  | handler ends =>
    rw [ends.worker_eq] at cancelled
    cases live.symm.trans cancelled
  | enqueue | dispose | elsewhere => cases live.symm.trans cancelled

/-- If no call that closes the worker cancels it while the batch task goes on, and nobody else does
so at all, the batch task is undisturbed. -/
theorem Timed.undisturbed (run : Timed t₀ (spawned env₀ m p settings) strokes now w)
    (alone : ∀ x ∈ strokes, x.entry.act ≠ .cancel)
    (uncut : ∀ x ∈ strokes, x.Cuts → x.entry.before.station.worker.batcher.hasEnded = true) :
    Undisturbed (strokes.map Stroke.entry) ∧ (w.station.worker.batcher.hasEnded = false →
      w.station.worker.cancelled = false) := by
  induction run with
  | start => exact ⟨by simp [Undisturbed], fun _ => by rw [spawned_worker]; rfl⟩
  | @move history w t env act moments run step ih =>
    have move := move_of_step step
    obtain ⟨undisturbed, live⟩ := ih (fun x hx => alone x (List.mem_append_left _ hx))
      fun x hx => uncut x (List.mem_append_left _ hx)
    refine ⟨fun e he alive => ?_, fun alive => ?_⟩
    · rw [List.map_append] at he
      rcases List.mem_append.mp he with he | he
      · exact undisturbed e he alive
      · cases List.mem_singleton.mp he
        exact live alive
    · have going := move.going alive
      by_contra cancelled
      have cancelled : t.station.worker.cancelled = true := by simpa using cancelled
      have here : (⟨env.now, ⟨w, act, moments⟩, t⟩ : Stroke) ∈
          history ++ [⟨env.now, ⟨w, act, moments⟩, t⟩] := List.mem_concat_self
      rcases move.cut (live going) cancelled with told | disposing
      · exact alone _ here told
      · cases (uncut _ here ⟨disposing, live going, cancelled⟩).symm.trans going
  | tick run rests ih => exact ih alone uncut

/-- Why a batch task has crashed. -/
inductive Broken (settings : BatchSettings) (strokes : List Stroke) : Prop
  | crashed {x : Stroke} (there : x ∈ strokes) (crash : x.crashes = true)
  /-- There was no room for a batch, and the record for which it was opened is in none. -/
  | overflowed (tight : ¬ settings.Roomy) (left : arrivals strokes strokes ≠ [])

theorem Timed.broken (run : Timed t₀ (spawned env₀ m p settings) strokes now w) {text : String}
    (ended : w.station.worker.batcher = .ended (some text)) : Broken settings strokes := by
  induction run with
  | start =>
    rw [spawned_worker] at ended
    cases ended
  | @move history w t env act moments run step ih =>
    have move := move_of_step step
    have here : (⟨env.now, ⟨w, act, moments⟩, t⟩ : Stroke) ∈
        history ++ [⟨env.now, ⟨w, act, moments⟩, t⟩] := List.mem_concat_self
    rcases act.batcher_cases with rfl | ⟨ending, rfl⟩ | aside
    · cases move with
      | batch move =>
        cases move with
        | @overflowed r rest idle live queue deadline size =>
          rw [run.settings_spawned] at size
          refine .overflowed (Nat.not_le.mpr size) ?_
          have waiting := run.map_fst_arrivals (by rw [idle]; rfl)
          rw [Worker.unbatched, idle, queue] at waiting
          rw [run.arrivals_concat (by simp [idle, Worker.endTask, Moment.ofBatcher])]
          intro none
          rw [(List.append_eq_nil_iff.mp none).1] at waiting
          cases waiting
        | crashed operating broken =>
          exact .crashed here (Stroke.crashes_of_broken operating broken)
        | _ => cases ended
    · cases move with
      | handler ends =>
        cases ends with
        | crashed => exact .crashed here rfl
        | handled | failed => cases ended
    · rw [move.batcher_eq aside] at ended
      cases ih ended with
      | crashed there crash => exact .crashed (List.mem_append_left _ there) crash
      | overflowed tight left =>
        refine .overflowed tight ?_
        rw [run.arrivals_concat (move.formedIn_eq aside)]
        exact fun none => left (List.append_eq_nil_iff.mp none).1
  | tick run rests ih => exact ih ended

end TopicConsumer.Workshop
