import Mathlib.Data.List.Induction
import TopicConsumer.Proofs.Worker.Permits

/-!
# Calls that are turned away

A call that enqueues a record ends in an error when the worker is closed or cancelled. Such a call
has left no trace: no move of its own has changed anything but the number of free permits, and a
permit that it took was given back. `Workshop.run_justified` shows this for every run of a workshop,
and tells what has happened before.

If nobody cancels the worker or calls to close it, the worker stays active and no call is turned
away as long as the batch task goes on. It ends only by a crash, in the handler, in the broker, or
because no batch of the size that is set can be allocated. From then on the worker still counts as
active and says that it is disposed (`Workshop.exists_disposed_of_active`).
-/

namespace TopicConsumer

/-- The error in which the call has ended. -/
def Intake.error? : Intake → Option WorkerError
  | .returned (.error e) => some e
  | _ => none

theorem Intake.error?_eq_some {i : Intake} {e : WorkerError} :
    i.error? = some e ↔ i = .returned (.error e) := by
  constructor
  · intro h
    cases i with
    | returned result =>
      cases result with
      | error => cases h; rfl
      | ok => cases h
    | _ => cases h
  · rintro rfl
    rfl

/-- So far the call may still end in an error. -/
def Intake.Tentative : Intake → Prop
  | .rechecking | .resuming | .returned (.ok ()) | .crashed _ => False
  | _ => True

/-- As long as a call may end in an error, its moves change nothing but the number of free permits,
and what is missing of them the call holds. -/
theorem Intake.Move.of_tentative {env : Surroundings} {r : Record} {s t : Station} {i j : Intake}
    {events : List Event} (h : Intake.Move env r s i t j events) (tentative : j.Tentative) :
    i.Tentative ∧ t.manager = s.manager ∧
      t.worker = { s.worker with permits := t.worker.permits } ∧
      t.worker.permits + j.permits = s.worker.permits + i.permits := by
  cases h with
  | acquired attempt free => exact ⟨trivial, rfl, rfl, Nat.sub_add_cancel free⟩
  | turnedAway => exact ⟨trivial, rfl, rfl, rfl⟩
  | refused | welcomed | unpaused | current | fresh | exhausted | delayed | cancelled | woken =>
    exact ⟨trivial, rfl, rfl, rfl⟩
  | _ => exact tentative.elim

/-- A call is turned away by a worker that is not active, by a queue that takes no more records, or
by a worker that is cancelled. -/
theorem Intake.Move.of_error {env : Surroundings} {r : Record} {s t : Station} {i : Intake}
    {events : List Event} {e : WorkerError}
    (h : Intake.Move env r s i t (.returned (.error e)) events) :
    (∃ q, e = .disposed q) ∧ (s.worker.status ≠ .active ∨ s.worker.intakeOpen = false ∨
        s.worker.batcher.hasEnded = true) ∨
      (∃ q, e = .cancelled q) ∧ s.worker.cancelled = true := by
  cases h with
  | refused inactive => exact .inl ⟨⟨_, rfl⟩, .inl inactive⟩
  | turnedAway shut => exact .inl ⟨⟨_, rfl⟩, .inr shut⟩
  | cancelled _ _ told => exact .inr ⟨⟨_, rfl⟩, told⟩

/-- The worker takes records, with the settings that it was started with. -/
structure Worker.Serves (settings : BatchSettings) (v : Worker) : Prop where
  settled : v.settings = settings
  active : v.status = .active
  accepting : v.intakeOpen = true
  live : v.cancelled = false

/-- Only the switches of a worker tell whether it serves. -/
theorem Worker.Serves.of_eq {settings : BatchSettings} {u v : Worker} (serves : v.Serves settings)
    {queue : List Record} {permits : Nat} {latest : Option Offset} {batcher : Batcher}
    (same : u = { v with
      queue := queue, permits := permits, latestQueued := latest, batcher := batcher }) :
    u.Serves settings := by
  subst same
  exact ⟨serves.settled, serves.active, serves.accepting, serves.live⟩

namespace Workshop

/-- The moves of a history that has led to `w`, each with the workshop after it. -/
def strides : List Entry → Workshop → List (Entry × Workshop)
  | [], _ => []
  | [e], w => [(e, w)]
  | e :: f :: rest, w => (e, f.before) :: strides (f :: rest) w

theorem strides_concat (history : List Entry) (e : Entry) (w : Workshop) :
    strides (history ++ [e]) w = strides history e.before ++ [(e, w)] := by
  induction history with
  | nil => rfl
  | cons first rest ih =>
    cases rest with
    | nil => rfl
    | cons second rest => exact congrArg (List.cons _) ih

theorem map_fst_strides (history : List Entry) (w : Workshop) :
    (strides history w).map Prod.fst = history := by
  induction history using List.reverseRecOn generalizing w with
  | nil => rfl
  | append_singleton history e ih => rw [strides_concat, List.map_append, ih, List.map_singleton]

/-- The moves of the `n`-th call that enqueues a record. -/
def stridesOf (n : Nat) (history : List Entry) (w : Workshop) : List (Entry × Workshop) :=
  (strides history w).filter (·.1.act = .intake n)

/-- The move has changed neither the states of the partitions nor anything of the worker but how
many permits are free. -/
def Plain (move : Entry × Workshop) : Prop :=
  move.2.station.manager = move.1.before.station.manager ∧
    move.2.station.worker =
      { move.1.before.station.worker with permits := move.2.station.worker.permits }

/-- The permits that some moves have taken and not given back. -/
def borrowed : List (Entry × Workshop) → Int
  | [] => 0
  | (e, w) :: moves =>
    (e.before.station.worker.permits : Int) - w.station.worker.permits + borrowed moves

/-- The error in which the `n`-th call that enqueues a record has ended. -/
def error? (w : Workshop) (n : Nat) : Option WorkerError := w.calls[n]?.bind (·.2.error?)

/-- A crash with this text has ended the batch task of a worker with these settings. -/
inductive BroughtDown (settings : BatchSettings) (history : List Entry) (text : String) : Prop
  | handler (crashed : .handler (.crashed text) ∈ history.map Entry.act)
  | broker {e : Entry} {call : BrokerCall} (mem : e ∈ history) (batch : e.act = .batch)
      (crashed : .event (.call call (.crashed text)) ∈ e.moments)
  | size (large : Worker.greatestBatchBytes < settings.batchSize * Worker.recordBytes)
      (named : text = Worker.tooManyBytes)

/-- Whoever is turned away has been given a reason, and has left no trace. -/
structure Justified (settings : BatchSettings) (history : List Entry) (w : Workshop) : Prop where
  /-- Unless it was cancelled, a worker says that it is disposed only after somebody has called to
  close it, or when its batch task has crashed. -/
  disposed : ∀ n q, w.error? n = some (.disposed q) → .cancel ∉ history.map Entry.act →
    .dispose ∈ history.map Entry.act ∨
      ∃ text, w.station.worker.batcher = .ended (some text) ∧ BroughtDown settings history text
  cancelled : ∀ n q, w.error? n = some (.cancelled q) →
    .cancel ∈ history.map Entry.act ∨ .dispose ∈ history.map Entry.act
  untouched : ∀ n e, w.error? n = some e → ∀ move ∈ stridesOf n history w, Plain move
  repaid : ∀ n e, w.error? n = some e → borrowed (stridesOf n history w) = 0

variable {settings : BatchSettings} {env : Surroundings} {history : List Entry} {w t : Workshop}
  {act : Act} {moments : List Moment} {n : Nat}

theorem error?_eq_some {e : WorkerError} :
    w.error? n = some e ↔ ∃ r, w.calls[n]? = some (r, .returned (.error e)) := by
  simp only [error?, Option.bind_eq_some_iff, Prod.exists, Intake.error?_eq_some,
    exists_eq_right]

/-- When a call begins, whatever call there is was there before, or it has just begun. -/
theorem calls_enqueue {calls : List (Record × Intake)} {r s : Record} {i : Intake}
    (call : (calls ++ [(r, .checkingStatus)])[n]? = some (s, i)) :
    calls[n]? = some (s, i) ∨ n = calls.length ∧ i = .checkingStatus := by
  by_cases old : n < calls.length
  · rw [List.getElem?_append_left old] at call
    exact .inl call
  · have new := Nat.le_of_not_lt old
    rw [List.getElem?_append_right new, List.getElem?_singleton] at call
    obtain ⟨first, same⟩ := Option.ite_none_right_eq_some.mp call
    cases same
    exact .inr ⟨Nat.le_antisymm (Nat.le_of_sub_eq_zero first) new, rfl⟩

/-! ## The moves of one call -/

theorem stridesOf_concat_self :
    stridesOf n (history ++ [⟨w, .intake n, moments⟩]) t =
      stridesOf n history w ++ [(⟨w, .intake n, moments⟩, t)] := by
  simp [stridesOf, strides_concat]

theorem stridesOf_concat_of_ne (other : act ≠ .intake n) :
    stridesOf n (history ++ [⟨w, act, moments⟩]) t = stridesOf n history w := by
  simp [stridesOf, strides_concat, other]

theorem borrowed_concat (moves : List (Entry × Workshop)) (e : Entry) (t : Workshop) :
    borrowed (moves ++ [(e, t)]) =
      borrowed moves + ((e.before.station.worker.permits : Int) - t.station.worker.permits) := by
  induction moves with
  | nil => simp [borrowed]
  | cons first moves ih =>
    rw [List.cons_append, borrowed, borrowed, ih]
    omega

/-- All that is left of some moves are the permits that the call holds where it stands. -/
def Faint (moves : List (Entry × Workshop)) (i : Intake) : Prop :=
  (∀ move ∈ moves, Plain move) ∧ borrowed moves = i.permits

/-- One more move of a call that may end in an error leaves nothing else. -/
theorem Faint.concat {moves : List (Entry × Workshop)} {r : Record} {i j : Intake} {s : Station}
    {events : List Event} (faint : i.Tentative → Faint moves i)
    (move : Intake.Move env r w.station i s j events) (tentative : j.Tentative)
    (here : t.station = s) : Faint (moves ++ [(⟨w, act, moments⟩, t)]) j := by
  subst here
  obtain ⟨before, manager, worker, permits⟩ := move.of_tentative tentative
  obtain ⟨plain, held⟩ := faint before
  constructor
  · intro m mem
    rcases List.mem_append.mp mem with old | new
    · exact plain m old
    · rw [List.mem_singleton.mp new]
      exact ⟨manager, worker⟩
  · rw [borrowed_concat, held]
    dsimp only
    omega

/-- A call that may still end in an error has left nothing, and no call has moved that is still to
begin. -/
structure Traceless (history : List Entry) (w : Workshop) : Prop where
  begun : ∀ e ∈ history, ∀ n, e.act = .intake n → n < w.calls.length
  faint : ∀ n r i, w.calls[n]? = some (r, i) → i.Tentative → Faint (stridesOf n history w) i

namespace Traceless

theorem begun_concat (traceless : Traceless history w) (more : w.calls.length ≤ t.calls.length)
    (own : ∀ n, act = .intake n → n < t.calls.length) :
    ∀ e ∈ history ++ [⟨w, act, moments⟩], ∀ n, e.act = .intake n → n < t.calls.length := by
  intro e mem n moves
  rcases List.mem_append.mp mem with old | new
  · exact Nat.lt_of_lt_of_le (traceless.begun e old n moves) more
  · rw [List.mem_singleton.mp new] at moves
    exact own n moves

/-- Moves of others leave no trace of a call. -/
theorem aside (traceless : Traceless history w) (calls : t.calls = w.calls)
    (other : ∀ n, act ≠ .intake n) : Traceless (history ++ [⟨w, act, moments⟩]) t where
  begun := by
    apply traceless.begun_concat (Nat.le_of_eq (by rw [calls]))
    exact fun n own => absurd own (other n)
  faint n r i call := by
    rw [calls] at call
    rw [stridesOf_concat_of_ne (other n)]
    exact traceless.faint n r i call

theorem stridesOf_eq_nil (traceless : Traceless history w) :
    stridesOf w.calls.length history w = [] := by
  apply List.filter_eq_nil_iff.mpr
  intro m mem own
  have there : m.1 ∈ history := by
    rw [← map_fst_strides history w]
    exact List.mem_map_of_mem mem
  exact Nat.lt_irrefl _ (traceless.begun m.1 there _ (of_decide_eq_true own))

theorem move (traceless : Traceless history w) (move : Move env w act t moments) :
    Traceless (history ++ [⟨w, act, moments⟩]) t := by
  cases move with
  | enqueue r =>
    constructor
    case begun =>
      apply traceless.begun_concat
      · simp
      · exact fun n own => nomatch own
    case faint =>
      intro n s i call tentative
      rw [stridesOf_concat_of_ne (by simp)]
      rcases calls_enqueue call with old | ⟨rfl, rfl⟩
      · exact traceless.faint n s i old tentative
      · rw [traceless.stridesOf_eq_nil]
        exact ⟨by simp, rfl⟩
  | @intake k r i j s events call move =>
    have bound : k < w.calls.length := (List.getElem?_eq_some_iff.mp call).1
    constructor
    case begun =>
      apply traceless.begun_concat
      · simp
      · rintro n ⟨⟩
        simpa using bound
    case faint =>
      intro n u l there tentative
      by_cases own : n = k
      · subst own
        rw [List.getElem?_set_self bound] at there
        cases there
        rw [stridesOf_concat_self]
        exact Faint.concat (traceless.faint n r i call) move tentative rfl
      · rw [List.getElem?_set_ne (Ne.symm own)] at there
        rw [stridesOf_concat_of_ne (by simpa using Ne.symm own)]
        exact traceless.faint n u l there tentative
  | batch | handler | dispose | disposal | cancel | elsewhere => exact traceless.aside rfl nofun

end Traceless

/-! ## While nobody closes the worker -/

theorem BroughtDown.concat {text : String} (down : BroughtDown settings history text) (e : Entry) :
    BroughtDown settings (history ++ [e]) text := by
  cases down with
  | handler crashed =>
    apply BroughtDown.handler
    rw [List.map_append]
    exact List.mem_append_left _ crashed
  | broker mem batch crashed => exact .broker (List.mem_append_left _ mem) batch crashed
  | size large named => exact .size large named

/-- What holds as long as nobody cancels the worker or calls to close it. -/
structure Serving (settings : BatchSettings) (history : List Entry) (w : Workshop) : Prop where
  serves : w.station.worker.Serves settings
  undisturbed : w.disposals = []
  ended : ∀ crash, w.station.worker.batcher = .ended crash →
    ∃ text, crash = some text ∧ BroughtDown settings history text
  /-- No call is turned away before the batch task has ended, and none is cancelled. -/
  dismissed : ∀ n e, w.error? n = some e →
    (∃ q, e = .disposed q) ∧ w.station.worker.batcher.hasEnded = true

namespace Serving

theorem ended_concat (serving : Serving settings history w) (e : Entry) (crash : Option String)
    (ended : w.station.worker.batcher = .ended crash) :
    ∃ text, crash = some text ∧ BroughtDown settings (history ++ [e]) text := by
  obtain ⟨text, crashed, down⟩ := serving.ended crash ended
  exact ⟨text, crashed, down.concat e⟩

theorem intake {k : Nat} {r : Record} {i j : Intake} {s : Station} {events : List Event}
    (serving : Serving settings history w) (call : w.calls[k]? = some (r, i))
    (move : Intake.Move env r w.station i s j events) (e : Entry) :
    Serving settings (history ++ [e]) { w with station := s, calls := w.calls.set k (r, j) } := by
  obtain ⟨queue, permits, latest, same⟩ : ∃ queue permits latest, s.worker =
      { w.station.worker with queue := queue, permits := permits, latestQueued := latest } := by
    rcases move.worker_eq with ⟨-, -, -, -, worker⟩ | ⟨-, worker⟩ <;>
      exact ⟨_, _, _, worker⟩
  constructor
  case serves => exact serving.serves.of_eq same
  case undisturbed => exact serving.undisturbed
  case ended =>
    rw [same]
    exact serving.ended_concat e
  case dismissed =>
    intro n error dismissed
    obtain ⟨u, there⟩ := error?_eq_some.mp dismissed
    rw [same]
    by_cases own : n = k
    · subst own
      rw [List.getElem?_set_self (List.getElem?_eq_some_iff.mp call).1] at there
      cases there
      rcases move.of_error with ⟨disposed, inactive | shut | ended⟩ | ⟨-, told⟩
      · exact absurd serving.serves.active inactive
      · cases serving.serves.accepting.symm.trans shut
      · exact ⟨disposed, ended⟩
      · cases serving.serves.live.symm.trans told
    · rw [List.getElem?_set_ne (Ne.symm own)] at there
      exact serving.dismissed n error (error?_eq_some.mpr ⟨u, there⟩)

/-- While the batch task goes on, no call has been turned away. -/
theorem not_dismissed (serving : Serving settings history w)
    (alive : w.station.worker.batcher.hasEnded = false) (n : Nat) (e : WorkerError) :
    w.error? n ≠ some e := by
  intro dismissed
  cases alive.symm.trans (serving.dismissed n e dismissed).2

theorem batcher {s : Station} {events : List Event} (serving : Serving settings history w)
    (move : Batcher.Move env w.station s events) (moments : List Moment) :
    Serving settings
      (history ++ [⟨w, .batch, events.map .event ++ moments⟩]) { w with station := s } := by
  have none := serving.not_dismissed move.alive
  constructor
  case serves => exact serving.serves.of_eq move.worker_eq
  case undisturbed => exact serving.undisturbed
  case dismissed => exact fun n e dismissed => absurd dismissed (none n e)
  case ended =>
    intro crash ended
    cases move with
    | finish idle finished =>
      rcases finished with told | ⟨-, shut⟩
      · cases serving.serves.live.symm.trans told
      · cases serving.serves.accepting.symm.trans shut
    | overflowed _ _ _ _ large =>
      cases ended
      rw [serving.serves.settled] at large
      exact ⟨_, rfl, .size large rfl⟩
    | @crashed op text operating broken =>
      cases ended
      have own : ∀ reading, op ≠ .assign reading := by
        rintro reading rfl
        rcases operating with ⟨last, -, assigned⟩ | ⟨-, assigned⟩ <;> cases assigned
      obtain ⟨call, mem⟩ := Station.exists_crashed_call env _ op _ broken own
      refine ⟨text, rfl, ?_⟩
      apply BroughtDown.broker List.mem_concat_self rfl
      exact List.mem_append_left _ (List.mem_map_of_mem mem)
    | _ => cases ended

theorem handler {s : Station} {ending : Batcher.Ending} {events : List Event}
    (serving : Serving settings history w)
    (ends : Batcher.Ends env w.station ending s events) (moments : List Moment) :
    Serving settings (history ++ [⟨w, .handler ending, moments⟩]) { w with station := s } := by
  have none := serving.not_dismissed ends.alive
  constructor
  case serves => exact serving.serves.of_eq ends.worker_eq
  case undisturbed => exact serving.undisturbed
  case dismissed => exact fun n e dismissed => absurd dismissed (none n e)
  case ended =>
    intro crash ended
    cases ends with
    | handled | failed => cases ended
    | crashed =>
      cases ended
      refine ⟨_, rfl, .handler ?_⟩
      rw [List.map_append]
      exact List.mem_concat_self

theorem move (serving : Serving settings history w) (move : Move env w act t moments)
    (uncancelled : act ≠ .cancel) (unclosed : act ≠ .dispose) :
    Serving settings (history ++ [⟨w, act, moments⟩]) t := by
  cases move with
  | enqueue r =>
    constructor
    case serves => exact serving.serves
    case undisturbed => exact serving.undisturbed
    case ended => exact serving.ended_concat _
    case dismissed =>
      intro n e dismissed
      obtain ⟨u, there⟩ := error?_eq_some.mp dismissed
      rcases calls_enqueue there with old | ⟨-, new⟩
      · exact serving.dismissed n e (error?_eq_some.mpr ⟨u, old⟩)
      · cases new
  | intake call move => exact serving.intake call move _
  | batch move => exact serving.batcher move _
  | handler ends => exact serving.handler ends _
  | dispose => exact absurd rfl unclosed
  | disposal call =>
    rw [serving.undisturbed] at call
    cases call
  | cancel => exact absurd rfl uncancelled
  | elsewhere p op =>
    exact ⟨serving.serves, serving.undisturbed, serving.ended_concat _, serving.dismissed⟩

end Serving

theorem Run.serving {rule : Workshop → Act → Bool} {m : Manager} {p : TopicPartition}
    (run : Run rule (spawned env m p settings) history w)
    (uncancelled : .cancel ∉ history.map Entry.act) (unclosed : .dispose ∉ history.map Entry.act) :
    Serving settings history w := by
  induction run with
  | start =>
    refine ⟨?_, rfl, fun crash ended => ?_, fun n e dismissed => ?_⟩
    · rw [spawned_worker]
      exact ⟨rfl, rfl, rfl, rfl⟩
    · rw [spawned_worker] at ended
      cases ended
    · cases dismissed
  | step run may step ih =>
    simp only [List.map_append, List.map_singleton, List.mem_append, List.mem_singleton,
      not_or] at uncancelled unclosed
    apply (ih uncancelled.1 unclosed.1).move (move_of_step step)
    · exact Ne.symm uncancelled.2
    · exact Ne.symm unclosed.2

theorem Run.traceless {rule : Workshop → Act → Bool} {m : Manager} {p : TopicPartition}
    (run : Run rule (spawned env m p settings) history w) : Traceless history w := by
  apply run.invariant Traceless
  · constructor
    · simp
    · exact fun n r i call => nomatch call
  · exact fun traceless _ move => traceless.move move

/-- However a worker is run, whoever it turns away has been given a reason and has left no trace. -/
theorem run_justified {rule : Workshop → Act → Bool} {m : Manager} {p : TopicPartition}
    (run : Run rule (spawned env m p settings) history w) : Justified settings history w := by
  have faint : ∀ n e, w.error? n = some e →
      Faint (stridesOf n history w) (.returned (.error e)) := by
    intro n e dismissed
    obtain ⟨r, call⟩ := error?_eq_some.mp dismissed
    exact run.traceless.faint n r _ call trivial
  constructor
  case disposed =>
    intro n q dismissed uncancelled
    by_cases unclosed : .dispose ∈ history.map Entry.act
    · exact .inl unclosed
    · have serving := run.serving uncancelled unclosed
      have ended := (serving.dismissed n _ dismissed).2
      cases phase : w.station.worker.batcher with
      | ended crash =>
        obtain ⟨text, rfl, down⟩ := serving.ended crash phase
        exact .inr ⟨text, rfl, down⟩
      | _ =>
        rw [phase] at ended
        cases ended
  case cancelled =>
    intro n q dismissed
    by_contra silent
    rw [not_or] at silent
    obtain ⟨⟨_, other⟩, -⟩ := (run.serving silent.1 silent.2).dismissed n _ dismissed
    cases other
  case untouched => exact fun n e dismissed => (faint n e dismissed).1
  case repaid => exact fun n e dismissed => (faint n e dismissed).2

theorem crowded_justified :
    let settings : BatchSettings := { batchSize := 1, queueCapacity := 2 }
    let p : TopicPartition := ⟨"orders", 0⟩
    let run := (spawned (.calm 0) .empty p settings).play (fun _ _ => true) (crowded p)
    Justified settings run.1 run.2 ∧ run.2.error? 2 = some (.disposed p) ∧
      (stridesOf 2 run.1 run.2).map (fun m =>
        (m.1.before.station.worker.permits : Int) - m.2.station.worker.permits) =
          [0, 0, 0, 0, 0, 0, 1, -1] := by
  exact ⟨run_justified (run_play _ _ _), by decide +kernel, by decide +kernel⟩

/-- A call may be told that the worker is disposed though it is active, and nobody has cancelled it
or called to close it. -/
theorem exists_disposed_of_active :
    ∃ history w, Run (fun _ _ => true) (spawned (.calm 0) .empty ⟨"orders", 0⟩
        { batchSize := 1, queueCapacity := 2 }) history w ∧
      .cancel ∉ history.map Entry.act ∧ .dispose ∉ history.map Entry.act ∧
      w.station.worker.status = .active ∧ ∃ n q, w.error? n = some (.disposed q) := by
  refine ⟨_, _, run_play _ _ (crowded ⟨"orders", 0⟩), ?_, ?_, ?_, 2, ⟨"orders", 0⟩, ?_⟩
  all_goals decide +kernel

end Workshop

end TopicConsumer
