import TopicConsumer.Proofs.Worker.Conduct

/-!
# Workshops by the clock

A timed run is a run of a workshop on a clock that goes by milliseconds. Moves take no time, and
the clock goes on only when the batcher has nothing to do: it is the others that take their time,
the handler above all. `Timed t₀ w₀ history now w` says that such a run leads from `w₀` at the time
`t₀` to `w` at the time `now`. Its history is the list of its strokes, the moves with their times.

What the clock decides is stated once for each kind of move that looks at it: when the time of a
batch runs out, why a batch is complete, how long the batcher waits after a failure, and when it
goes on.
-/

namespace TopicConsumer

/-! ## What the batcher does by the clock -/

namespace Batcher

variable {env : Surroundings} {s t : Station} {events : List Event} {b : List Record}
  {n now later deadline wake : Nat}

/-- The batcher has nothing to do at this time. -/
inductive Rests (now : Nat) (s : Station) : Prop
  | idle (idle : s.worker.batcher = .idle) (live : s.worker.cancelled = false)
      (queue : s.worker.queue = []) (accepting : s.worker.intakeOpen = true)
  | collecting {b : List Record} {deadline : Nat}
      (collecting : s.worker.batcher = .collecting b deadline)
      (small : b.length < s.worker.settings.batchSize) (live : s.worker.cancelled = false)
      (queue : s.worker.queue = []) (accepting : s.worker.intakeOpen = true)
      (early : now < deadline)
  | handling {b : List Record} {n : Nat} (handling : s.worker.batcher = .handling b n)
      (live : s.worker.cancelled = false)
  | backingOff {b : List Record} {n wake : Nat} (waiting : s.worker.batcher = .backingOff b n wake)
      (live : s.worker.cancelled = false) (early : now < wake)
  | ended {crash : Option String} (ended : s.worker.batcher = .ended crash)

/-- Nothing but the time and the station decides whether the batcher has something to do. -/
theorem step_eq_none_iff : step env s = none ↔ Rests env.now s := by
  constructor
  · intro h
    unfold step at h
    split at h
    case h_1 idle =>
      split at h
      · cases h
      · next live =>
        split at h
        · cases h
        · next queue =>
          split at h
          · next accepting => exact .idle idle (by simpa using live) queue accepting
          · cases h
    case h_2 collecting =>
      split at h
      · cases h
      · next more =>
        simp only [Bool.or_eq_true, decide_eq_true_eq, not_or, Nat.not_le] at more
        split at h
        · cases h
        · next queue =>
          split at h
          · cases h
          · next waits =>
            simp only [Bool.or_eq_true, Bool.not_eq_true', decide_eq_true_eq, not_or,
              Bool.not_eq_false, Nat.not_le] at waits
            exact .collecting collecting more.1 (by simpa using more.2) queue waits.1 waits.2
    case h_6 handling =>
      split at h
      · cases h
      · next live => exact .handling handling (by simpa using live)
    case h_7 waiting =>
      split at h
      · cases h
      · next live =>
        split at h
        · cases h
        · next early => exact .backingOff waiting (by simpa using live) (Nat.lt_of_not_le early)
    case h_10 =>
      rw [Station.operate_eq] at h
      split at h
      split at h <;> cases h
    case h_11 ended => exact .ended ended
    all_goals first | cases h | (split at h <;> cases h)
  · intro rests
    cases rests with
    | idle idle live queue accepting => simp [step, idle, live, queue, accepting]
    | collecting collecting small live queue accepting early =>
      simp [step, collecting, Nat.not_le.mpr small, live, queue, accepting, Nat.not_le.mpr early]
    | handling handling live => simp [step, handling, live]
    | backingOff waiting live early => simp [step, waiting, live, Nat.not_le.mpr early]
    | ended ended => simp [step, ended]

instance : Decidable (Rests now s) :=
  decidable_of_iff ((step (.calm now) s).isNone = true)
    (by rw [Option.isNone_iff_eq_none]; exact step_eq_none_iff)

/-- What waits for a time has waited for it before. -/
theorem Rests.earlier (rests : Rests later s) (le : now ≤ later) : Rests now s := by
  cases rests with
  | idle idle live queue accepting => exact .idle idle live queue accepting
  | collecting collecting small live queue accepting early =>
    exact .collecting collecting small live queue accepting (Nat.lt_of_le_of_lt le early)
  | handling handling live => exact .handling handling live
  | backingOff waiting live early => exact .backingOff waiting live (Nat.lt_of_le_of_lt le early)
  | ended ended => exact .ended ended

/-- The time of a batch begins when it is opened. -/
theorem deadline_of_opened (h : step env s = some (t, events)) (idle : s.worker.batcher = .idle)
    (collecting : t.worker.batcher = .collecting b deadline) :
    deadline = env.now + s.worker.settings.batchTimeout := by
  simp only [step, idle] at h
  split at h
  · cases h
    cases collecting
  · split at h
    · cases h
      simp only [openBatch] at collecting
      split at collecting <;> cases collecting
      rfl
    · split at h <;> cases h
      cases collecting

/-- A batch is complete when it has its greatest size, or when its time has run out or the intake is
closed, and no record is left in the queue. -/
theorem reason_of_formed (h : step env s = some (t, events))
    (collecting : s.worker.batcher = .collecting b deadline)
    (checking : t.worker.batcher = .checking b n) (live : s.worker.cancelled = false) :
    s.worker.settings.batchSize ≤ b.length ∨
      s.worker.queue = [] ∧ (s.worker.intakeOpen = false ∨ deadline ≤ env.now) := by
  simp only [step, collecting, live, Bool.or_false, decide_eq_true_eq] at h
  split at h
  · next full => exact .inl full
  · split at h
    · cases h
      cases checking
    · next queue =>
      split at h
      · next complete => exact .inr ⟨queue, by simpa using complete⟩
      · cases h

theorem due_of_woken (h : step env s = some (t, events))
    (waiting : s.worker.batcher = .backingOff b n wake) (live : s.worker.cancelled = false) :
    wake ≤ env.now := by
  simp only [step, waiting, live, Bool.false_eq_true, if_false] at h
  split at h
  · next due => exact due
  · cases h

/-- After a failure the batcher waits for as long as the count of the failures says. -/
theorem pause_of_failed {fault : Fault}
    (h : handlerEnds env (.failed fault) s = some (t, events)) :
    ∃ b n, s.worker.batcher = .handling b n ∧
      let failures := Retry.countFailure n
      let pause := Retry.pause failures s.worker.settings.maxRetryDelay env.jitter
      t = s.at_ (.backingOff b failures (sleepEnd env.now pause)) ∧
        events = [.failed failures pause fault] := by
  unfold handlerEnds at h
  split at h
  · next b n handling =>
    split at h
    · cases h
    · cases h
      exact ⟨b, n, handling, rfl, rfl⟩
  · cases h

end Batcher

namespace Workshop

variable {t₀ now later : Nat} {w₀ w : Workshop}

/-! ## Timed runs -/

/-- A move with its time and the workshop after it. -/
structure Stroke where
  time : Nat
  entry : Entry
  after : Workshop

/-- A run on the clock, with its history. -/
inductive Timed (t₀ : Nat) (w₀ : Workshop) : List Stroke → Nat → Workshop → Prop
  | start : Timed t₀ w₀ [] t₀ w₀
  | move {history : List Stroke} {w t : Workshop} {env : Surroundings} {act : Act}
      {moments : List Moment} (run : Timed t₀ w₀ history env.now w)
      (step : w.step env act = some (t, moments)) :
      Timed t₀ w₀ (history ++ [⟨env.now, ⟨w, act, moments⟩, t⟩]) env.now t
  | tick {history : List Stroke} {now : Nat} {w : Workshop} (run : Timed t₀ w₀ history now w)
      (rests : Batcher.Rests now w.station) : Timed t₀ w₀ history (now + 1) w

variable {history : List Stroke}

namespace Timed

theorem start_le (run : Timed t₀ w₀ history now w) : t₀ ≤ now := by
  induction run with
  | start => exact Nat.le_refl t₀
  | move run step ih => exact ih
  | tick run rests ih => exact Nat.le_succ_of_le ih

theorem time_le (run : Timed t₀ w₀ history now w) : ∀ x ∈ history, x.time ≤ now := by
  induction run with
  | start => simp
  | move run step ih =>
    intro x hx
    rcases List.mem_append.mp hx with hx | hx
    · exact ih x hx
    · cases List.mem_singleton.mp hx
      exact Nat.le_refl _
  | tick run rests ih => exact fun x hx => Nat.le_succ_of_le (ih x hx)

/-- The moves of a timed run that keep to a rule are a run by this rule. -/
theorem obeying {rule : Workshop → Act → Bool} (run : Timed t₀ w₀ history now w)
    (may : ∀ x ∈ history, rule x.entry.before x.entry.act = true) :
    Run rule w₀ (history.map Stroke.entry) w := by
  induction run with
  | start => exact .start
  | move run step ih =>
    rw [List.map_append]
    exact (ih fun x hx => may x (List.mem_append_left _ hx)).step
      (may _ List.mem_concat_self) step
  | tick run rests ih => exact ih may

/-- The moves of a timed run are a run. -/
theorem run (run : Timed t₀ w₀ history now w) :
    Run (fun _ _ => true) w₀ (history.map Stroke.entry) w :=
  run.obeying fun _ _ => rfl

/-- The clock goes on to a time before which the batcher has nothing to do. -/
theorem wait (run : Timed t₀ w₀ history now w) (le : now ≤ later)
    (rests : now < later → Batcher.Rests (later - 1) w.station) :
    Timed t₀ w₀ history later w := by
  induction later with
  | zero => rwa [Nat.le_zero.mp le] at run
  | succ later ih =>
    rcases Nat.lt_or_eq_of_le le with lt | rfl
    · have rests : Batcher.Rests later w.station := rests lt
      exact .tick (ih (Nat.le_of_lt_succ lt) fun _ => rests.earlier (Nat.sub_le later 1)) rests
    · exact run

end Timed

/-- Makes the moves of a schedule one after the other, each at its time, and leaves out those that
cannot be made or for which the clock cannot go on: the history, the time and the workshop
afterwards. -/
def playTimed (now : Nat) (w : Workshop) :
    List (Surroundings × Act) → List Stroke × Nat × Workshop
  | [] => ([], now, w)
  | (env, act) :: rest =>
    match if now ≤ env.now ∧ (now < env.now → Batcher.Rests (env.now - 1) w.station) then
        w.step env act else none with
    | some (t, moments) =>
      let (history, last) := t.playTimed env.now rest
      (⟨env.now, ⟨w, act, moments⟩, t⟩ :: history, last)
    | none => w.playTimed now rest

/-- A schedule continues a timed run. -/
theorem Timed.play (run : Timed t₀ w₀ history now w) (schedule : List (Surroundings × Act)) :
    Timed t₀ w₀ (history ++ (w.playTimed now schedule).1) (w.playTimed now schedule).2.1
      (w.playTimed now schedule).2.2 := by
  induction schedule generalizing history now w with
  | nil => simpa [playTimed] using run
  | cons move rest ih =>
    obtain ⟨env, act⟩ := move
    rw [playTimed]
    split
    · next t moments made =>
      obtain ⟨⟨le, rests⟩, step⟩ := Option.ite_none_right_eq_some.mp made
      simpa using ih ((run.wait le rests).move step)
    · exact ih run

/-- A schedule is a timed run. -/
theorem timed_play (t₀ : Nat) (w₀ : Workshop) (schedule : List (Surroundings × Act)) :
    Timed t₀ w₀ (w₀.playTimed t₀ schedule).1 (w₀.playTimed t₀ schedule).2.1
      (w₀.playTimed t₀ schedule).2.2 :=
  Timed.start.play schedule

/-- The schedule of what is done at which times, in calm circumstances. -/
def timetable (table : List (Nat × List Act)) : List (Surroundings × Act) :=
  table.flatMap fun (now, acts) => acts.map (.calm now, ·)

/-! ## Moves of a workshop -/

section Moves

variable {env : Surroundings} {t : Workshop} {act : Act} {moments : List Moment}

theorem batcher_step_of_step (h : w.step env .batch = some (t, moments)) :
    ∃ u events, Batcher.step env w.station = some (u, events) ∧ t = { w with station := u } ∧
      moments = events.map .event ++
        Moment.ofBatcher w.station.worker.batcher u.worker.batcher := by
  simp only [step, bind, Option.bind_eq_some_iff, Prod.exists] at h
  obtain ⟨u, events, step, h⟩ := h
  cases h
  exact ⟨u, events, step, rfl, rfl⟩

theorem handlerEnds_of_step {ending : Batcher.Ending}
    (h : w.step env (.handler ending) = some (t, moments)) :
    ∃ u events, Batcher.handlerEnds env ending w.station = some (u, events) ∧
      t = { w with station := u } ∧
      moments = Moment.ofEnding w.station.worker.batcher.batch ending ++ events.map .event := by
  simp only [step, bind, Option.bind_eq_some_iff, Prod.exists] at h
  obtain ⟨u, events, ends, h⟩ := h
  cases h
  exact ⟨u, events, ends, rfl, rfl⟩

/-- Neither the batcher nor its handler moves. -/
def Act.IsAside (act : Act) : Prop := act ≠ .batch ∧ ∀ ending, act ≠ .handler ending

theorem Act.batcher_cases (act : Act) :
    act = .batch ∨ (∃ ending, act = .handler ending) ∨ act.IsAside := by
  cases act <;> simp [IsAside]

theorem Move.batcher_eq (move : Move env w act t moments) (aside : act.IsAside) :
    t.station.worker.batcher = w.station.worker.batcher := by
  cases move with
  | intake call move =>
    rcases move.worker_eq with ⟨-, -, -, -, worker⟩ | ⟨-, worker⟩ <;> rw [worker]
  | batch => exact absurd rfl aside.1
  | handler => exact absurd rfl (aside.2 _)
  | disposal call move => rw [move.worker_eq.1]
  | enqueue | dispose | cancel | elsewhere => rfl

theorem Move.settings_eq (move : Move env w act t moments) :
    t.station.worker.settings = w.station.worker.settings := by
  cases move with
  | intake call move =>
    rcases move.worker_eq with ⟨-, -, -, -, worker⟩ | ⟨-, worker⟩ <;> rw [worker]
  | batch move => rw [move.worker_eq]
  | handler ends => rw [ends.worker_eq]
  | disposal call move => rw [move.worker_eq.1]
  | enqueue | dispose | cancel | elsewhere => rfl

/-- A worker that is not cancelled has not been cancelled before. -/
theorem Move.live (move : Move env w act t moments) (live : t.station.worker.cancelled = false) :
    w.station.worker.cancelled = false := by
  cases h : w.station.worker.cancelled with
  | false => rfl
  | true => exact (move.cancelled h).symm.trans live

/-- A batch task that goes on has gone on before. -/
theorem Move.going (move : Move env w act t moments)
    (going : t.station.worker.batcher.hasEnded = false) :
    w.station.worker.batcher.hasEnded = false := by
  rcases act.batcher_cases with rfl | ⟨ending, rfl⟩ | aside
  · cases move with
    | batch move => exact move.alive
  · cases move with
    | handler ends => exact ends.alive
  · rwa [move.batcher_eq aside] at going

end Moves

/-! ## What timed runs keep -/

theorem Timed.partition_eq (run : Timed t₀ w₀ history now w) :
    w.station.worker.partition = w₀.station.worker.partition := by
  induction run with
  | start => rfl
  | move run step ih => exact (move_of_step step).partition_eq.trans ih
  | tick run rests ih => exact ih

theorem Timed.settings_eq (run : Timed t₀ w₀ history now w) :
    w.station.worker.settings = w₀.station.worker.settings := by
  induction run with
  | start => rfl
  | move run step ih => exact (move_of_step step).settings_eq.trans ih
  | tick run rests ih => exact ih

/-- The records of the batches come first, then those that wait to be put into one. -/
theorem Timed.arrayed {env : Surroundings} {m : Manager} {p : TopicPartition}
    {settings : BatchSettings} (run : Timed t₀ (spawned env m p settings) history now w) :
    Arrayed (history.map Stroke.entry) w :=
  run.run.invariant Arrayed (.spawned env m p settings) fun arrayed _ move => arrayed.move move

/-- Every batch that was formed has been handled, or the batcher works on it, or it is lost. -/
theorem Timed.tallied {env : Surroundings} {m : Manager} {p : TopicPartition}
    {settings : BatchSettings} (run : Timed t₀ (spawned env m p settings) history now w) :
    Tallied (history.map Stroke.entry) w :=
  run.run.invariant Tallied (.spawned env m p settings) fun tallied _ move => tallied.move move

end Workshop

end TopicConsumer
