import TopicConsumer.Proofs.Worker.Admission
import TopicConsumer.Proofs.Worker.Withdrawal

/-!
# What becomes of admitted records

Three accounts are kept along every run of a workshop. `Workshop.Arrayed` says that the batches
take up the admitted records in the order of their admission, and that a batch task that ends by
itself, without having been cancelled, has left none of them. `Workshop.Tallied` counts the batches:
each one that was formed is handled, or being worked on, or lost, and one that is abandoned is lost.
`Workshop.Noted` says that the position behind the last handled batch is the one that is cached, as
long as nobody else writes to the cache, and in the end the one that is committed.
-/

namespace TopicConsumer

/-- The batch that was handled. -/
def Moment.handled? : Moment → Option (List Record)
  | .handled b => some b
  | _ => none

/-- The batches from which the handler returned without an error, in order. -/
def handledIn (history : List Moment) : List (List Record) := history.filterMap Moment.handled?

@[simp] theorem handledIn_nil : handledIn [] = [] := rfl

@[simp] theorem handledIn_append (h k : List Moment) :
    handledIn (h ++ k) = handledIn h ++ handledIn k :=
  List.filterMap_append ..

@[simp] theorem handledIn_map_event (es : List Event) : handledIn (es.map .event) = [] := by
  induction es with
  | nil => rfl
  | cons e es ih => exact ih

@[simp] theorem handledIn_ofIntake (r : Record) (s : Station) (i j : Intake) :
    handledIn (Moment.ofIntake r s i j) = [] := by
  unfold Moment.ofIntake
  split <;> rfl

@[simp] theorem handledIn_ofBatcher (b c : Batcher) : handledIn (Moment.ofBatcher b c) = [] := by
  unfold Moment.ofBatcher
  split <;> rfl

/-- The handler was left alone with a batch. -/
def Abandons (history : List Moment) : Prop := ∃ b, .event (.abandoned b) ∈ history

theorem abandons_append {h k : List Moment} : Abandons (h ++ k) ↔ Abandons h ∨ Abandons k := by
  simp [Abandons, exists_or]

/-! ## Events that are about no batch -/

/-- A line is logged, or the state manager is at work. -/
def Event.IsWork : Event → Prop
  | .log _ | .operation _ _ | .call _ _ => True
  | _ => False

theorem Station.isWork_performing {env : Surroundings} {p : TopicPartition} {op : StateOp}
    {s : Station} {e : Event} (he : e ∈ s.performing env p op) : e.IsWork := by
  simp only [performing, List.cons_append, List.mem_cons, List.mem_append, List.mem_map] at he
  rcases he with rfl | ⟨c, -, rfl⟩ | ⟨line, -, rfl⟩ <;> trivial

theorem Intake.Move.isWork {env : Surroundings} {r : Record} {s t : Station} {i j : Intake}
    {events : List Event} (h : Intake.Move env r s i t j events) {e : Event} (he : e ∈ events) :
    e.IsWork := by
  cases h with
  | paused | pauseCrashed | resumed | resumeCrashed => exact Station.isWork_performing he
  | leftOutPaused | leftOutStale | leftOutQueued | exhausted | admitted | found =>
    rw [List.mem_singleton.mp he]
    trivial
  | _ => cases he

theorem Disposal.Move.isWork {env : Surroundings} {s t : Station} {d e : Disposal}
    {events : List Event} (h : Disposal.Move env s d t e events) {f : Event} (hf : f ∈ events) :
    f.IsWork := by
  cases h with
  | committed | resumed | revoked | crashed => exact Station.isWork_performing hf
  | claimed | closed =>
    rw [List.mem_singleton.mp hf]
    trivial
  | @drained _ crash | @aborted crash =>
    cases crash with
    | none => cases hf
    | some text =>
      rw [List.mem_singleton.mp hf]
      trivial
  | _ => cases hf

theorem not_abandons_of_isWork {events : List Event} (work : ∀ e ∈ events, e.IsWork) :
    ¬ Abandons (events.map .event) := by
  rintro ⟨b, mem⟩
  obtain ⟨e, he, h⟩ := List.mem_map.mp mem
  cases h
  exact work _ he

/-! ## Formed batches -/

/-- How many formed batches the batcher is working on and has not seen handled. -/
def Batcher.engaged : Batcher → Nat
  | .checking _ _ | .comparing _ _ | .starting _ _ | .handling _ _ | .backingOff _ _ _ => 1
  | _ => 0

/-- The batcher works on a batch that it has formed, or that it forms now, and loses it if it
abandons it. -/
theorem Batcher.Move.engaged {env : Surroundings} {s t : Station} {events : List Event}
    (h : Batcher.Move env s t events) :
    let formed := formedIn (Moment.ofBatcher s.worker.batcher t.worker.batcher)
    t.worker.batcher.engaged ≤ s.worker.batcher.engaged + formed.length ∧
      (Abandons (events.map .event) →
        t.worker.batcher.engaged < s.worker.batcher.engaged + formed.length) := by
  have work : (∀ e ∈ events, e.IsWork) → ¬ Abandons (events.map .event) := not_abandons_of_isWork
  cases h with
  | givenUp trying =>
    have one : s.worker.batcher.engaged = 1 := by
      rcases trying with phase | phase | phase | ⟨wake, phase⟩ <;> rw [phase] <;> rfl
    rw [one]
    exact ⟨Nat.zero_le _, fun _ => Nat.lt_of_lt_of_le Nat.one_pos (Nat.le_add_right 1 _)⟩
  | stored | crashed =>
    exact ⟨Nat.zero_le _, fun h => absurd h (work fun _ => Station.isWork_performing)⟩
  | resumed resuming fine line =>
    refine ⟨Nat.zero_le _, fun h => absurd h (work fun e he => ?_)⟩
    rcases List.mem_append.mp he with he | he
    · exact Station.isWork_performing he
    · rw [List.mem_singleton.mp he]
      trivial
  | finish | skipped =>
    refine ⟨Nat.zero_le _, fun h => absurd h (work fun e he => ?_)⟩
    rw [List.mem_singleton.mp he]
    trivial
  | handed starting =>
    rw [starting]
    exact ⟨Nat.le_refl 1, by simp [Abandons]⟩
  | formed phase | checked phase | compared phase | woken phase =>
    rw [phase]
    exact ⟨Nat.le_refl 1, by simp [Abandons]⟩
  | opened | overflowed | taken | released => exact ⟨Nat.zero_le _, by simp [Abandons]⟩

namespace Workshop

variable {p : TopicPartition} {history : List Entry} {env : Surroundings} {w t : Workshop}
  {act : Act} {moments : List Moment}

/-! ## Batches take up the admitted records -/

/-- As long as the batch task has gone on, the worker has not been cancelled. -/
def Undisturbed (history : List Entry) : Prop :=
  ∀ e ∈ history, e.before.station.worker.batcher.hasEnded = false →
    e.before.station.worker.cancelled = false

/-- The records of the batches come first, then those that wait to be put into one. A batch task
that ends undisturbed leaves none of these. -/
def Arrayed (history : List Entry) (w : Workshop) : Prop :=
  ∃ rest, admittedIn (momentsIn history) = (formedIn (momentsIn history)).flatten ++ rest ∧
    (w.station.worker.batcher.hasEnded = false → rest = w.station.worker.unbatched) ∧
    (w.station.worker.batcher = .ended none → Undisturbed history → rest = [])

namespace Arrayed

theorem spawned (env : Surroundings) (m : Manager) (p : TopicPartition) (settings : BatchSettings) :
    Arrayed [] (spawned env m p settings) :=
  ⟨[], by simp, by simp [Worker.fresh, Worker.unbatched, Batcher.gathered], fun _ _ => rfl⟩

/-- What admits no record and forms no batch changes nothing, unless the batch task ends. -/
theorem neutral (arrayed : Arrayed history w) {e : Entry} (admitted : admittedIn e.moments = [])
    (formed : formedIn e.moments = [])
    (alive : t.station.worker.batcher.hasEnded = false →
      w.station.worker.batcher.hasEnded = false ∧
        t.station.worker.unbatched = w.station.worker.unbatched)
    (ended : t.station.worker.batcher = .ended none → Undisturbed (history ++ [e]) →
      w.station.worker.batcher = .ended none ∨
        w.station.worker.batcher.hasEnded = false ∧ w.station.worker.unbatched = []) :
    Arrayed (history ++ [e]) t := by
  obtain ⟨rest, eq, live, left⟩ := arrayed
  refine ⟨rest, ?_, fun h => ?_, fun h undisturbed => ?_⟩
  · rw [momentsIn_concat, admittedIn_append, formedIn_append, admitted, formed, List.append_nil,
      List.append_nil, eq]
  · rw [(alive h).2, live (alive h).1]
  · rcases ended h undisturbed with before | ⟨before, none⟩
    · exact left before fun f hf => undisturbed f (List.mem_append_left _ hf)
    · rw [live before, none]

theorem batch {s : Station} {events : List Event} (arrayed : Arrayed history w)
    (move : Batcher.Move env w.station s events) :
    Arrayed (history ++ [⟨w, .batch,
      events.map .event ++ Moment.ofBatcher w.station.worker.batcher s.worker.batcher⟩])
      { w with station := s } := by
  rcases move.unbatched with ⟨b, deadline, collecting, checking, queue⟩ | ⟨neutral, unbatched⟩
  · obtain ⟨rest, eq, live, -⟩ := arrayed
    refine ⟨w.station.worker.queue, ?_, fun _ => ?_, fun h => ?_⟩
    · have before : rest = b ++ w.station.worker.queue := by
        rw [live (by rw [collecting]; rfl), Worker.unbatched, collecting]
        rfl
      have admitted : admittedIn (Moment.ofBatcher (.collecting b deadline) (.checking b 0)) = [] :=
        rfl
      have formed : formedIn (Moment.ofBatcher (.collecting b deadline) (.checking b 0)) = [b] :=
        rfl
      rw [momentsIn_concat, admittedIn_append, formedIn_append, eq, before, collecting, checking,
        admittedIn_append, formedIn_append, admitted, formed]
      simp
    · rw [Worker.unbatched, queue, checking]
      rfl
    · cases checking.symm.trans h
  · have quiet := (Neutral.map_event events).append neutral
    refine arrayed.neutral quiet.admittedIn_eq quiet.formedIn_eq unbatched fun h undisturbed => ?_
    cases move with
    | finish idle finished =>
      -- Nobody has cancelled the worker, so that the queue was empty.
      have alive : w.station.worker.batcher.hasEnded = false := by rw [idle]; rfl
      have live := undisturbed _ List.mem_concat_self alive
      rcases finished with cancelled | ⟨empty, -⟩
      · cases live.symm.trans cancelled
      · refine .inr ⟨alive, ?_⟩
        rw [Worker.unbatched, idle, empty]
        rfl
    | _ => cases h

theorem move (arrayed : Arrayed history w) (move : Move env w act t moments) :
    Arrayed (history ++ [⟨w, act, moments⟩]) t := by
  cases move with
  | @intake n r i j s events call move =>
    rcases move.worker_eq with ⟨rfl, rfl, -, alive, worker⟩ | ⟨unadmitted, worker⟩
    · obtain ⟨rest, eq, live, left⟩ := arrayed
      have here : s.worker.batcher = w.station.worker.batcher := by rw [worker]
      refine ⟨rest ++ [r], ?_, fun _ => ?_, fun h => ?_⟩
      · have admitted : admittedIn (Moment.ofIntake r w.station .admitting (.returned (.ok ()))) =
            [r] := rfl
        have formed : formedIn (Moment.ofIntake r w.station .admitting (.returned (.ok ()))) = [] :=
          rfl
        rw [momentsIn_concat, admittedIn_append, formedIn_append, eq, admittedIn_append,
          formedIn_append, admitted, formed]
        simp
      · rw [worker, live alive]
        simp [Worker.unbatched]
      · rw [← here, h] at alive
        cases alive
    · have quiet : Neutral (events.map .event ++ Moment.ofIntake r w.station i j) :=
        (Neutral.map_event events).append (Neutral.ofIntake unadmitted)
      refine arrayed.neutral quiet.admittedIn_eq quiet.formedIn_eq ?_ fun h _ => ?_
      · rw [worker]
        exact fun alive => ⟨alive, rfl⟩
      · rw [worker] at h
        exact .inl h
  | batch move => exact arrayed.batch move
  | @handler ending s events ends =>
    have quiet := (Neutral.ofEnding w.station.worker.batcher.batch ending).append
      (Neutral.map_event events)
    refine arrayed.neutral quiet.admittedIn_eq quiet.formedIn_eq ends.unbatched.1 fun h _ => ?_
    cases ends <;> cases h
  | @disposal n d e s events call move =>
    have quiet := Neutral.map_event events
    refine arrayed.neutral quiet.admittedIn_eq quiet.formedIn_eq ?_ fun h _ => ?_
    · rw [move.worker_eq.1]
      exact fun alive => ⟨alive, rfl⟩
    · rw [move.worker_eq.1] at h
      exact .inl h
  | elsewhere q op =>
    have quiet := Neutral.map_event (w.station.performing env q op)
    exact arrayed.neutral quiet.admittedIn_eq quiet.formedIn_eq (fun alive => ⟨alive, rfl⟩)
      fun h _ => .inl h
  | enqueue | dispose | cancel =>
    exact arrayed.neutral rfl rfl (fun alive => ⟨alive, rfl⟩) fun h _ => .inl h

end Arrayed

/-! ## Batches are handled or lost -/

/-- Every formed batch has been handled, or the batcher works on it, or it is lost. -/
structure Tallied (history : List Entry) (w : Workshop) : Prop where
  filled : w.station.worker.batcher.Filled
  nonempty : ∀ b ∈ formedIn (momentsIn history), b ≠ []
  finished : (handledIn (momentsIn history)).length + w.station.worker.batcher.engaged ≤
    (formedIn (momentsIn history)).length
  abandoned : Abandons (momentsIn history) →
    (handledIn (momentsIn history)).length + w.station.worker.batcher.engaged <
      (formedIn (momentsIn history)).length

namespace Tallied

theorem spawned (env : Surroundings) (m : Manager) (p : TopicPartition) (settings : BatchSettings) :
    Tallied [] (spawned env m p settings) where
  filled := by rw [spawned_worker]; trivial
  nonempty := by simp
  finished := by simp [Worker.fresh, Batcher.engaged]
  abandoned := by simp [Abandons]

/-- Whatever gives as much to the one side of the account as to the other keeps it balanced. -/
theorem concat (tallied : Tallied history w) {e : Entry} (filled : t.station.worker.batcher.Filled)
    (nonempty : ∀ b ∈ formedIn e.moments, b ≠ [])
    (balance : (handledIn e.moments).length + t.station.worker.batcher.engaged ≤
      w.station.worker.batcher.engaged + (formedIn e.moments).length)
    (lost : Abandons e.moments → (handledIn e.moments).length + t.station.worker.batcher.engaged <
      w.station.worker.batcher.engaged + (formedIn e.moments).length) :
    Tallied (history ++ [e]) t := by
  have finished := tallied.finished
  refine ⟨filled, fun b hb => ?_, ?_, fun h => ?_⟩
  · rw [momentsIn_concat, formedIn_append] at hb
    rcases List.mem_append.mp hb with hb | hb
    · exact tallied.nonempty b hb
    · exact nonempty b hb
  · rw [momentsIn_concat, formedIn_append, handledIn_append, List.length_append, List.length_append]
    omega
  · rw [momentsIn_concat, abandons_append] at h
    rw [momentsIn_concat, formedIn_append, handledIn_append, List.length_append, List.length_append]
    rcases h with before | now
    · have := tallied.abandoned before
      omega
    · have := lost now
      omega

/-- What is about no batch leaves the account as it is. -/
theorem aside (tallied : Tallied history w) {e : Entry}
    (batcher : t.station.worker.batcher = w.station.worker.batcher)
    (formed : formedIn e.moments = []) (handled : handledIn e.moments = [])
    (silent : ¬ Abandons e.moments) : Tallied (history ++ [e]) t := by
  refine tallied.concat (batcher ▸ tallied.filled) (by simp [formed]) ?_ fun h => absurd h silent
  rw [formed, handled, batcher]
  simp

theorem move (tallied : Tallied history w) (move : Move env w act t moments) :
    Tallied (history ++ [⟨w, act, moments⟩]) t := by
  cases move with
  | @intake n r i j s events call move =>
    refine tallied.aside ?_ ?_ (by simp) fun h => ?_
    · rcases move.worker_eq with ⟨-, -, -, -, worker⟩ | ⟨-, worker⟩ <;> rw [worker]
    · rw [formedIn_append, formedIn_map_event]
      unfold Moment.ofIntake
      split <;> rfl
    · rcases abandons_append.mp h with h | ⟨b, h⟩
      · exact not_abandons_of_isWork (fun e he => move.isWork he) h
      · exact Moment.event_notMem_ofIntake h
  | @batch s events move =>
    have formed : formedIn (events.map .event ++
        Moment.ofBatcher w.station.worker.batcher s.worker.batcher) =
          formedIn (Moment.ofBatcher w.station.worker.batcher s.worker.batcher) := by
      rw [formedIn_append, formedIn_map_event, List.nil_append]
    obtain ⟨balance, lost⟩ := move.engaged
    refine tallied.concat (move.filled tallied.filled) (fun b hb => ?_) ?_ fun h => ?_
    · rcases move.unbatched with ⟨c, deadline, collecting, checking, -⟩ | ⟨neutral, -⟩
      · rw [formed, collecting, checking] at hb
        rw [List.mem_singleton.mp hb]
        simpa [Batcher.Filled, collecting] using tallied.filled
      · rw [formed, neutral.formedIn_eq] at hb
        cases hb
    · simpa [formed] using balance
    · rcases abandons_append.mp h with h | ⟨b, h⟩
      · simpa [formed] using lost h
      · exact absurd h Moment.event_notMem_ofBatcher
  | @handler ending s events ends =>
    have silent : ¬ Abandons (Moment.ofEnding w.station.worker.batcher.batch ending ++
        events.map .event) := by
      rintro ⟨b, h⟩
      cases ends <;> simp [Moment.ofEnding] at h
    have formed : formedIn (Moment.ofEnding w.station.worker.batcher.batch ending ++
        events.map .event) = [] :=
      ((Neutral.ofEnding _ _).append (Neutral.map_event _)).formedIn_eq
    refine tallied.concat (ends.filled tallied.filled) (by simp [formed]) ?_ fun h =>
      absurd h silent
    rw [formed, handledIn_append, handledIn_map_event, List.append_nil]
    cases ends with
    | handled handling | failed handling | crashed handling =>
      rw [handling]
      exact Nat.le_of_ble_eq_true rfl
  | @disposal n d e s events call move =>
    refine tallied.aside ?_ (by simp) (by simp) ?_
    · rw [move.worker_eq.1]
    · exact not_abandons_of_isWork fun e he => move.isWork he
  | elsewhere q op =>
    exact tallied.aside rfl (by simp) (by simp)
      (not_abandons_of_isWork fun e he => Station.isWork_performing he)
  | enqueue | dispose | cancel => exact tallied.aside rfl rfl rfl (by simp [Abandons])

/-- If all batches were handled, none was abandoned. -/
theorem not_abandons (tallied : Tallied history w)
    (all : handledIn (momentsIn history) = formedIn (momentsIn history)) :
    ¬ Abandons (momentsIn history) := by
  intro h
  have lost := tallied.abandoned h
  rw [all] at lost
  omega

end Tallied

/-! ## The position behind the last handled batch -/

/-- The batch that was handled last. -/
def lastHandled (history : List Entry) : Option (List Record) :=
  (handledIn (momentsIn history)).getLast?

theorem lastHandled_concat {e : Entry} (none : handledIn e.moments = []) :
    lastHandled (history ++ [e]) = lastHandled history := by
  rw [lastHandled, momentsIn_concat, handledIn_append, none, List.append_nil]
  rfl

/-- The position behind the batch handled last is about to be stored, or was lost in a crash. -/
def Owes : Batcher → Prop
  | .releasing _ | .storing _ | .ended (some _) => True
  | _ => False

/-- The position behind the last handled batch is cached, or it will be. -/
structure Noted (p : TopicPartition) (history : List Entry) (w : Workshop) : Prop where
  /-- A batch that is handed over does not lie before the cached position. -/
  current : ∀ b, (∃ n, w.station.worker.batcher = .starting b n ∨
      w.station.worker.batcher = .handling b n) ∨ w.station.worker.batcher = .releasing b →
    ∀ c, w.station.committed = some c → c ≤ Batcher.lastOffset b
  releasing : ∀ b, w.station.worker.batcher = .releasing b →
    lastHandled history = some b
  storing : ∀ last, w.station.worker.batcher = .storing last →
    (∀ c, w.station.committed = some c → c ≤ last) ∧
      ∃ b, lastHandled history = some b ∧ last = Batcher.lastOffset b
  settled : ¬ Owes w.station.worker.batcher → ∀ b, lastHandled history = some b →
    w.station.committed = some (Batcher.lastOffset b + 1) ∨
      ∃ n, firstDisposal history = some n ∧ Commits history n ⟨p, Batcher.lastOffset b + 1⟩

namespace Noted

theorem spawned (env : Surroundings) (m : Manager) (p : TopicPartition) (settings : BatchSettings) :
    Noted p [] (spawned env m p settings) where
  current := by simp [Worker.fresh]
  releasing := by simp [Worker.fresh]
  storing := by simp [Worker.fresh]
  settled := by simp [lastHandled]

/-- What leaves the cached position alone keeps what is noted, unless it owes something new. -/
theorem work (noted : Noted p history w) {e : Entry} (handled : handledIn e.moments = [])
    (committed : t.station.committed = w.station.committed)
    (same : t.station.worker.batcher = w.station.worker.batcher ∨
      ¬ Owes w.station.worker.batcher ∧ (∀ b, t.station.worker.batcher ≠ .releasing b) ∧
        (∀ last, t.station.worker.batcher ≠ .storing last) ∧
          ∀ b n,
            t.station.worker.batcher = .starting b n ∨ t.station.worker.batcher = .handling b n →
              ∀ c, w.station.committed = some c → c ≤ Batcher.lastOffset b) :
    Noted p (history ++ [e]) t := by
  have last := @lastHandled_concat history e handled
  have settled : ¬ Owes w.station.worker.batcher → ∀ b, lastHandled history = some b →
      t.station.committed = some (Batcher.lastOffset b + 1) ∨
        ∃ n, firstDisposal (history ++ [e]) = some n ∧
          Commits (history ++ [e]) n ⟨p, Batcher.lastOffset b + 1⟩ := by
    intro quiet b hb
    rw [committed]
    exact (noted.settled quiet b hb).imp_right fun ⟨n, first, commits⟩ =>
      ⟨n, firstDisposal_append first [e], commits.append [e]⟩
  rcases same with same | ⟨quiet, unreleasing, unstoring, current⟩
  · exact
      { current := by rw [same, committed]; exact noted.current
        releasing := by rw [same, last]; exact noted.releasing
        storing := by rw [same, last, committed]; exact noted.storing
        settled := by rw [same, last]; exact settled }
  · exact
      { current := by
          rintro b (⟨n, phase⟩ | phase)
          · rw [committed]
            exact current b n phase
          · exact absurd phase (unreleasing b)
        releasing := fun b phase => absurd phase (unreleasing b)
        storing := fun last phase => absurd phase (unstoring last)
        settled := fun _ => by rw [last]; exact settled quiet }

theorem batch {s : Station} {events : List Event} (noted : Noted p history w)
    (move : Batcher.Move env w.station s events) :
    Noted p (history ++ [⟨w, .batch,
      events.map .event ++ Moment.ofBatcher w.station.worker.batcher s.worker.batcher⟩])
      { w with station := s } := by
  have none : handledIn (events.map .event ++
      Moment.ofBatcher w.station.worker.batcher s.worker.batcher) = [] := by simp
  have same := @lastHandled_concat history ⟨w, .batch, _⟩ none
  have plain : s.committed = w.station.committed → ¬ Owes w.station.worker.batcher →
      (∀ b, s.worker.batcher ≠ .releasing b) → (∀ last, s.worker.batcher ≠ .storing last) →
      (∀ b n, s.worker.batcher = .starting b n ∨ s.worker.batcher = .handling b n →
        ∀ c, w.station.committed = some c → c ≤ Batcher.lastOffset b) →
      Noted p (history ++ [⟨w, .batch,
        events.map .event ++ Moment.ofBatcher w.station.worker.batcher s.worker.batcher⟩])
        { w with station := s } :=
    fun committed quiet unreleasing unstoring current =>
      noted.work none committed (.inr ⟨quiet, unreleasing, unstoring, current⟩)
  cases move with
  | released releasing =>
    have here := noted.releasing _ releasing
    refine ⟨by simp, by simp, fun last h => ?_, fun quiet => absurd trivial quiet⟩
    cases h
    exact ⟨noted.current _ (.inr releasing), _, same.trans here, rfl⟩
  | @stored last storing fine =>
    obtain ⟨le, b, hb, eq⟩ := noted.storing last storing
    refine ⟨by simp, by simp, by simp, fun _ c hc => .inl ?_⟩
    cases hb.symm.trans (same.symm.trans hc)
    rw [Station.at_committed, Station.committed_performed_store env _ _ fine, eq]
    cases cached : w.station.committed with
    | none => rfl
    | some k =>
      have before : k ≤ Batcher.lastOffset b + 1 :=
        Int.le_trans (eq ▸ le k cached) (Int.le_of_lt (Int.lt_succ _))
      exact congrArg some (Int.max_eq_left before)
  | resumed resuming =>
    refine plain ?_ (by rw [resuming]; exact id) (by simp) (by simp) (by simp)
    rw [Station.at_committed]
    exact Station.committed_performed env _ _ _ (by simp) (by simp)
  | crashed | overflowed =>
    exact ⟨by simp [Batcher.crash, Worker.endTask], by simp [Batcher.crash, Worker.endTask],
      by simp [Batcher.crash, Worker.endTask], fun quiet => absurd trivial quiet⟩
  | compared comparing current =>
    refine plain rfl (by rw [comparing]; exact id) (by simp) (by simp) fun b n phase => ?_
    rcases phase with phase | phase <;> cases phase
    exact current
  | handed starting =>
    refine plain rfl (by rw [starting]; exact id) (by simp) (by simp) fun b n phase => ?_
    rcases phase with phase | phase <;> cases phase
    exact noted.current _ (.inl ⟨_, .inl starting⟩)
  | givenUp trying =>
    refine plain rfl ?_ (by simp [Worker.dropBatch]) (by simp [Worker.dropBatch])
      (by simp [Worker.dropBatch])
    rcases trying with phase | phase | phase | ⟨wake, phase⟩ <;> rw [phase] <;> exact id
  | finish phase | opened phase | taken phase | formed phase | checked phase | skipped phase
  | woken phase =>
    exact plain rfl (by rw [phase]; exact id) (by simp [Worker.endTask, Worker.dropBatch])
      (by simp [Worker.endTask, Worker.dropBatch]) (by simp [Worker.endTask, Worker.dropBatch])

theorem handler {ending : Batcher.Ending} {s : Station} {events : List Event}
    (noted : Noted p history w) (ends : Batcher.Ends env w.station ending s events) :
    Noted p (history ++ [⟨w, .handler ending,
      Moment.ofEnding w.station.worker.batcher.batch ending ++ events.map .event⟩])
      { w with station := s } := by
  cases ends with
  | @handled b n handling =>
    have last : lastHandled (history ++ [⟨w, .handler .handled,
        Moment.ofEnding w.station.worker.batcher.batch .handled ++ [].map .event⟩]) = some b := by
      rw [lastHandled, momentsIn_concat, handledIn_append, handling]
      exact List.getLast?_concat ..
    refine ⟨fun c phase => ?_, fun c phase => ?_, by simp, fun quiet => absurd trivial quiet⟩
    · rcases phase with ⟨n, phase | phase⟩ | phase <;> cases phase
      exact noted.current _ (.inl ⟨_, .inr handling⟩)
    · cases phase
      exact last
  | failed handling =>
    exact noted.work rfl rfl (.inr ⟨by rw [handling]; exact id, by simp, by simp, by simp⟩)
  | crashed handling =>
    exact noted.work rfl rfl (.inr ⟨by rw [handling]; exact id, by simp [Batcher.crash,
      Worker.endTask], by simp [Batcher.crash, Worker.endTask], by simp [Batcher.crash,
      Worker.endTask]⟩)

/-- Every move keeps what is noted, unless somebody else writes to the cache. -/
theorem move (noted : Noted p history w) (own : w.station.worker.partition = p)
    (withdrawal : Withdrawal p history w) (sole : Sole p (history ++ [⟨w, act, moments⟩]))
    (move : Move env w act t moments) : Noted p (history ++ [⟨w, act, moments⟩]) t := by
  cases move with
  | intake call move =>
    refine noted.work (by simp) move.committed_eq (.inl ?_)
    rcases move.worker_eq with ⟨-, -, -, -, worker⟩ | ⟨-, worker⟩ <;> rw [worker]
  | batch move => exact noted.batch move
  | handler ends => exact noted.handler ends
  | @disposal k d e s events call move =>
    have batcher : s.worker.batcher = w.station.worker.batcher := by rw [move.worker_eq.1]
    have none : handledIn (events.map .event) = [] := handledIn_map_event events
    rcases move.committed_eq with same | ⟨⟨drained, rfl⟩, forgotten⟩
    · exact noted.work none same (.inl batcher)
    · -- The batch task has ended, and the position that is forgotten has been committed.
      obtain ⟨first, led⟩ := withdrawal.led call (by simp) (by simp)
      have ended := (led.ended rfl).1
      rw [← batcher] at ended
      refine ⟨?_, ?_, ?_, fun quiet b hb => .inr ⟨k, firstDisposal_append first _, ?_⟩⟩
      · rintro b (⟨n, phase | phase⟩ | phase) <;> rw [phase] at ended <;> cases ended
      · intro b phase
        rw [phase] at ended
        cases ended
      · intro last phase
        rw [phase] at ended
        cases ended
      · rw [lastHandled_concat none] at hb
        rcases noted.settled (batcher ▸ quiet) b hb with cached | ⟨n, first', commits⟩
        · exact (led.marked drained (.inr rfl) _ cached).append _
        · cases first'.symm.trans first
          exact commits.append _
  | elsewhere q op =>
    exact noted.work (by simp) (committed_elsewhere (own ▸ sole.last)) (.inl rfl)
  | enqueue | dispose | cancel => exact noted.work rfl rfl (.inl rfl)

end Noted

end Workshop

end TopicConsumer
