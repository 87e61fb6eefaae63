import TopicConsumer.Proofs.Worker.Clock

/-!
# Trying a batch again

A batch is handed to the handler again and again until the handler succeeds. `timed_retried` is
about a timed run that begins when the batch is complete and ends when the batcher is done with it:
what the batcher does is a list of failed attempts, each followed by its pause, and then one attempt
that succeeds, after which the last offset is stored and the partition is resumed. `Paced` says when
the attempts begin, and `Retry.Exact` says that the pauses are what they should be though they are
computed in 64 bits.

The next attempt begins when the sleep ends that was asked for. This is when the pause is over,
unless the pause is longer than the longest sleep.
-/

namespace TopicConsumer

/-! ## The length of the pauses -/

namespace Retry

/-- Ten to a power, if this fits into 64 bits. -/
def tenTo? (power : Nat) : Option Nat :=
  if Nat.pow 10 power < Nat.pow 2 64 then some (Nat.pow 10 power) else none

/-- A number of failures as it is counted. -/
def counted (n : Nat) : Nat := min n 4294967295

theorem countFailure_counted (n : Nat) : countFailure (counted n) = counted (n + 1) := by
  unfold countFailure counted
  omega

/-- The pauses up to a maximum are computed exactly and do not overflow. -/
structure Exact (maximum : Nat) : Prop where
  base : ∀ n, backoff (counted n) maximum = min (Nat.pow 10 n) maximum
  /-- A power that does not fit into 64 bits is replaced by the maximum. -/
  checked : ∀ n, backoff n maximum = min ((tenTo? n).getD maximum) maximum
  monotone : ∀ m n, m ≤ n → backoff m maximum ≤ backoff n maximum
  /-- The sum fits into a duration, which has 64 bits for the seconds. -/
  sum : ∀ n jitter, pause n maximum jitter < Nat.pow 2 64 * 1000

section

variable {maximum : Nat} (small : maximum < Nat.pow 2 64)

include small

theorem backoff_of_le {n : Nat} (many : 20 ≤ n) : min (Nat.pow 10 n) maximum = maximum := by
  rw [← backoff_eq_min small, backoff, if_neg (Nat.not_lt.mpr many)]

theorem backoff_counted (n : Nat) : backoff (counted n) maximum = min (Nat.pow 10 n) maximum := by
  rw [backoff_eq_min small]
  rcases Nat.le_total n 4294967295 with le | ge
  · rw [counted, Nat.min_eq_left le]
  · have many : 20 ≤ counted n := Nat.le_min.mpr ⟨by omega, by decide⟩
    rw [backoff_of_le small many, backoff_of_le small (by omega)]

theorem exact_of_lt : Exact maximum where
  base := backoff_counted small
  checked n := by
    rw [backoff_eq_min small, tenTo?]
    split
    · rfl
    · next great =>
      rw [Nat.min_eq_right (Nat.le_trans (Nat.le_of_lt small) (Nat.le_of_not_lt great))]
      exact (Nat.min_self maximum).symm
  monotone m n le := by
    rw [backoff_eq_min small, backoff_eq_min small]
    have power : Nat.pow 10 m ≤ Nat.pow 10 n := Nat.pow_le_pow_right (by decide) le
    omega
  sum n jitter := by
    rw [pause, backoff_eq_min small]
    have le : min (Nat.pow 10 n) maximum ≤ maximum := Nat.min_le_right ..
    have room : Nat.pow 2 64 + 30 ≤ Nat.pow 2 64 * 1000 := by decide
    have most := jitter.most
    omega

end

end Retry

/-! ## What the batcher does about a batch -/

/-- Something that a batcher does, or its handler. -/
inductive Doing where
  | handed (batch : List Record)
  /-- The handler has failed; the batch is tried again after a pause. -/
  | failed (pause : Nat)
  | handled (batch : List Record)
  | operation (partition : TopicPartition) (op : StateOp)
  deriving DecidableEq

/-- What a moment says about the doings of a batcher. -/
def Moment.doing? : Moment → Option Doing
  | .event (.handed b) => some (.handed b)
  | .event (.failed _ pause _) => some (.failed pause)
  | .event (.operation p op) => some (.operation p op)
  | .handled b => some (.handled b)
  | _ => none

/-- An operation of the state manager is one thing that is done. -/
theorem Station.doings_performing (env : Surroundings) (p : TopicPartition) (op : StateOp)
    (s : Station) :
    ((s.performing env p op).map Moment.event).filterMap Moment.doing? = [.operation p op] := by
  simp only [performing, List.cons_append, List.map_cons, List.filterMap_cons, Moment.doing?,
    List.map_append, List.map_map, List.filterMap_append, List.filterMap_map]
  simp [Function.comp_def, Moment.doing?]

theorem Moment.doings_ofBatcher (b c : Batcher) :
    (Moment.ofBatcher b c).filterMap Moment.doing? = [] := by
  unfold ofBatcher
  split <;> rfl

namespace Workshop

/-- What the batcher or its handler does with a move, with the time. -/
def Stroke.doings (x : Stroke) : List (Nat × Doing) :=
  match x.entry.act with
  | .batch | .handler _ => (x.entry.moments.filterMap Moment.doing?).map (x.time, ·)
  | _ => []

/-- What the batcher and its handler do in a history. -/
def doings (history : List Stroke) : List (Nat × Doing) := history.flatMap Stroke.doings

/-- When the batcher compares its batch, the cached position is beyond it. -/
def Stroke.overtakes (x : Stroke) : Bool :=
  match x.entry.before.station.worker.batcher with
  | .comparing b _ => x.entry.before.station.committed.any (Batcher.lastOffset b < ·)
  | _ => false

/-- A failed attempt: when it began, when the handler failed, and the pause that was to follow. -/
structure Attempt where
  begun : Nat
  ended : Nat
  pause : Nat

/-- What is done about a batch in a failed attempt. -/
def Attempt.doings (b : List Record) (a : Attempt) : List (Nat × Doing) :=
  [(a.begun, .handed b), (a.ended, .failed a.pause)]

/-- Failed attempts follow each other from the time `t₀` on, and after them the next attempt is due
at a time. The pause after the `n`-th one is ten to the `n` milliseconds or the maximum, whichever
is less, and a jitter. -/
inductive Paced (maximum t₀ : Nat) : List Attempt → Nat → Prop
  | start : Paced maximum t₀ [] t₀
  | again {attempts : List Attempt} {due ended : Nat} (paced : Paced maximum t₀ attempts due)
      (le : due ≤ ended) (jitter : Retry.Jitter) {pause : Nat}
      (eq : pause = min (Nat.pow 10 (attempts.length + 1)) maximum + jitter.millis) :
      Paced maximum t₀ (attempts ++ [⟨due, ended, pause⟩]) (sleepEnd ended pause)

/-- Where the batcher stands after a number of failures, the next attempt being due at a time, and
what has been done since the last failure. -/
inductive Trying (p : TopicPartition) (b : List Record) (failures due now : Nat) :
    Batcher → List (Nat × Doing) → Prop
  | backingOff (le : now ≤ due) :
      Trying p b failures due now (.backingOff b (Retry.counted failures) due) []
  | checking (eq : now = due) :
      Trying p b failures due now (.checking b (Retry.counted failures)) []
  | comparing (eq : now = due) :
      Trying p b failures due now (.comparing b (Retry.counted failures)) []
  | starting (eq : now = due) :
      Trying p b failures due now (.starting b (Retry.counted failures)) []
  | handling (le : due ≤ now) :
      Trying p b failures due now (.handling b (Retry.counted failures)) [(due, .handed b)]
  | releasing (le : due ≤ now) :
      Trying p b failures due now (.releasing b) [(due, .handed b), (now, .handled b)]
  | storing (le : due ≤ now) :
      Trying p b failures due now (.storing (Batcher.lastOffset b))
        [(due, .handed b), (now, .handled b)]
  | resuming (le : due ≤ now) :
      Trying p b failures due now .resuming
        [(due, .handed b), (now, .handled b),
          (now, .operation p (.store (Batcher.lastOffset b)))]
  | done {ended : Nat} (le : due ≤ ended) (past : ended ≤ now) :
      Trying p b failures due now .idle
        [(due, .handed b), (ended, .handled b),
          (ended, .operation p (.store (Batcher.lastOffset b))), (ended, .operation p .resume)]

variable {p : TopicPartition} {b : List Record} {t₀ now failures due maximum : Nat}
  {w₀ w t : Workshop} {history : List Stroke} {env : Surroundings} {act : Act}
  {moments : List Moment} {rest : List (Nat × Doing)} {x : Stroke}

theorem doings_concat (history : List Stroke) (x : Stroke) :
    doings (history ++ [x]) = doings history ++ x.doings := by
  simp [doings]

theorem Stroke.current_of_overtakes (current : x.overtakes = false) {n : Nat} {c : Offset}
    (comparing : x.entry.before.station.worker.batcher = .comparing b n)
    (cached : x.entry.before.station.committed = some c) : c ≤ Batcher.lastOffset b := by
  rw [overtakes, comparing, cached] at current
  simpa using current

theorem Stroke.doings_of_isAside (aside : act.IsAside) :
    Stroke.doings ⟨now, ⟨w, act, moments⟩, t⟩ = [] := by
  cases act with
  | batch => exact absurd rfl aside.1
  | handler ending => exact absurd rfl (aside.2 ending)
  | _ => rfl

/-! ## One move -/

namespace Trying

/-- What the batcher does. -/
theorem batch {s u : Station} {events : List Event}
    (trying : Trying p b failures due env.now s.worker.batcher rest)
    (step : Batcher.step env s = some (u, events)) (live : u.worker.cancelled = false)
    (going : u.worker.batcher.hasEnded = false) (own : s.worker.partition = p)
    (current : ∀ n c, s.worker.batcher = .comparing b n → s.committed = some c →
      c ≤ Batcher.lastOffset b) (busy : s.worker.batcher ≠ .idle) :
    Trying p b failures due env.now u.worker.batcher
      (rest ++ ((events.map Moment.event ++
        Moment.ofBatcher s.worker.batcher u.worker.batcher).filterMap Moment.doing?).map
          (env.now, ·)) := by
  rw [List.filterMap_append, Moment.doings_ofBatcher, List.append_nil]
  have move := Batcher.move_of_step step
  cases move with
  | finish idle | opened idle | overflowed idle => exact absurd idle busy
  | taken collecting | formed collecting =>
    rw [collecting] at trying
    cases trying
  | checked checking =>
    rw [checking] at trying
    cases trying with
    | checking eq => exact .comparing eq
  | compared comparing =>
    rw [comparing] at trying
    cases trying with
    | comparing eq => exact .starting eq
  | skipped comparing cached stale =>
    rw [comparing] at trying
    cases trying
    exact absurd (current _ _ comparing cached) (Int.not_le.mpr stale)
  | handed starting =>
    rw [starting] at trying
    cases trying with
    | starting eq =>
      cases eq
      exact .handling (Nat.le_refl _)
  | woken waiting live' =>
    have due := Batcher.due_of_woken step waiting live'
    rw [waiting] at trying
    cases trying with
    | backingOff le => exact .checking (Nat.le_antisymm le due)
  | givenUp trying' cancelled => cases live.symm.trans cancelled
  | released releasing =>
    rw [releasing] at trying
    cases trying with
    | releasing le => exact .storing le
  | stored storing =>
    rw [storing] at trying
    cases trying with
    | storing le =>
      rw [Station.doings_performing, own]
      exact .resuming le
  | resumed resuming =>
    rw [resuming] at trying
    cases trying with
    | resuming le =>
      rw [List.map_append, List.filterMap_append, Station.doings_performing, own]
      exact .done le (Nat.le_refl _)
  | crashed => cases going

/-- The handler ends: it is done with the batch, or one more attempt has failed. -/
theorem handler {s u : Station} {events : List Event} {ending : Batcher.Ending}
    (small : s.worker.settings.maxRetryDelay < Nat.pow 2 64)
    (trying : Trying p b failures due env.now s.worker.batcher rest)
    (ends : Batcher.handlerEnds env ending s = some (u, events))
    (going : u.worker.batcher.hasEnded = false) :
    let more := ((Moment.ofEnding s.worker.batcher.batch ending ++
      events.map Moment.event).filterMap Moment.doing?).map (env.now, ·)
    Trying p b failures due env.now u.worker.batcher (rest ++ more) ∨
      ∃ pause, pause = min (Nat.pow 10 (failures + 1)) s.worker.settings.maxRetryDelay +
          env.jitter.millis ∧ due ≤ env.now ∧
        rest ++ more = [(due, .handed b), (env.now, .failed pause)] ∧
        Trying p b (failures + 1) (sleepEnd env.now pause) env.now u.worker.batcher [] := by
  have move := Batcher.ends_of_handlerEnds ends
  cases ending with
  | handled =>
    cases move with
    | handled handling =>
      rw [handling] at trying ⊢
      cases trying with
      | handling le => exact .inl (.releasing le)
  | failed fault =>
    obtain ⟨c, n, handling, rfl, rfl⟩ := Batcher.pause_of_failed ends
    rw [handling] at trying ⊢
    cases trying with
    | handling le =>
      right
      rw [Retry.countFailure_counted, Retry.pause, Retry.backoff_counted small]
      exact ⟨_, rfl, le, rfl, .backingOff (le_sleepEnd _ _)⟩
  | crashed text =>
    cases move
    cases going

/-- The clock goes on. -/
theorem tick (trying : Trying p b failures due now w.station.worker.batcher rest)
    (rests : Batcher.Rests now w.station) (going : w.station.worker.batcher.hasEnded = false) :
    Trying p b failures due (now + 1) w.station.worker.batcher rest := by
  cases rests with
  | idle idle =>
    rw [idle] at trying ⊢
    cases trying with
    | done le past => exact .done le (Nat.le_succ_of_le past)
  | collecting collecting =>
    rw [collecting] at trying
    cases trying
  | handling handling =>
    rw [handling] at trying ⊢
    cases trying with
    | handling le => exact .handling (Nat.le_succ_of_le le)
  | backingOff waiting live early =>
    rw [waiting] at trying ⊢
    cases trying with
    | backingOff le => exact .backingOff early
  | ended ended =>
    rw [ended] at going
    cases going

end Trying

/-! ## Timed runs -/

/-- What has been done about a batch since it was complete are the failed attempts, and what has
been done since. -/
def Retried (maximum : Nat) (p : TopicPartition) (b : List Record) (t₀ : Nat)
    (history : List Stroke) (now : Nat) (w : Workshop) : Prop :=
  ∃ attempts due rest, doings history = attempts.flatMap (Attempt.doings b) ++ rest ∧
    Paced maximum t₀ attempts due ∧
    Trying p b attempts.length due now w.station.worker.batcher rest

theorem Retried.move (small : maximum < Nat.pow 2 64)
    (settings : w.station.worker.settings.maxRetryDelay = maximum)
    (own : w.station.worker.partition = p) (step : w.step env act = some (t, moments))
    (live : t.station.worker.cancelled = false) (going : t.station.worker.batcher.hasEnded = false)
    (current : Stroke.overtakes ⟨env.now, ⟨w, act, moments⟩, t⟩ = false)
    (busy : w.station.worker.batcher ≠ .idle) (retried : Retried maximum p b t₀ history env.now w) :
    Retried maximum p b t₀ (history ++ [⟨env.now, ⟨w, act, moments⟩, t⟩]) env.now t := by
  obtain ⟨attempts, due, rest, done, paced, trying⟩ := retried
  -- What is done now comes behind what has been done in this attempt.
  have goOn : Trying p b attempts.length due env.now t.station.worker.batcher
      (rest ++ Stroke.doings ⟨env.now, ⟨w, act, moments⟩, t⟩) →
      Retried maximum p b t₀ (history ++ [⟨env.now, ⟨w, act, moments⟩, t⟩]) env.now t :=
    fun trying =>
      ⟨attempts, due, _, by rw [doings_concat, done, List.append_assoc], paced, trying⟩
  rcases act.batcher_cases with rfl | ⟨ending, rfl⟩ | aside
  · obtain ⟨u, events, turn, rfl, rfl⟩ := batcher_step_of_step step
    exact goOn (trying.batch turn live going own
      (fun n c => Stroke.current_of_overtakes current) busy)
  · obtain ⟨u, events, ends, rfl, rfl⟩ := handlerEnds_of_step step
    rcases trying.handler (settings ▸ small) ends going with again | ⟨pause, eq, le, new, trying⟩
    · exact goOn again
    · rw [settings] at eq
      refine ⟨attempts ++ [⟨due, env.now, pause⟩], sleepEnd env.now pause, [], ?_,
        paced.again le env.jitter eq, ?_⟩
      · rw [doings_concat, done, List.append_assoc, List.flatMap_append, List.append_nil]
        exact congrArg (attempts.flatMap (Attempt.doings b) ++ ·) new
      · rw [List.length_append]
        exact trying
  · refine goOn ?_
    rw [(move_of_step step).batcher_eq aside, Stroke.doings_of_isAside aside, List.append_nil]
    exact trying

/-- From the time at which a batch is complete until the batcher is done with it, the batch is tried
again and again. The attempts that fail come first, each of them followed by its pause, or by the
longest sleep if the pause is longer, and the first one that does not fail is the last one. -/
theorem timed_retried (run : Timed t₀ w₀ history now w)
    (formed : w₀.station.worker.batcher = .checking b 0)
    (small : w₀.station.worker.settings.maxRetryDelay < Nat.pow 2 64)
    (live : w.station.worker.cancelled = false)
    (going : w.station.worker.batcher.hasEnded = false)
    (current : ∀ x ∈ history, x.overtakes = false)
    (busy : ∀ x ∈ history, x.entry.before.station.worker.batcher ≠ .idle) :
    Retry.Exact w₀.station.worker.settings.maxRetryDelay ∧
      Retried w₀.station.worker.settings.maxRetryDelay w₀.station.worker.partition b t₀ history now
        w := by
  refine ⟨Retry.exact_of_lt small, ?_⟩
  induction run with
  | start =>
    refine ⟨[], t₀, [], rfl, .start, ?_⟩
    rw [formed]
    exact .checking rfl
  | @move history w t env act moments run step ih =>
    have move := move_of_step step
    have before := ih (move.live live) (move.going going)
      (fun x hx => current x (List.mem_append_left _ hx))
      (fun x hx => busy x (List.mem_append_left _ hx))
    exact before.move small (by rw [run.settings_eq]) run.partition_eq step live going
      (current _ List.mem_concat_self) (busy _ List.mem_concat_self)
  | tick run rests ih =>
    obtain ⟨attempts, due, rest, done, paced, trying⟩ := ih live going current busy
    exact ⟨attempts, due, rest, done, paced, trying.tick rests going⟩

/-! ## Two timed runs -/

/-- The worker of a partition has just completed a batch of one record. -/
def completed (p : TopicPartition) (maximum : Nat) : Workshop :=
  ((spawned (.calm 0) .empty p { batchSize := 1, maxRetryDelay := maximum }).playTimed 0
    (timetable [(0, .enqueue (.bare p 1) :: List.replicate 6 (.intake 0) ++
      List.replicate 2 .batch)])).2.2

/-- The batcher hands the batch over at each of these times, and the handler fails at once. -/
def failing (times : List Nat) : List (Nat × List Act) :=
  times.map (·, List.replicate 4 .batch ++ [.handler (.failed (.failed ""))])

/-- Two attempts fail, and the third one does not. -/
theorem twiceFailed_retried :
    let p : TopicPartition := ⟨"orders", 0⟩
    let w₀ := completed p 50
    ∃ history now w, Timed 0 w₀ history now w ∧
      w₀.station.worker.batcher = .checking [.bare p 1] 0 ∧
      w₀.station.worker.settings.maxRetryDelay < Nat.pow 2 64 ∧
      w.station.worker.cancelled = false ∧ w.station.worker.batcher = .idle ∧
      (∀ x ∈ history, x.overtakes = false) ∧
      (∀ x ∈ history, x.entry.before.station.worker.batcher ≠ .idle) ∧
      Retry.Exact w₀.station.worker.settings.maxRetryDelay ∧
      Retried w₀.station.worker.settings.maxRetryDelay w₀.station.worker.partition [.bare p 1] 0
        history now w := by
  intro p w₀
  obtain ⟨history, now, w, timed, formed, small, live, idle, current, busy⟩ :
      ∃ history now w, Timed 0 (completed p 50) history now w ∧
        w₀.station.worker.batcher = .checking [.bare p 1] 0 ∧
        w₀.station.worker.settings.maxRetryDelay < Nat.pow 2 64 ∧
        w.station.worker.cancelled = false ∧ w.station.worker.batcher = .idle ∧
        (∀ x ∈ history, x.overtakes = false) ∧
        ∀ x ∈ history, x.entry.before.station.worker.batcher ≠ .idle := by
    refine ⟨_, _, _, timed_play _ _ (timetable (failing [0, 13] ++
      [(66, List.replicate 4 .batch), (70, .handler .handled :: List.replicate 3 .batch)])), ?_⟩
    decide +kernel
  have going : w.station.worker.batcher.hasEnded = false := by rw [idle]; rfl
  exact ⟨history, now, w, timed, formed, small, live, idle, current, busy,
    timed_retried timed formed small live going current busy⟩

/-- Twelve attempts fail, and then the batch is handed over once more. -/
def twelveFailed : List (Surroundings × Act) :=
  timetable (failing [0, 13, 116, 1119, 11122, 111125, 1111128, 11111131, 111111134, 1111111137,
    11111111140, 111111111143] ++ [(1057191111143, List.replicate 4 .batch)])

/-- The pause may be longer than the longest sleep, and then the handler is called again before it
is over. -/
theorem exists_handed_early :
    let p : TopicPartition := ⟨"orders", 0⟩
    let maximum := 2000000000000
    ∃ history now w before failed again pause, Timed 0 (completed p maximum) history now w ∧
      w.station.worker.cancelled = false ∧ (∀ x ∈ history, x.overtakes = false) ∧
      doings history = before ++ [(failed, .failed pause), (again, .handed [.bare p 1])] ∧
      before.countP (·.2 = .handed [.bare p 1]) = 12 ∧ again = failed + longestSleep ∧
      again < failed + min (Nat.pow 10 12) maximum := by
  intro p maximum
  refine ⟨_, _, _, (doings ((completed p maximum).playTimed 0 twelveFailed).1).take 23,
    111111111143, 1057191111143, 1000000000003, timed_play 0 (completed p maximum) twelveFailed, ?_⟩
  decide +kernel

end Workshop

end TopicConsumer
