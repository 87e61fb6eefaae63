import Mathlib.Order.Bounds.Basic
import TopicConsumer.Proofs.Batch.Staging

/-!
# Work that is put off

A routine that waits on a stage is in a pause, and time goes by while the pause lasts.
`Pause.Lasts` says what happens meanwhile: others do what they like, raise the cancellation for
example, and the clock goes on by a millisecond as long as the pause has not come to its end.

Messages are handled by tasks of their own or in place, by the routine that handles the batch. A
`Host` is either of them, and `Host.Defers` says of a routine that it puts something off for a given
time: when it goes on with it, and when it gives it up.
-/

namespace TopicConsumer.Simulation

variable {D : Dialogue} {R α : Type}

/-! ## Time goes by -/

/-- The same scope a millisecond later. -/
def Scope.tick (s : Scope) : Scope := { s with stage := { s.stage with now := s.stage.now + 1 } }

/-- The pause lasts from one scope to another. -/
inductive Pause.Lasts (p : Pause R) (s : Scope) : Scope → Prop
  | start : p.Lasts s s
  /-- Others have done something, which takes no time. A cancellation is never taken back. -/
  | others {t u : Scope} (lasts : p.Lasts s t) (time : u.stage.now = t.stage.now)
      (raised : t.isCancelled = true → u.isCancelled = true) : p.Lasts s u
  /-- Nobody has anything left to do at this time. -/
  | tick {t : Scope} (lasts : p.Lasts s t) (still : p.end? t.stage t.isCancelled = none) :
      p.Lasts s t.tick

/-- Time goes by up to a moment before which the pause cannot end. -/
theorem Pause.Lasts.exists_at {p : Pause R} {s : Scope} (calm : s.isCancelled = false) {time : Nat}
    (le : s.stage.now ≤ time)
    (still : ∀ t, p.Lasts s t → t.isCancelled = false → t.stage.now < time →
      p.end? t.stage false = none) :
    ∃ t, p.Lasts s t ∧ t.isCancelled = false ∧ t.stage.now = time := by
  induction time with
  | zero => exact ⟨s, .start, calm, Nat.le_zero.mp le⟩
  | succ time ih =>
    rcases Nat.lt_or_eq_of_le le with lt | now
    · obtain ⟨t, lasts, quiet, here⟩ :=
        ih (Nat.le_of_lt_succ lt) fun t lasts quiet lt => still t lasts quiet (Nat.lt_succ_of_lt lt)
      refine ⟨t.tick, .tick lasts ?_, quiet, congrArg Nat.succ here⟩
      rw [quiet]
      exact still t lasts quiet (here ▸ Nat.lt_succ_self time)
    · exact ⟨s, .start, calm, now⟩

section Sleeping

variable {wake : Nat} {counted : Bool} {resume : Bool → R} {s t : Scope}

/-- The pause of somebody who waits for a time, or until the cancellation is raised. -/
theorem Pause.end?_sleeping (stage : Stage) (cancelled : Bool) :
    (Pause.sleeping wake true false resume).end? stage cancelled =
      if cancelled then some (stage, resume false)
      else if stage.now < wake then none else some (stage, resume true) := by
  cases cancelled with
  | true => rfl
  | false =>
    simp only [end?, Bool.and_false, Bool.false_eq_true, if_false]
    split
    · next due => rw [if_neg (Nat.not_lt.mpr due)]
    · next early => rw [if_pos (Nat.lt_of_not_le early)]

/-- Nobody sleeps longer than to the end of the sleep. -/
theorem Pause.Lasts.le_wake (lasts : (Pause.sleeping wake true false resume).Lasts s t)
    (early : s.stage.now ≤ wake) : t.stage.now ≤ wake := by
  induction lasts with
  | start => exact early
  | others lasts time raised ih => exact time ▸ ih
  | tick lasts still ih =>
    rw [end?_sleeping] at still
    split at still
    · cases still
    · split at still
      · next before => exact before
      · cases still

end Sleeping

/-! ## Hosts of message handling -/

/-- Where message handling takes place: how its questions are put there, and that they are answered
as the stage answers them. -/
structure Host (D : Dialogue) where
  answer : (q : D.Query) → StateM Scope (Verdict (D.Reply q))
  put : (q : MessageQuery staging) → Routine D q.Reply
  run_put : ∀ (q : MessageQuery staging) (k : q.Reply → Routine D Outcome) (s : Scope),
    (run answer ((put q).andThen k)).run s =
      match (answerMessage q).run s with
      | (.ok a, s') => (run answer (k a)).run s'
      | (.error p, s') => (.error (p.map k), s')

namespace Host

/-- A task of its own. -/
def task : Host (messageDialogue staging) where
  answer := answerMessage
  put q := Routine.query (D := messageDialogue staging) q
  run_put q k s := by
    change (run answerMessage (.ask (D := messageDialogue staging) q k)).run s = _
    split
    · next replied => exact @run_of_ok (messageDialogue staging) answerMessage q _ _ _ replied k
    · next paused => exact @run_of_error (messageDialogue staging) answerMessage q _ _ _ paused k

variable (host : Host D)

/-- Runs a routine of the host up to its end or its next pause. -/
def go (r : Routine D Outcome) (s : Scope) : Except (Pause (Routine D Outcome)) Outcome × Scope :=
  (run host.answer r).run s

/-- Message handling done by the host, which then goes on with its result. -/
def carry (r : MessageRoutine staging α) (k : α → Routine D Outcome) : Routine D Outcome :=
  (r.interpret host.put).andThen k

section

variable {q : MessageQuery staging} {f : q.Reply → MessageRoutine staging α}
  {k : α → Routine D Outcome} {s s' : Scope}

theorem carry_ask : host.carry (.ask q f) k = (host.put q).andThen fun a => host.carry (f a) k :=
  Routine.andThen_assoc ..

theorem go_carry_of_ok {a : q.Reply} (replied : (answerMessage q).run s = (.ok a, s')) :
    host.go (host.carry (.ask q f) k) s = host.go (host.carry (f a) k) s' := by
  rw [go, carry_ask, host.run_put, replied]
  rfl

theorem go_carry_of_error {p : Pause q.Reply} (paused : (answerMessage q).run s = (.error p, s')) :
    host.go (host.carry (.ask q f) k) s = (.error (p.map fun a => host.carry (f a) k), s') := by
  rw [go, carry_ask, host.run_put, paused]

end

/-! ## Putting something off -/

/-- The end of a wait of so many nanoseconds that begins at a time: the first whole millisecond at
which they are over. -/
def IsEnd (start nanos : Nat) (time : Nat) : Prop :=
  IsLeast {t : Nat | start * 1000000 + nanos ≤ t * 1000000} time

/-- The routine, which is about to run in the scope, puts `rest` off for so many nanoseconds, or
does `instead` if it is cancelled in the meantime. -/
structure Defers (s : Scope) (nanos : Nat) (r rest instead : Routine D Outcome) : Prop where
  /-- With nothing to wait for it goes on at once, whether it is cancelled or not. -/
  prompt : nanos = 0 → host.go r s = host.go rest s
  /-- It does not begin to wait if it is cancelled. -/
  late : 0 < nanos → s.isCancelled = true → host.go r s = host.go instead s
  /-- Otherwise it goes on when the time is over, and not before, unless it is cancelled. -/
  waits : 0 < nanos → s.isCancelled = false → ∃ p last, host.go r s = (.error p, s) ∧
    IsEnd s.stage.now nanos last ∧ ∀ t, p.Lasts s t → t.stage.now ≤ last ∧
      p.end? t.stage t.isCancelled =
        if t.isCancelled then some (t.stage, instead)
        else if t.stage.now < last then none else some (t.stage, rest)

/-- The routine, which is about to run in the scope, begins with `rest` at a time, and not before,
as long as nobody cancels it. -/
structure Begins (s : Scope) (r rest : Routine D Outcome) (time : Nat) : Prop where
  from_now : s.stage.now ≤ time
  prompt : time = s.stage.now → host.go r s = host.go rest s
  later : s.stage.now < time → ∃ p, host.go r s = (.error p, s) ∧
    ∀ t, p.Lasts s t → t.isCancelled = false →
      p.end? t.stage false = if t.stage.now < time then none else some (t.stage, rest)

/-- The nanoseconds that a sleep lasts at most. -/
def longestWait : Nat := longestSleep * 1000000

theorem isEnd_iff {start nanos time : Nat} :
    IsEnd start nanos time ↔ time = start + coveringMillis nanos := by
  have first : IsEnd start nanos (start + coveringMillis nanos) := by
    unfold coveringMillis
    refine ⟨?_, fun t ended => ?_⟩
    · rw [Set.mem_ofPred_eq]
      omega
    · rw [Set.mem_ofPred_eq] at ended
      omega
  exact ⟨fun h => h.unique first, fun h => h ▸ first⟩

theorem isEnd_sleepEnd (start nanos : Nat) :
    IsEnd start (min longestWait nanos) (sleepEnd start (coveringMillis nanos)) := by
  rw [isEnd_iff]
  unfold longestWait sleepEnd coveringMillis
  generalize longestSleep = longest
  omega

section

variable {start nanos time : Nat}

theorem IsEnd.mono {more later : Nat} (le : nanos ≤ more) (first : IsEnd start nanos time)
    (second : IsEnd start more later) : time ≤ later :=
  first.2 (Nat.le_trans (Nat.add_le_add_left le _) second.1)

theorem IsEnd.start_le (h : IsEnd start nanos time) : start ≤ time := by
  rw [isEnd_iff] at h
  omega

theorem IsEnd.start_lt_iff (h : IsEnd start nanos time) : start < time ↔ 0 < nanos := by
  rw [isEnd_iff, coveringMillis] at h
  omega

end

variable {host}

namespace Defers

variable {s : Scope} {nanos : Nat} {r r' rest instead : Routine D Outcome}

theorem congr (h : host.Defers s nanos r rest instead) (same : host.go r' s = host.go r s) :
    host.Defers s nanos r' rest instead where
  prompt none := same.trans (h.prompt none)
  late pos raised := same.trans (h.late pos raised)
  waits pos calm := by
    rw [same]
    exact h.waits pos calm

/-- Something that is done at once. -/
theorem at_once (same : host.go r s = host.go rest s) : host.Defers s 0 r rest instead where
  prompt _ := same
  late pos := absurd pos (Nat.lt_irrefl 0)
  waits pos := absurd pos (Nat.lt_irrefl 0)

/-- Whoever waits defers what comes after the wait, for as long as the longest sleep at most. -/
theorem wait (pos : 0 < nanos) (f : Bool → MessageRoutine staging α) (k : α → Routine D Outcome) :
    host.Defers s (min longestWait nanos)
      (host.carry (.ask (D := messageDialogue staging) (.wait nanos) f) k)
      (host.carry (f true) k) (host.carry (f false) k) where
  prompt none := by
    have positive : 0 < longestWait := by decide
    omega
  late _ raised := host.go_carry_of_ok (answerMessage_wait_of_cancelled raised)
  waits _ calm := by
    refine ⟨_, _, host.go_carry_of_error (answerMessage_wait calm), isEnd_sleepEnd .., ?_⟩
    intro t lasts
    exact ⟨lasts.le_wake (le_sleepEnd ..), Pause.end?_sleeping t.stage t.isCancelled⟩

/-- What is put off begins at the end of the wait, unless somebody cancels it. -/
theorem begins {time : Nat} (h : host.Defers s nanos r rest instead) (calm : s.isCancelled = false)
    (ended : IsEnd s.stage.now nanos time) : host.Begins s r rest time where
  from_now := ended.start_le
  prompt now := h.prompt <| Nat.eq_zero_of_not_pos fun pos =>
    absurd now (Nat.ne_of_gt (ended.start_lt_iff.mpr pos))
  later after := by
    obtain ⟨p, last, paused, ended', ends⟩ := h.waits (ended.start_lt_iff.mp after) calm
    obtain rfl : last = time := ended'.unique ended
    refine ⟨p, paused, fun t lasts quiet => ?_⟩
    have ends := (ends t lasts).2
    rw [quiet, if_neg Bool.false_ne_true] at ends
    exact ends

end Defers

/-- Something that does not pause begins at no more than one time. -/
theorem Begins.le {s : Scope} {r rest : Routine D Outcome} {time later : Nat}
    (calm : s.isCancelled = false) (first : host.Begins s r rest time)
    (second : host.Begins s r rest later)
    (brief : ∃ outcome s', host.go rest s = (.ok outcome, s')) : later ≤ time := by
  obtain ⟨outcome, s', brief⟩ := brief
  by_contra! lt
  obtain ⟨p, paused, ends⟩ := second.later (first.from_now.trans_lt lt)
  rcases first.from_now.eq_or_lt with now | after
  · rw [first.prompt now.symm, brief] at paused
    cases paused
  · obtain ⟨p', paused', ends'⟩ := first.later after
    obtain rfl : p' = p := by
      rw [paused] at paused'
      cases paused'
      rfl
    obtain ⟨t, lasts, quiet, here⟩ := Pause.Lasts.exists_at calm first.from_now
      fun t lasts quiet before => (ends' t lasts quiet).trans (if_pos before)
    have ended := ends' t lasts quiet
    rw [here, if_neg (Nat.lt_irrefl _), ends t lasts quiet, here, if_pos lt] at ended
    cases ended

end Host

end TopicConsumer.Simulation
