import TopicConsumer.Batch.Delay
import TopicConsumer.Proofs.Batch.Deferral
import TopicConsumer.Proofs.Message.Headers

/-!
# When delayed messages are handled

A message asks to be handled so many seconds after it was published, if its headers bear both and
both can be read. `Delay.step_law` says for how long the delay step then puts the rest of the chain
off, and that it does not put off the rest for any other message. Waits end after the
longest sleep, however long they are meant to be.

`Delay.begins_mono_iff` compares two messages that differ in the delay: the longer delay does not
end before the shorter one, unless the instant at which it ends is none that can be written. Then
the message is not delayed at all.
-/

namespace TopicConsumer.Delay

open Simulation Text

variable {D : Dialogue} {host : Host D} {s : Scope} {ctx : MessageContext} {hs : Headers}
  {published reading : Timestamp} {seconds : Int}

/-! ## What messages ask for -/

/-- The message asks to be handled so many seconds after it was published. -/
def Asks (hs : Headers) (published : Timestamp) (seconds : Int) : Prop :=
  (∃ text, hs.Bears "X-PublishedAt" text ∧ Rfc3339.read? (trim text) = some published) ∧
    ∃ text, hs.Bears "X-DelaySeconds" text ∧ NumeralRange.int64.read? (trim text) = some seconds

/-- The end of the delay has a local date in the years -9999 to 9999. -/
def Writable (published : Timestamp) (seconds : Int) : Prop :=
  RepresentableLocal (published.localNanos + seconds * nanosPerSecond)

instance : Decidable (Writable published seconds) :=
  inferInstanceAs (Decidable (RepresentableLocal _))

/-- The nanoseconds from a look at the clock to the end of the delay, none if it is over. -/
def lag (published : Timestamp) (seconds : Int) (reading : Timestamp) : Nat :=
  (published.nanos + seconds * nanosPerSecond - reading.nanos).toNat

theorem lag_mono {more : Int} (le : seconds ≤ more) :
    lag published seconds reading ≤ lag published more reading := by
  unfold lag nanosPerSecond
  omega

theorem due?_of_asks (sound : hs.Sound) (asks : Asks hs published seconds) :
    due? hs = published.addSeconds? seconds := by
  obtain ⟨⟨text, bears, read⟩, ⟨text', bears', read'⟩⟩ := asks
  rw [← sound.get?_eq_some_iff] at bears bears'
  have published? : hs.timestamp? Headers.publishedAt = some published :=
    Option.bind_eq_some_iff.mpr ⟨text, bears, read⟩
  have seconds? : hs.integer? .int64 Headers.delaySeconds = some seconds :=
    Option.bind_eq_some_iff.mpr ⟨text', bears', read'⟩
  rw [due?, published?, seconds?]
  rfl

/-- Only a message that asks for it is delayed. -/
theorem asks_of_due? (sound : hs.Sound) {due : Timestamp} (delayed : due? hs = some due) :
    ∃ published seconds, Asks hs published seconds := by
  simp only [due?, bind, Option.bind_eq_some_iff] at delayed
  obtain ⟨published, published?, seconds, seconds?, -⟩ := delayed
  obtain ⟨text, bears, read⟩ := Option.bind_eq_some_iff.mp published?
  obtain ⟨text', bears', read'⟩ := Option.bind_eq_some_iff.mp seconds?
  rw [sound.get?_eq_some_iff] at bears bears'
  exact ⟨published, seconds, ⟨text, bears, read⟩, ⟨text', bears', read'⟩⟩

theorem addSeconds?_of_writable (writable : Writable published seconds) :
    ∃ due, published.addSeconds? seconds = some due ∧
      due.nanos = published.nanos + seconds * nanosPerSecond := by
  have fits : RepresentableLocal
      (published.nanos + seconds * nanosPerSecond + published.offset * nanosPerSecond) := by
    have comm : published.nanos + seconds * nanosPerSecond + published.offset * nanosPerSecond =
        published.localNanos + seconds * nanosPerSecond := by
      unfold Timestamp.localNanos
      omega
    rw [comm]
    exact writable
  exact ⟨_, dif_pos fits, rfl⟩

theorem addSeconds?_of_not_writable (unwritable : ¬ Writable published seconds) :
    published.addSeconds? seconds = none := by
  refine dif_neg fun fits => unwritable ?_
  have comm : published.localNanos + seconds * nanosPerSecond =
      published.nanos + seconds * nanosPerSecond + published.offset * nanosPerSecond := by
    unfold Timestamp.localNanos
    omega
  rw [Writable, comm]
  exact fits

theorem remaining?_eq_some_iff {now due : Timestamp} {nanos : Nat} :
    remaining? now due = some nanos ↔ 0 < nanos ∧ (now.nanosTo due).toNat = nanos := by
  rw [remaining?, Option.ite_none_right_eq_some, Option.some_inj]
  omega

theorem remaining?_eq_none_iff {now due : Timestamp} :
    remaining? now due = none ↔ (now.nanosTo due).toNat = 0 := by
  unfold remaining?
  split
  · simp only [reduceCtorEq, false_iff]
    omega
  · simp only [true_iff]
    omega

/-! ## Putting the rest of the chain off -/

/-- The step puts the rest of the chain off for so many nanoseconds, whatever the rest is. If it is
cancelled in the meantime, it ends with the error that says so, and the rest does not run. -/
def PutsOff (host : Host D) (s : Scope) (ctx : MessageContext) (nanos : Nat) : Prop :=
  ∀ (next : Next (MessageRoutine staging) MessageContext)
    (k : Outcome × MessageContext → Routine D Outcome),
    host.Defers s nanos (host.carry (step next ctx) k) (host.carry (next.run ctx) k)
      (k (.error (.pipeline .cancelled), ctx))

theorem putsOff_of_due?_eq_none (none : due? ctx.message.headers = none) :
    PutsOff host s ctx 0 := by
  intro next k
  have same : step next ctx = next.run ctx := by rw [step, none]
  exact .at_once (by rw [same])

theorem putsOff_of_due?_eq_some {due : Timestamp} (delayed : due? ctx.message.headers = some due)
    (shown : s.stage.clock.reading s.stage.now = .shown reading) :
    PutsOff host s ctx (min Host.longestWait (reading.nanosTo due).toNat) := by
  intro next k
  have looked (f : Timestamp → MessageRoutine staging (Outcome × MessageContext)) :
      host.go (host.carry (.ask (D := messageDialogue staging) .now f) k) s =
        host.go (host.carry (f reading) k) s :=
    host.go_carry_of_ok (answerMessage_now shown)
  cases left : remaining? reading due with
  | some nanos =>
    obtain ⟨pos, rfl⟩ := remaining?_eq_some_iff.mp left
    refine .congr (.wait pos (fun slept => if slept then next.run ctx else
      .done (.error (.pipeline .cancelled), ctx)) k) ?_
    rw [step, delayed]
    refine (looked _).trans ?_
    rw [left]
  | none =>
    rw [remaining?_eq_none_iff.mp left, Nat.min_zero]
    refine .at_once ?_
    rw [step, delayed]
    refine (looked _).trans ?_
    rw [left]

/-! ## The law of delays -/

/-- How a message is delayed that is handled in the scope, where waits of so many nanoseconds are
let be as long as `allowed` says. -/
structure Law (host : Host D) (allowed : Nat → Nat) (s : Scope) (ctx : MessageContext) : Prop where
  /-- A message is put off until it is due, by the clock that is read. -/
  due : ∀ published seconds reading, Asks ctx.message.headers published seconds →
    Writable published seconds → s.stage.clock.reading s.stage.now = .shown reading →
      PutsOff host s ctx (allowed (lag published seconds reading))
  /-- A message that does not ask for it is not put off. -/
  undelayed : (¬ ∃ published seconds, Asks ctx.message.headers published seconds) →
    PutsOff host s ctx 0

/-- What the step waits for where it waits at all. -/
theorem putsOff_of_writable (sound : ctx.message.headers.Sound)
    (asks : Asks ctx.message.headers published seconds) (writable : Writable published seconds)
    (shown : s.stage.clock.reading s.stage.now = .shown reading) :
    PutsOff host s ctx (min Host.longestWait (lag published seconds reading)) := by
  obtain ⟨due, delayed, instant⟩ := addSeconds?_of_writable writable
  have until_ : (reading.nanosTo due).toNat = lag published seconds reading := by
    rw [Timestamp.nanosTo, instant, lag]
  rw [← until_]
  exact putsOff_of_due?_eq_some ((due?_of_asks sound asks).trans delayed) shown

theorem putsOff_of_not_writable (sound : ctx.message.headers.Sound)
    (asks : Asks ctx.message.headers published seconds)
    (unwritable : ¬ Writable published seconds) : PutsOff host s ctx 0 :=
  putsOff_of_due?_eq_none
    ((due?_of_asks sound asks).trans (addSeconds?_of_not_writable unwritable))

theorem step_law (host : Host D) (s : Scope) (sound : ctx.message.headers.Sound) :
    Law host (min Host.longestWait) s ctx where
  due _ _ _ asks writable shown := putsOff_of_writable sound asks writable shown
  undelayed silent := by
    refine putsOff_of_due?_eq_none (Option.eq_none_iff_forall_ne_some.mpr fun due delayed => ?_)
    exact silent (asks_of_due? sound delayed)

/-- A message with both headers, their names spelled in other cases. -/
def stamped (published seconds : String) : MessageContext :=
  ⟨{ (default : Message) with
      headers := .ofList [⟨"x-publishedat", published⟩, ⟨"X-DELAYSECONDS", seconds⟩] }, []⟩

theorem sound_stamped (published seconds : String) :
    (stamped published seconds).message.headers.Sound :=
  Headers.sound_ofList _

theorem asks_stamped {text text' : String} (read : Rfc3339.read? (trim text) = some published)
    (read' : NumeralRange.int64.read? (trim text') = some seconds) :
    Asks (stamped text text').message.headers published seconds := by
  have get? (name : String) : (stamped text text').message.headers.get? name =
      if SameName name "X-DELAYSECONDS" then some text'
      else if SameName name "x-publishedat" then some text else none := by
    rw [stamped, Headers.ofList, List.foldl_cons, List.foldl_cons, List.foldl_nil,
      Headers.get?_insert, Headers.get?_insert]
    rfl
  have sound := sound_stamped text text'
  refine ⟨⟨text, sound.get?_eq_some_iff.mp ?_, read⟩, ⟨text', sound.get?_eq_some_iff.mp ?_, read'⟩⟩
  · rw [get?, if_neg (by decide +kernel), if_pos (by decide +kernel)]
  · rw [get?, if_pos (by decide +kernel)]

/-- The beginning, under a clock that always shows the instant. -/
def under (instant : Timestamp) : Scope := ⟨.fresh (.fixed instant), false, false, none⟩

/-- Noon of 1 May 2024, in UTC. -/
def noon : Timestamp := ⟨1714564800 * nanosPerSecond, 0, by decide⟩

/-- A quarter of a second later, two hours ahead of UTC. -/
def soonAfter : Timestamp := ⟨1714564800 * nanosPerSecond + 250000000, 7200, by decide⟩

/-- A message of the next moment that is to be delayed by five seconds. -/
theorem stamped_law :
    (stamped " 2024-05-01T14:00:00.25+02:00 " "\t5").message.headers.Sound ∧
      Asks (stamped " 2024-05-01T14:00:00.25+02:00 " "\t5").message.headers soonAfter 5 ∧
      PutsOff Host.task (under noon) (stamped " 2024-05-01T14:00:00.25+02:00 " "\t5")
        5250000000 := by
  have sound := sound_stamped " 2024-05-01T14:00:00.25+02:00 " "\t5"
  have asks : Asks (stamped " 2024-05-01T14:00:00.25+02:00 " "\t5").message.headers soonAfter 5 :=
    asks_stamped (by decide +kernel) (by decide +kernel)
  have law := step_law Host.task (under noon) sound
  exact ⟨sound, asks, law.due soonAfter 5 noon asks (by decide) rfl⟩

/-! ## Longer delays -/

/-- As long as nobody cancels it, the rest of the chain begins at this time, whatever the rest
is. -/
def Begins (host : Host D) (s : Scope) (ctx : MessageContext) (time : Nat) : Prop :=
  ∀ (next : Next (MessageRoutine staging) MessageContext)
    (k : Outcome × MessageContext → Routine D Outcome),
    host.Begins s (host.carry (step next ctx) k) (host.carry (next.run ctx) k) time

theorem Begins.le {time later : Nat} (calm : s.isCancelled = false)
    (first : Begins host s ctx time) (second : Begins host s ctx later) : later ≤ time :=
  (first ⟨0, fun ctx => pure (.ok (), ctx)⟩ fun _ => .done (.ok ())).le calm (second _ _)
    ⟨.ok (), s, rfl⟩

/-- What is put off begins at the end of the wait, and at no other time. -/
theorem begins_iff {nanos time : Nat} (calm : s.isCancelled = false)
    (off : PutsOff host s ctx nanos) :
    Begins host s ctx time ↔ time = s.stage.now + coveringMillis nanos := by
  have begins : Begins host s ctx (s.stage.now + coveringMillis nanos) :=
    fun next k => (off next k).begins calm (Host.isEnd_iff.mpr rfl)
  exact ⟨fun first => (begins.le calm first).antisymm (first.le calm begins), fun h => h ▸ begins⟩

/-- The beginning of the year 2100. -/
def nextCentury : Timestamp := ⟨4102444800 * nanosPerSecond, 0, by decide⟩

/-- No message is put off for seventy-five years. -/
theorem exists_cut_short :
    Begins Host.task (under noon) (stamped "2100-01-01T00:00:00Z" "0") longestSleep ∧
      ¬ Law Host.task id (under noon) (stamped "2100-01-01T00:00:00Z" "0") := by
  have asks : Asks (stamped "2100-01-01T00:00:00Z" "0").message.headers nextCentury 0 :=
    asks_stamped (by decide +kernel) (by decide +kernel)
  have cut : Begins Host.task (under noon) (stamped "2100-01-01T00:00:00Z" "0")
      longestSleep :=
    (begins_iff rfl (putsOff_of_writable (sound_stamped _ _) asks (by decide) rfl)).mpr
      (by decide +kernel)
  refine ⟨cut, fun law => ?_⟩
  have off := law.due nextCentury 0 noon asks (by decide) rfl
  exact absurd ((begins_iff rfl off).mp cut) (by decide +kernel)

/-- The nanoseconds for which a message is put off. -/
def span (published : Timestamp) (seconds : Int) (reading : Timestamp) : Nat :=
  if Writable published seconds then min Host.longestWait (lag published seconds reading) else 0

theorem putsOff_span (sound : ctx.message.headers.Sound)
    (asks : Asks ctx.message.headers published seconds)
    (shown : s.stage.clock.reading s.stage.now = .shown reading) :
    PutsOff host s ctx (span published seconds reading) := by
  unfold span
  split
  · next writable => exact putsOff_of_writable sound asks writable shown
  · next unwritable => exact putsOff_of_not_writable sound asks unwritable

/-- Only the end of the years can cut a longer delay short. -/
theorem span_mono {more : Int} (le : seconds ≤ more)
    (within : Writable published seconds →
      published.localNanos + more * nanosPerSecond ≤ lastLocalNano) :
    span published seconds reading ≤ span published more reading := by
  unfold span
  split
  · next writable =>
    have writable' : Writable published more := by
      refine ⟨?_, within writable⟩
      have from_first := writable.1
      unfold nanosPerSecond at *
      omega
    rw [if_pos writable']
    exact inf_le_inf_left _ (lag_mono le)
  · exact Nat.zero_le _

/-- Of two messages that differ in the delay, the one with the longer delay is handled no earlier,
unless the other one has to wait and the longer delay ends after the last date that can be
written. -/
theorem begins_mono_iff {ctx₁ ctx₂ : MessageContext} {seconds₁ seconds₂ : Int}
    (calm : s.isCancelled = false)
    (shown : s.stage.clock.reading s.stage.now = .shown reading)
    (sound₁ : ctx₁.message.headers.Sound) (sound₂ : ctx₂.message.headers.Sound)
    (asks₁ : Asks ctx₁.message.headers published seconds₁)
    (asks₂ : Asks ctx₂.message.headers published seconds₂) (le : seconds₁ ≤ seconds₂) :
    ∃ time₁ time₂, (∀ t, Begins host s ctx₁ t ↔ t = time₁) ∧
      (∀ t, Begins host s ctx₂ t ↔ t = time₂) ∧
      (time₁ ≤ time₂ ↔ (s.stage.now < time₁ →
        published.localNanos + seconds₂ * nanosPerSecond ≤ lastLocalNano)) := by
  refine ⟨_, _, fun t => begins_iff calm (putsOff_span sound₁ asks₁ shown),
    fun t => begins_iff calm (putsOff_span sound₂ asks₂ shown), ?_⟩
  have ended₁ := Host.isEnd_iff.mpr (Eq.refl (s.stage.now + coveringMillis
    (span published seconds₁ reading)))
  have ended₂ := Host.isEnd_iff.mpr (Eq.refl (s.stage.now + coveringMillis
    (span published seconds₂ reading)))
  constructor
  · intro ordered after
    by_contra beyond
    have unwritable : ¬ Writable published seconds₂ := fun writable => beyond writable.2
    have later := after.trans_le ordered
    rw [ended₂.start_lt_iff, span, if_neg unwritable] at later
    exact Nat.lt_irrefl 0 later
  · intro within
    by_cases after : s.stage.now < s.stage.now + coveringMillis (span published seconds₁ reading)
    · exact ended₁.mono (span_mono le fun _ => within after) ended₂
    · exact (Nat.le_of_not_lt after).trans ended₂.start_le

/-- Delays by one and by two seconds. -/
theorem stamped_begins_mono :
    ∃ time₁ time₂,
      (∀ t, Begins Host.task (under noon) (stamped "2024-05-01T14:00:00.25+02:00" "1") t ↔
        t = time₁) ∧
      (∀ t, Begins Host.task (under noon) (stamped "2024-05-01T14:00:00.25+02:00" "2") t ↔
        t = time₂) ∧
      time₁ ≤ time₂ := by
  obtain ⟨time₁, time₂, first, second, ordered⟩ :=
    @begins_mono_iff _ Host.task (under noon) soonAfter noon
      (stamped "2024-05-01T14:00:00.25+02:00" "1") (stamped "2024-05-01T14:00:00.25+02:00" "2")
      1 2 rfl rfl (sound_stamped _ _) (sound_stamped _ _)
      (asks_stamped (by decide +kernel) (by decide +kernel))
      (asks_stamped (by decide +kernel) (by decide +kernel)) (by decide)
  exact ⟨time₁, time₂, first, second, ordered.mpr fun _ => by decide⟩

/-- Three seconds before the end of the last year that can be written. -/
def lastMoments : Timestamp := ⟨lastLocalNano + 1 - 3 * nanosPerSecond, 0, by decide⟩

/-- A second later. -/
def lastButOne : Timestamp := ⟨lastLocalNano + 1 - 2 * nanosPerSecond, 0, by decide⟩

/-- At the end of the years a longer delay begins before a shorter one. -/
theorem exists_overtaken :
    (∀ t, Begins Host.task (under lastMoments) (stamped "9999-12-31T23:59:58Z" "1") t ↔
      t = 2000) ∧
    (∀ t, Begins Host.task (under lastMoments) (stamped "9999-12-31T23:59:58Z" "2") t ↔
      t = 0) := by
  have asks₁ : Asks (stamped "9999-12-31T23:59:58Z" "1").message.headers lastButOne 1 :=
    asks_stamped (by decide +kernel) (by decide +kernel)
  have asks₂ : Asks (stamped "9999-12-31T23:59:58Z" "2").message.headers lastButOne 2 :=
    asks_stamped (by decide +kernel) (by decide +kernel)
  have off₁ : PutsOff Host.task (under lastMoments) (stamped "9999-12-31T23:59:58Z" "1")
      (span lastButOne 1 lastMoments) := putsOff_span (sound_stamped _ _) asks₁ rfl
  have off₂ : PutsOff Host.task (under lastMoments) (stamped "9999-12-31T23:59:58Z" "2")
      (span lastButOne 2 lastMoments) := putsOff_span (sound_stamped _ _) asks₂ rfl
  exact ⟨fun t => begins_iff rfl off₁, fun t => begins_iff rfl off₂⟩

end TopicConsumer.Delay
