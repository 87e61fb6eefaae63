import TopicConsumer.Proofs.Consumer.Moves
import TopicConsumer.Proofs.Worker.Company

/-!
# A consumer and its broker

A service is a consumer with everybody who is at work in it: its poll loop, the batchers and
handlers of its workers, the tasks that close removed workers and the calls that close the consumer.
With it goes what the broker feeds of one partition. `Service.Act` says who moves next, and
`Service.step` is one atomic move. What a step can be is said once, in `Service.Move`, and whatever
holds of every move is proved by cases on it.

The broker hands partitions out while the loop polls. It begins to feed a partition anew, from the
committed position on and without a pause, when it hands it out after having taken it away;
`Service.Anew` says that a move does this.
-/

namespace TopicConsumer

namespace ConsumerEvent

/-- What happens at a worker or in the broker. -/
def moment? : ConsumerEvent → Option Moment
  | .work e => some (.event e)
  | _ => none

/-- What happens at the workers and in the broker. -/
def moments (events : List ConsumerEvent) : List Moment := events.filterMap moment?

@[simp] theorem moments_append (events more : List ConsumerEvent) :
    moments (events ++ more) = moments events ++ moments more :=
  List.filterMap_append

@[simp] theorem moments_map_work (events : List Event) :
    moments (events.map .work) = events.map .event := by
  induction events with
  | nil => rfl
  | cons e events ih => exact congrArg (Moment.event e :: ·) ih

theorem event_mem_moments {events : List ConsumerEvent} {e : Event} :
    .event e ∈ moments events ↔ .work e ∈ events := by
  rw [moments, List.mem_filterMap]
  constructor
  · rintro ⟨event, mem, h⟩
    cases event <;> cases h
    exact mem
  · exact fun mem => ⟨_, mem, rfl⟩

namespace Quiet

variable {p : TopicPartition} {events : List ConsumerEvent} (quiet : Quiet events)

include quiet

theorem hearAll (feed : Feed) : feed.hearAll p (moments events) = feed :=
  feed.hearAll_of_silent p fun call answered mem => quiet call answered (event_mem_moments.mp mem)

theorem marks {P : Offset → Prop} : ∀ m ∈ moments events, ∀ n, m.Marks p n → P n := by
  rintro m mem n ⟨answered, rfl | rfl⟩ <;> exact absurd (event_mem_moments.mp mem) (quiet _ _)

end Quiet

end ConsumerEvent

namespace Feed

variable (p : TopicPartition) (feed : Feed)

/-- The partition is handed out or taken away. -/
def handOut (ps : List TopicPartition) : Feed :=
  if p ∈ ps then
    if feed.isOpen then feed
    else { feed with isOpen := true, position := feed.committed, paused := false }
  else { feed with isOpen := false }

/-- The partition is taken away. -/
def takeBack (ps : List TopicPartition) : Feed :=
  if p ∈ ps then { feed with isOpen := false } else feed

/-- The feed goes past a record of the partition that a poll has found. -/
def polled : PollResult → Feed
  | .ok (some (.record r)) => if r.partition = p then feed.past r else feed
  | _ => feed

/-- What is stored is committed. -/
def flush : Feed := { feed with committed := feed.stored.getD feed.committed }

end Feed

/-- A consumer, the calls that close it, and what the broker feeds of a partition. -/
structure Service where
  consumer : Consumer
  closings : List Closing
  feed : Feed

namespace Service

/-- Who moves, or what happens. -/
inductive Act where
  /-- The loop goes on by itself. -/
  | loop
  /-- A poll ends. -/
  | polled (result : PollResult)
  /-- It is decided what to do about an error. -/
  | decided (decision : Decision)
  /-- Those are done who want to know that the consumer is closed by its loop. -/
  | notified (answer : Except String Unit)
  /-- The broker hands out these partitions and no others. -/
  | assign (ps : List TopicPartition)
  /-- The broker is about to take these partitions away. -/
  | revoke (ps : List TopicPartition)
  /-- The batcher of a worker goes on. -/
  | batch (worker : Nat)
  /-- The handler of a worker ends. -/
  | handler (worker : Nat) (ending : Batcher.Ending)
  /-- A task that closes a removed worker goes on. -/
  | removal (task : Nat)
  /-- The application asks for the shutdown. -/
  | stop
  /-- A call that closes the consumer begins. -/
  | close
  /-- A call that closes the consumer goes on. -/
  | closing (n : Nat)
  /-- Those are done who want to know that the consumer is closed by a call. -/
  | closingNotified (n : Nat) (answer : Except String Unit)
  /-- The broker commits what is stored. -/
  | flush

/-- The consumer with its loop at another place. -/
def turnTo (c : Consumer) (loop : PollLoop) : Consumer := { c with loop := some loop }

/-- The consumer after a rebalance, which may have crashed its loop. -/
def rebalanced (c : Consumer) (crash : Option String) : Consumer :=
  crash.elim c fun text => turnTo c (.crashed text)

variable (p : TopicPartition) (profile : ConsumerProfile) (env : Surroundings) (v : Service)

/-- The service when its consumer has moved and the broker has heard what happened. -/
def heard (c : Consumer) (moments : List Moment) : Service :=
  ⟨c, v.closings, v.feed.hearAll p moments⟩

/-- The service after a move, with what happened. -/
def step : Act → Option (Service × List Moment)
  | .loop => do
    let loop ← v.consumer.loop
    let (c, loop, events) ← loop.step env profile v.consumer
    let moments := ConsumerEvent.moments events
    some (v.heard p (turnTo c loop) moments, moments)
  | .polled result =>
    match v.consumer.loop with
    | some .polling =>
      let (loop, events) := PollLoop.polled v.consumer result
      some (⟨turnTo v.consumer loop, v.closings, v.feed.polled p result⟩,
        ConsumerEvent.moments events)
    | _ => none
  | .decided decision =>
    match v.consumer.loop with
    | some (.deciding _) =>
      let (loop, events) := PollLoop.decided decision
      some ({ v with consumer := turnTo v.consumer loop }, ConsumerEvent.moments events)
    | _ => none
  | .notified answer =>
    match v.consumer.loop with
    | some (.shuttingDown s) => do
      let (s, events) ← s.notified answer
      some ({ v with consumer := turnTo v.consumer (.ofShutdown s) }, ConsumerEvent.moments events)
    | _ => none
  | .assign ps =>
    match v.consumer.loop with
    | some .polling =>
      let (c, events, crash) := v.consumer.assign env profile true ps
      some (⟨rebalanced c crash, v.closings, v.feed.handOut p ps⟩, ConsumerEvent.moments events)
    | _ => none
  | .revoke ps =>
    match v.consumer.loop with
    | some .polling =>
      let (c, events, crash) := Consumer.revoke env ps v.consumer
      let moments := ConsumerEvent.moments events
      some (⟨rebalanced c crash, v.closings, (v.feed.hearAll p moments).takeBack p ps⟩, moments)
    | _ => none
  | .batch worker => do
    let s ← v.consumer.station? worker
    let (s, events) ← Batcher.step env s
    some (v.heard p (v.consumer.setStation worker s) (events.map .event), events.map .event)
  | .handler worker ending => do
    let s ← v.consumer.station? worker
    let (t, events) ← Batcher.handlerEnds env ending s
    let moments := Moment.ofEnding s.worker.batcher.batch ending ++ events.map .event
    some (v.heard p (v.consumer.setStation worker t) moments, moments)
  | .removal task => do
    let (worker, call) ← v.consumer.removals[task]?
    let s ← v.consumer.station? worker
    let (s, call, events) ← call.step env s
    let c := v.consumer.setStation worker s
    let c := { c with removals := c.removals.set task (worker, call) }
    some (v.heard p c (events.map .event), events.map .event)
  | .stop => some ({ v with consumer := { v.consumer with applicationStops := true } }, [])
  | .close => some ({ v with closings := v.closings ++ [.stoppingLoop] }, [])
  | .closing n => do
    let call ← v.closings[n]?
    let (c, call, events) ← call.step env profile v.consumer
    let moments := ConsumerEvent.moments events
    some (⟨c, v.closings.set n call, v.feed.hearAll p moments⟩, moments)
  | .closingNotified n answer =>
    match v.closings[n]? with
    | some (.shuttingDown s) => do
      let (s, events) ← s.notified answer
      some ({ v with closings := v.closings.set n (.ofShutdown s) }, ConsumerEvent.moments events)
    | _ => none
  | .flush => some ({ v with feed := v.feed.flush }, [])

variable {p}

/-- A poll finds no record of the partition but the one that is fed next. -/
def May (log : PartitionLog p) : Act → Prop
  | .polled (.ok (some (.record r))) => r.partition = p → v.feed.Feeds log r
  | _ => True

variable (p)

/-- The broker begins to feed the partition anew. -/
def Anew : Act → Prop
  | .assign ps => p ∈ ps ∧ v.feed.isOpen = false
  | _ => False

/-- The partition is not paused when the broker begins to feed it anew. -/
def AfreshOnly (act : Act) : Prop :=
  v.Anew p act → (v.consumer.manager.state p).pausedAt = none

variable {p}

/-! ## Moves -/

/-- What a step of the service can be. -/
inductive Move (p : TopicPartition) (profile : ConsumerProfile) (env : Surroundings) (v : Service) :
    Act → Service → List Moment → Prop
  | loop {loop next : PollLoop} {c : Consumer} {events : List ConsumerEvent}
      (place : v.consumer.loop = some loop)
      (move : PollLoop.Move env profile v.consumer loop c next events) :
      Move p profile env v .loop (v.heard p (turnTo c next) (ConsumerEvent.moments events))
        (ConsumerEvent.moments events)
  | polled {result : PollResult} (polling : v.consumer.loop = some .polling) :
      Move p profile env v (.polled result)
        ⟨turnTo v.consumer (PollLoop.polled v.consumer result).1, v.closings,
          v.feed.polled p result⟩
        (ConsumerEvent.moments (PollLoop.polled v.consumer result).2)
  | decided {error : BrokerError} {decision : Decision}
      (deciding : v.consumer.loop = some (.deciding error)) :
      Move p profile env v (.decided decision)
        { v with consumer := turnTo v.consumer (PollLoop.decided decision).1 }
        (ConsumerEvent.moments (PollLoop.decided decision).2)
  | notified {answer : Except String Unit} {events : List ConsumerEvent}
      (place : v.consumer.loop = some (.shuttingDown .notifying))
      (quiet : ConsumerEvent.Quiet events) :
      Move p profile env v (.notified answer)
        { v with consumer := turnTo v.consumer (.ofShutdown .finishing) }
        (ConsumerEvent.moments events)
  | assign {ps : List TopicPartition} (polling : v.consumer.loop = some .polling) :
      Move p profile env v (.assign ps)
        ⟨rebalanced (v.consumer.assign env profile true ps).1
            (v.consumer.assign env profile true ps).2.2,
          v.closings, v.feed.handOut p ps⟩
        (ConsumerEvent.moments (v.consumer.assign env profile true ps).2.1)
  | revoke {ps : List TopicPartition} (polling : v.consumer.loop = some .polling) :
      Move p profile env v (.revoke ps)
        ⟨rebalanced (Consumer.revoke env ps v.consumer).1 (Consumer.revoke env ps v.consumer).2.2,
          v.closings,
          (v.feed.hearAll p
            (ConsumerEvent.moments (Consumer.revoke env ps v.consumer).2.1)).takeBack p ps⟩
        (ConsumerEvent.moments (Consumer.revoke env ps v.consumer).2.1)
  | batch {i : Nat} {worker : Worker} {s : Station} {events : List Event}
      (present : v.consumer.workers[i]? = some worker)
      (move : Batcher.Move env ⟨v.consumer.manager, worker⟩ s events) :
      Move p profile env v (.batch i)
        (v.heard p (v.consumer.setStation i s) (events.map .event)) (events.map .event)
  | handler {i : Nat} {ending : Batcher.Ending} {worker : Worker} {s : Station}
      {events : List Event} (present : v.consumer.workers[i]? = some worker)
      (ends : Batcher.Ends env ⟨v.consumer.manager, worker⟩ ending s events) :
      Move p profile env v (.handler i ending)
        (v.heard p (v.consumer.setStation i s)
          (Moment.ofEnding worker.batcher.batch ending ++ events.map .event))
        (Moment.ofEnding worker.batcher.batch ending ++ events.map .event)
  | removal {task i : Nat} {d e : Disposal} {worker : Worker} {s : Station} {events : List Event}
      (call : v.consumer.removals[task]? = some (i, d))
      (present : v.consumer.workers[i]? = some worker)
      (move : Disposal.Move env ⟨v.consumer.manager, worker⟩ d s e events) :
      Move p profile env v (.removal task)
        (v.heard p
          { v.consumer.setStation i s with removals := v.consumer.removals.set task (i, e) }
          (events.map .event))
        (events.map .event)
  | stop :
      Move p profile env v .stop { v with consumer := { v.consumer with applicationStops := true } }
        []
  | close : Move p profile env v .close { v with closings := v.closings ++ [.stoppingLoop] } []
  | closing {n : Nat} {call next : Closing} {c : Consumer} {events : List ConsumerEvent}
      (found : v.closings[n]? = some call)
      (move : call.step env profile v.consumer = some (c, next, events)) :
      Move p profile env v (.closing n)
        ⟨c, v.closings.set n next, v.feed.hearAll p (ConsumerEvent.moments events)⟩
        (ConsumerEvent.moments events)
  | closingNotified {n : Nat} {answer : Except String Unit} {events : List ConsumerEvent}
      (found : v.closings[n]? = some (.shuttingDown .notifying))
      (quiet : ConsumerEvent.Quiet events) :
      Move p profile env v (.closingNotified n answer)
        { v with closings := v.closings.set n (.ofShutdown .finishing) }
        (ConsumerEvent.moments events)
  | flush : Move p profile env v .flush { v with feed := v.feed.flush } []

variable {profile} {env} {v}

theorem move_of_step {w : Service} {act : Act} {moments : List Moment}
    (h : v.step p profile env act = some (w, moments)) : Move p profile env v act w moments := by
  cases act with
  | loop =>
    simp only [step, bind, Option.bind_eq_some_iff, Prod.exists] at h
    obtain ⟨loop, place, c, next, events, move, h⟩ := h
    cases h
    exact .loop place (PollLoop.move_of_step move)
  | polled result =>
    simp only [step] at h
    split at h
    · next polling =>
      cases h
      exact .polled polling
    · cases h
  | decided decision =>
    simp only [step] at h
    split at h
    · next error deciding =>
      cases h
      exact .decided deciding
    · cases h
  | notified answer =>
    simp only [step] at h
    split at h
    · next s place =>
      simp only [bind, Option.bind_eq_some_iff, Prod.exists] at h
      obtain ⟨t, events, notified, h⟩ := h
      cases h
      obtain ⟨rfl, rfl, quiet⟩ := Shutdown.notified_spec notified
      exact .notified place quiet
    · cases h
  | assign ps =>
    simp only [step] at h
    split at h
    · next polling =>
      cases h
      exact .assign polling
    · cases h
  | revoke ps =>
    simp only [step] at h
    split at h
    · next polling =>
      cases h
      exact .revoke polling
    · cases h
  | batch i =>
    simp only [step, bind, Option.bind_eq_some_iff, Prod.exists] at h
    obtain ⟨station, found, s, events, move, h⟩ := h
    cases h
    obtain ⟨worker, present, rfl⟩ := Option.map_eq_some_iff.mp found
    exact .batch present (Batcher.move_of_step move)
  | handler i ending =>
    simp only [step, bind, Option.bind_eq_some_iff, Prod.exists] at h
    obtain ⟨station, found, s, events, ends, h⟩ := h
    cases h
    obtain ⟨worker, present, rfl⟩ := Option.map_eq_some_iff.mp found
    exact .handler present (Batcher.ends_of_handlerEnds ends)
  | removal task =>
    simp only [step, bind, Option.bind_eq_some_iff, Prod.exists] at h
    obtain ⟨i, d, call, station, found, s, e, events, move, h⟩ := h
    cases h
    obtain ⟨worker, present, rfl⟩ := Option.map_eq_some_iff.mp found
    exact .removal call present (Disposal.move_of_step move)
  | stop => cases h; exact .stop
  | close => cases h; exact .close
  | closing n =>
    simp only [step, bind, Option.bind_eq_some_iff, Prod.exists] at h
    obtain ⟨call, found, c, next, events, move, h⟩ := h
    cases h
    exact .closing found move
  | closingNotified n answer =>
    simp only [step] at h
    split at h
    · next s found =>
      simp only [bind, Option.bind_eq_some_iff, Prod.exists] at h
      obtain ⟨t, events, notified, h⟩ := h
      cases h
      obtain ⟨rfl, rfl, quiet⟩ := Shutdown.notified_spec notified
      exact .closingNotified found quiet
    · cases h
  | flush => cases h; exact .flush

/-! ## Runs -/

variable (profile) (v)

/-- A run with its history, in which the broker is willing and every move obeys a rule. -/
inductive Run (log : PartitionLog p) (rule : Service → Act → Prop) (v₀ : Service) :
    List Moment → Service → Prop
  | start : Run log rule v₀ [] v₀
  | step {history : List Moment} {v w : Service} {env : Surroundings} {act : Act}
      {moments : List Moment} (run : Run log rule v₀ history v) (willing : env.answers.Willing)
      (may : v.May log act) (obeys : rule v act)
      (step : v.step p profile env act = some (w, moments)) :
      Run log rule v₀ (history ++ moments) w

/-- The service of a consumer that has just been started, whose partition is to be read from a
position. -/
def opened (start : Offset) : Service :=
  ⟨(Consumer.start profile true .done .fresh).1, [], ⟨false, start, false, none, start⟩⟩

/-! ## Schedules -/

/-- The move of a schedule may be made if the partition holds bare records from `first` to `last`.
-/
def mayPlain (p : TopicPartition) (first last : Offset) : Act → Bool
  | .polled (.ok (some (.record r))) =>
    v.feed.isOpen && !v.feed.paused && decide (first ≤ v.feed.position) &&
      decide (v.feed.position ≤ last) && decide (r = .bare p v.feed.position)
  | _ => true

theorem may_of_mayPlain {first last : Offset} {act : Act}
    (h : v.mayPlain p first last act = true) : v.May (.plain p first last) act := by
  cases act with
  | polled result =>
    rcases result with e | (- | (r | n))
    · trivial
    · trivial
    · simp only [mayPlain, Bool.and_eq_true, Bool.not_eq_true', decide_eq_true_eq] at h
      obtain ⟨⟨⟨⟨isOpen, running⟩, ge⟩, le⟩, rfl⟩ := h
      exact fun _ => ⟨isOpen, running, PartitionLog.next_plain ge le⟩
    · trivial
  | _ => trivial

/-- The move hands the partition out only while it is not paused. -/
def afresh (p : TopicPartition) : Act → Bool
  | .assign ps => !ps.contains p || v.feed.isOpen || (v.consumer.manager.state p).pausedAt.isNone
  | _ => true

theorem afreshOnly_of_afresh {act : Act} (h : v.afresh p act = true) : v.AfreshOnly p act := by
  cases act with
  | assign ps =>
    rintro ⟨mem, shut⟩
    simpa [afresh, mem, shut] using h
  | _ => exact fun anew => anew.elim

/-- Makes the moves of a schedule, each at its time, and leaves out those that cannot be made or
that break the rule. -/
def play (p : TopicPartition) (profile : ConsumerProfile) (rule : Service → Act → Bool)
    (first last : Offset) (v : Service) : List (Nat × Act) → Service × List Moment
  | [] => (v, [])
  | (now, act) :: rest =>
    match if v.mayPlain p first last act && rule v act then v.step p profile (.calm now) act
      else none with
    | some (w, moments) =>
      ((w.play p profile rule first last rest).1,
        moments ++ (w.play p profile rule first last rest).2)
    | none => v.play p profile rule first last rest

variable {profile} {v}

/-- A schedule continues a run. -/
theorem Run.play {first last : Offset} {rule : Service → Act → Prop} {check : Service → Act → Bool}
    (sound : ∀ v act, check v act = true → rule v act) {v₀ : Service} {history : List Moment}
    (run : Run profile (.plain p first last) rule v₀ history v) (schedule : List (Nat × Act)) :
    Run profile (.plain p first last) rule v₀
      (history ++ (v.play p profile check first last schedule).2)
      (v.play p profile check first last schedule).1 := by
  induction schedule generalizing history v with
  | nil => simpa [Service.play] using run
  | cons move rest ih =>
    obtain ⟨now, act⟩ := move
    rw [Service.play]
    split
    · next w moments made =>
      split at made
      · next checked =>
        rw [Bool.and_eq_true] at checked
        rw [← List.append_assoc]
        have may := may_of_mayPlain v checked.1
        exact ih (run.step (fun _ => rfl) may (sound v act checked.2) made)
      · cases made
    · exact ih run

/-- A schedule is a run. -/
theorem run_play (profile : ConsumerProfile) (p : TopicPartition) (first last : Offset)
    {rule : Service → Act → Prop} {check : Service → Act → Bool}
    (sound : ∀ v act, check v act = true → rule v act) (v : Service) (schedule : List (Nat × Act)) :
    Run profile (.plain p first last) rule v (v.play p profile check first last schedule).2
      (v.play p profile check first last schedule).1 :=
  Run.start.play sound schedule

/-- A consumer of one topic, whose workers take records one by one and have room for two. -/
def narrow : ConsumerProfile where
  info := ⟨"orders-1", "orders"⟩
  topics := ["orders"]
  routing _ := some { batchSize := 1, queueCapacity := 2 }
  hasHook := false

/-- The record of an offset is found and passed on, and the loop turns. -/
def passing (p : TopicPartition) (offset : Offset) : List Act :=
  .polled (.ok (some (.record (.bare p offset)))) :: List.replicate 7 .loop

/-- A worker forms a batch, has it handled and stores its position. -/
def handling (worker : Nat) : List Act :=
  List.replicate 5 (.batch worker) ++ .handler worker .handled :: List.replicate 3 (.batch worker)

end Service

end TopicConsumer
