import TopicConsumer.Proofs.Worker.Worksite

/-!
# What a partition feeds

The broker feeds the records of a partition from a position, unless the partition is paused there.
`Feed.hear` is what the broker makes of a call that it has done: a seek moves the position, and a
pause and a resume stop and continue the feed. What is stored and committed decides where the feed
begins when the partition is handed out anew.

`Backed log start history` is what at-least-once delivery means for a history: whenever a position
was stored or committed, the handler had returned without an error from a batch with each record
that stands between the start and this position. A `Ledger` says more generally which records count
as done with; `Backed` is the case of the strict ledger, where only handled records count.
-/

namespace TopicConsumer

/-- What the broker knows of a partition. -/
structure Feed where
  /-- The partition is handed out. -/
  isOpen : Bool
  /-- The offset from which records are fed. -/
  position : Offset
  paused : Bool
  /-- The position that will be committed of itself. -/
  stored : Option Offset
  committed : Offset

namespace Feed

/-- What the broker makes of a call that is answered. -/
def answer (p : TopicPartition) (feed : Feed) : BrokerCall × Answer → Feed
  | (.seek q, .done) => if q.partition = p then { feed with position := q.offset } else feed
  | (.pause q, .done) => if q = p then { feed with paused := true } else feed
  | (.resume q, .done) => if q = p then { feed with paused := false } else feed
  | (.store q, .done) => if q.partition = p then { feed with stored := some q.offset } else feed
  | (.commit q, .done) => if q.partition = p then { feed with committed := q.offset } else feed
  | _ => feed

/-- What the broker makes of what happens. -/
def hear (p : TopicPartition) (feed : Feed) : Moment → Feed
  | .event (.call call answered) => feed.answer p (call, answered)
  | _ => feed

/-- What the broker makes of a history. -/
def hearAll (p : TopicPartition) (feed : Feed) (moments : List Moment) : Feed :=
  moments.foldl (hear p) feed

/-- The record is fed next. -/
def Feeds {p : TopicPartition} (log : PartitionLog p) (feed : Feed) (r : Record) : Prop :=
  feed.isOpen = true ∧ feed.paused = false ∧ log.Next feed.position r

/-- The record is fed. -/
def past (feed : Feed) (r : Record) : Feed := { feed with position := r.offset + 1 }

variable (p : TopicPartition) (feed : Feed)

@[simp] theorem hearAll_nil : feed.hearAll p [] = feed := rfl

@[simp] theorem hearAll_append (k l : List Moment) :
    feed.hearAll p (k ++ l) = (feed.hearAll p k).hearAll p l :=
  List.foldl_append

/-- The broker hears nothing but its calls. -/
theorem hearAll_of_silent {moments : List Moment}
    (silent : ∀ call answered, .event (.call call answered) ∉ moments) :
    feed.hearAll p moments = feed := by
  induction moments with
  | nil => rfl
  | cons m moments ih =>
    have here : feed.hear p m = feed := by
      unfold hear
      split
      · exact absurd List.mem_cons_self (silent _ _)
      · rfl
    rw [hearAll, List.foldl_cons, here]
    exact ih fun call answered h => silent call answered (List.mem_cons_of_mem m h)

section Operations

variable (env : Surroundings) (s : Station) (op : StateOp)

theorem hearAll_performing (q : TopicPartition) :
    feed.hearAll p ((s.performing env q op).map .event) =
      (s.manager.effect q env.answers op).calls.foldl (answer p) feed := by
  have logs : ∀ (lines : List LogLine) (feed : Feed),
      feed.hearAll p ((lines.map Event.log).map .event) = feed :=
    fun lines feed => feed.hearAll_of_silent p (by simp)
  have calls : ∀ (cs : List (BrokerCall × Answer)) (feed : Feed),
      feed.hearAll p ((cs.map fun c => Event.call c.1 c.2).map .event) =
        cs.foldl (answer p) feed := by
    intro cs
    induction cs with
    | nil => exact fun _ => rfl
    | cons c cs ih => exact fun feed => ih (feed.answer p c)
  rw [Station.performing, List.map_append, List.map_cons, List.cons_append, hearAll,
    List.foldl_cons, ← hearAll, hearAll_append, logs]
  exact calls _ _

/-- A position that is stored or committed does not move the feed. -/
theorem answer_of_mark {call : BrokerCall × Answer}
    (mark : ∃ q, call.1 = .store q ∨ call.1 = .commit q) :
    (feed.answer p call).position = feed.position ∧ (feed.answer p call).paused = feed.paused := by
  obtain ⟨call, answered⟩ := call
  obtain ⟨q, rfl | rfl⟩ := mark <;> cases answered <;> by_cases hq : q.partition = p <;>
    simp [answer, hq]

theorem hearAll_of_marks {moments : List Moment}
    (marks : ∀ call answered, .event (.call call answered) ∈ moments →
      ∃ q, call = .store q ∨ call = .commit q) :
    (feed.hearAll p moments).position = feed.position ∧
      (feed.hearAll p moments).paused = feed.paused := by
  induction moments generalizing feed with
  | nil => exact ⟨rfl, rfl⟩
  | cons m moments ih =>
    have here : (feed.hear p m).position = feed.position ∧
        (feed.hear p m).paused = feed.paused := by
      unfold hear
      split
      · exact feed.answer_of_mark p (marks _ _ List.mem_cons_self)
      · exact ⟨rfl, rfl⟩
    obtain ⟨position, paused⟩ := ih (feed.hear p m) fun call answered h =>
      marks call answered (List.mem_cons_of_mem m h)
    exact ⟨position.trans here.1, paused.trans here.2⟩

/-- Neither storing, committing nor forgetting moves the feed. -/
theorem hearAll_still {q : TopicPartition}
    (still : (∃ offset, op = .store offset) ∨ op = .commit ∨ op = .revoke) :
    (feed.hearAll p ((s.performing env q op).map .event)).position = feed.position ∧
      (feed.hearAll p ((s.performing env q op).map .event)).paused = feed.paused := by
  refine feed.hearAll_of_marks p fun call answered h => ?_
  have mem : (call, answered) ∈ ((s.manager.state q).perform q env.answers op).calls := by
    simpa [Station.performing, Manager.effect] using h
  rcases still with ⟨offset, rfl⟩ | rfl | rfl
  · exact ⟨_, .inl (PartitionState.mem_store_calls q _ mem)⟩
  · obtain ⟨n, -, h⟩ := PartitionState.mem_commit_calls q _ mem
    exact ⟨_, .inr h⟩
  · cases mem

end Operations

section Composed

variable {p} {env : Surroundings} (s : Station) (h : env.answers.Composed)

include h

/-- A pause that is not noted yet stops the feed, if the broker does not fail. -/
theorem hearAll_pause (offset : Offset) :
    feed.hearAll p ((s.performing env p (.pause offset)).map .event) =
      (s.manager.state p).pausedAt.elim (feed.answer p (.pause p, env.answers (.pause p)))
        fun _ => feed := by
  rw [hearAll_performing, Manager.effect, PartitionState.perform, PartitionState.pause_calls _ _ h]
  cases (s.manager.state p).pausedAt <;> rfl

/-- A resume seeks the offset of the pause and continues the feed. -/
theorem hearAll_resume :
    feed.hearAll p ((s.performing env p .resume).map .event) =
      (s.manager.state p).pausedAt.elim feed fun y =>
        (feed.answer p (.seek ⟨p, y⟩, env.answers (.seek ⟨p, y⟩))).answer p
          (.resume p, env.answers (.resume p)) := by
  rw [hearAll_performing, Manager.effect, PartitionState.perform, PartitionState.resume_calls _ _ h]
  cases (s.manager.state p).pausedAt <;> rfl

end Composed

/-- A resume does not change the place of the feed. -/
theorem answer_resume_position (answered : Answer) :
    (feed.answer p (.resume p, answered)).position = feed.position := by
  cases answered <;> simp [answer]

theorem answer_seek_position (y : Offset) :
    (feed.answer p (.seek ⟨p, y⟩, .done)).position = y := by
  simp [answer]

theorem answer_failed (call : BrokerCall) (e : BrokerError) :
    feed.answer p (call, .failed e) = feed := by
  cases call <;> rfl

end Feed

/-! ## Positions that are stored or committed -/

/-- The position `n` of the partition is stored or committed. -/
def Moment.Marks (p : TopicPartition) (n : Offset) (m : Moment) : Prop :=
  ∃ answered, m = .event (.call (.store ⟨p, n⟩) answered) ∨
    m = .event (.call (.commit ⟨p, n⟩) answered)

/-- Every position that is stored or committed here has the property. -/
def MarksOnly (p : TopicPartition) (P : Offset → Prop) (events : List Event) : Prop :=
  ∀ e ∈ events, ∀ n, (Moment.event e).Marks p n → P n

namespace MarksOnly

variable {p : TopicPartition} {P : Offset → Prop} {events : List Event}

theorem of_quiet (quiet : ∀ e ∈ events, ∀ call answered, e ≠ .call call answered) :
    MarksOnly p P events := by
  intro e he n marks
  obtain ⟨answered, h | h⟩ := marks <;> exact absurd (Moment.event.inj h) (quiet e he _ _)

/-- The same, of what happens. -/
theorem of_mem (h : MarksOnly p P events) :
    ∀ m ∈ events.map Moment.event, ∀ n, m.Marks p n → P n := by
  intro m hm
  obtain ⟨e, he, rfl⟩ := List.mem_map.mp hm
  exact h e he

theorem append {more : List Event} (h : MarksOnly p P events) (hm : MarksOnly p P more) :
    MarksOnly p P (events ++ more) := by
  intro e he
  rcases List.mem_append.mp he with he | he
  · exact h e he
  · exact hm e he

variable {env : Surroundings} {s t : Station}

/-- An operation of the state manager stores the position behind the offset that it is to store, and
commits the position that is cached. -/
theorem performing {q : TopicPartition} {op : StateOp}
    (stored : q = p → ∀ offset, op = .store offset → P (offset + 1))
    (cached : ∀ n, (s.manager.state p).committed = some n → P n) :
    MarksOnly p P (s.performing env q op) := by
  intro e he n marks
  have called : ∃ call answered, (call = .store ⟨p, n⟩ ∨ call = .commit ⟨p, n⟩) ∧
      (call, answered) ∈ ((s.manager.state q).perform q env.answers op).calls := by
    obtain ⟨answered, h | h⟩ := marks <;> cases h
    · exact ⟨_, answered, .inl rfl, by simpa [Station.performing, Manager.effect] using he⟩
    · exact ⟨_, answered, .inr rfl, by simpa [Station.performing, Manager.effect] using he⟩
  obtain ⟨call, answered, hcall, mem⟩ := called
  have partition := PartitionState.partition_of_mem_calls q _ mem
  obtain rfl : q = p := by rcases hcall with rfl | rfl <;> exact partition.symm
  rcases PartitionState.mark_of_mem_calls q _ mem hcall with ⟨offset, hop, rfl⟩ | committed
  · exact stored rfl offset hop
  · exact cached n committed

variable (cached : ∀ n, (s.manager.state p).committed = some n → P n)

include cached

theorem batcher_move
    (stored : s.worker.partition = p → ∀ last, s.worker.batcher = .storing last → P (last + 1))
    (move : Batcher.Move env s t events) : MarksOnly p P events := by
  cases move with
  | stored storing =>
    exact performing (fun own offset h => by cases h; exact stored own _ storing) cached
  | resumed => exact (performing (by simp) cached).append (of_quiet (by simp))
  | crashed operating =>
    rcases operating with ⟨last, storing, rfl⟩ | ⟨-, rfl⟩
    · exact performing (fun own offset h => by cases h; exact stored own _ storing) cached
    · exact performing (by simp) cached
  | givenUp _ _ quiet =>
    refine of_quiet fun e he call answered h => ?_
    rcases quiet e he with ⟨line, rfl⟩ | rfl <;> cases h
  | _ => exact of_quiet (by simp)

theorem intake_move {r : Record} {i j : Intake} (move : Intake.Move env r s i t j events) :
    MarksOnly p P events := by
  cases move with
  | paused | pauseCrashed | resumed | resumeCrashed =>
    exact performing (by simp) cached
  | _ => exact of_quiet (by simp)

theorem disposal_move {d e : Disposal} (move : Disposal.Move env s d t e events) :
    MarksOnly p P events := by
  cases move with
  | committed | resumed | revoked => exact performing (by simp) cached
  | crashed operating =>
    rcases operating with ⟨_, ⟨-, rfl⟩ | ⟨-, rfl⟩⟩ <;>
      exact performing (by simp) cached
  | @drained _ crash | @aborted crash =>
    exact of_quiet (by cases crash <;> simp [Disposal.crashLines])
  | _ => exact of_quiet (by simp)

end MarksOnly

/-- The handler has returned without an error from a batch with the record. -/
def HandledIn (history : List Moment) (r : Record) : Prop := ∃ b, .handled b ∈ history ∧ r ∈ b

/-- The records of the batch from which the handler has returned. -/
def Moment.records : Moment → List Record
  | .handled b => b
  | _ => []

instance (history : List Moment) (r : Record) : Decidable (HandledIn history r) :=
  decidable_of_iff (r ∈ history.flatMap Moment.records) <| by
    rw [List.mem_flatMap]
    constructor
    · rintro ⟨m, hm, hr⟩
      cases m with
      | handled b => exact ⟨b, hm, hr⟩
      | _ => cases hr
    · rintro ⟨b, hb, hr⟩
      exact ⟨_, hb, hr⟩

theorem HandledIn.append (history more : List Moment) (r : Record)
    (h : HandledIn history r) : HandledIn (history ++ more) r := by
  obtain ⟨b, hb, hr⟩ := h
  exact ⟨b, List.mem_append_left more hb, hr⟩

/-- Whenever a position was stored or committed, every record between the start and this position
had been handled. -/
def Backed {p : TopicPartition} (log : PartitionLog p) (start : Offset) (history : List Moment) :
    Prop :=
  ∀ before m after n, history = before ++ m :: after → m.Marks p n →
    ∀ r ∈ log, start ≤ r.offset → r.offset < n → ∃ b, .handled b ∈ before ∧ r ∈ b

/-- Every record before a position that is marked was handled. -/
theorem Backed.handledIn {p : TopicPartition} {log : PartitionLog p} {start n : Offset}
    {history : List Moment} {m : Moment} (h : Backed log start history) (mem : m ∈ history)
    (marks : m.Marks p n) : log.Covered start (HandledIn history) n := by
  intro r hr ge lt
  obtain ⟨before, after, split⟩ := List.append_of_mem mem
  obtain ⟨b, hb, hrb⟩ := h before m after n split marks r hr ge lt
  rw [split]
  exact ⟨b, List.mem_append_left _ hb, hrb⟩

/-! ## What counts as done with -/

/-- What counts as done with, which only becomes more as the history goes on. -/
structure Ledger where
  done : List Moment → Record → Prop
  grows : ∀ history more r, done history r → done (history ++ more) r
  handled : ∀ history r, HandledIn history r → done history r

namespace Ledger

/-- Only what was handled is done with. -/
def strict : Ledger := ⟨HandledIn, HandledIn.append, fun _ _ => id⟩

/-- Whenever a position was stored or committed, every record between the start and this position
was done with. -/
def Backs (L : Ledger) {p : TopicPartition} (log : PartitionLog p) (start : Offset)
    (history : List Moment) : Prop :=
  ∀ before m after n, history = before ++ m :: after → m.Marks p n →
    log.Covered start (L.done before) n

namespace Backs

variable {L : Ledger} {p : TopicPartition} {log : PartitionLog p} {start : Offset}
  {history moments : List Moment}

theorem nil : L.Backs log start [] := by
  intro before m after n e
  simp at e

theorem append (h : L.Backs log start history)
    (new : ∀ m ∈ moments, ∀ n, m.Marks p n → log.Covered start (L.done history) n) :
    L.Backs log start (history ++ moments) := by
  intro before m after n e marks
  rcases append_eq_append_cons e with ⟨between, old, -⟩ | ⟨between, rfl, added⟩
  · exact h before m between n old marks
  · have mem : m ∈ moments := by
      rw [added]
      exact List.mem_append_right between List.mem_cons_self
    exact (new m mem n marks).mono (L.grows _ between)

/-- A history stays backed if what is stored and committed has nothing but records before it that
are done with. -/
theorem append_events {events : List Event} (h : L.Backs log start history)
    (only : MarksOnly p (log.Covered start (L.done history)) events)
    (among : ∀ e, .event e ∈ moments → e ∈ events) : L.Backs log start (history ++ moments) := by
  refine h.append fun m hm n marks => ?_
  obtain ⟨answered, rfl | rfl⟩ := id marks <;> exact only _ (among _ hm) n marks

end Backs

end Ledger

theorem backed_nil {p : TopicPartition} (log : PartitionLog p) (start : Offset) :
    Backed log start [] :=
  Ledger.Backs.nil (L := .strict)

theorem Backed.append {p : TopicPartition} {log : PartitionLog p} {start : Offset}
    {history moments : List Moment} (h : Backed log start history)
    (new : ∀ m ∈ moments, ∀ n, m.Marks p n → log.Covered start (HandledIn history) n) :
    Backed log start (history ++ moments) :=
  Ledger.Backs.append (L := .strict) h new

end TopicConsumer
