import Mathlib.Data.List.Induction
import Mathlib.Order.Bounds.Defs
import TopicConsumer.Proofs.Worker.Clock

/-!
# The boundaries of batches

When a batch is opened, which records it takes and when it is handed over follows from three things
alone: when the batcher became idle, when the records were admitted, and when the intake was closed.
`Bounded` says how. The times at which a batch may be complete are those of `Due`, and the batch is
handed over at the least of them.

While a batch is being collected, the clock does not go past a time at which it is due, and it does
not go on at all as long as a record is in the queue. This is what `Collects` keeps from one move of
a timed run to the next, and `timed_punctual` is what it comes to.
-/

namespace TopicConsumer.Workshop

/-! ## What the batcher goes by -/

/-- The records that a move admits, with its time. -/
def Stroke.admitted (x : Stroke) : List (Record × Nat) :=
  (admittedIn x.entry.moments).map (·, x.time)

/-- With this move the batcher becomes idle. -/
def Stroke.idles (x : Stroke) : Bool :=
  x.entry.before.station.worker.batcher ≠ .idle && x.after.station.worker.batcher = .idle

/-- With this move the batcher opens a batch. -/
def Stroke.opens (x : Stroke) : Bool :=
  x.entry.before.station.worker.batcher = .idle && x.after.station.worker.batcher.gathered ≠ []

/-- The records that were admitted, each with the time of its admission. -/
def admissions (history : List Stroke) : List (Record × Nat) := history.flatMap Stroke.admitted

/-- The number of records in the batches that were formed. -/
def batched (history : List Stroke) : Nat :=
  (formedIn (momentsIn (history.map Stroke.entry))).flatten.length

/-- What was admitted in a history and was in none of the batches that were formed `before`. -/
def arrivals (history before : List Stroke) : List (Record × Nat) :=
  (admissions history).drop (batched before)

/-- The time at which the intake was closed. -/
def closing (history : List Stroke) : Option Nat :=
  (history.find? fun x => !x.after.station.worker.intakeOpen).map Stroke.time

/-- The time of the last move of a kind, or of the start. -/
def lastTime (kind : Stroke → Bool) (t₀ : Nat) (history : List Stroke) : Nat :=
  ((history.filter kind).getLast?.map Stroke.time).getD t₀

variable {s : BatchSettings} {t₀ now opened idle time : Nat} {w w₀ t : Workshop}
  {history before : List Stroke} {x : Stroke} {all more : List (Record × Nat)}
  {closed closed' : Option Nat} {b : List Record} {env : Surroundings} {act : Act}
  {moments : List Moment}

section History

theorem admissions_concat (history : List Stroke) (x : Stroke) :
    admissions (history ++ [x]) = admissions history ++ x.admitted := by
  simp [admissions]

theorem map_fst_admissions (history : List Stroke) :
    (admissions history).map Prod.fst = admittedIn (momentsIn (history.map Stroke.entry)) := by
  induction history using List.reverseRecOn with
  | nil => rfl
  | append_singleton history x ih =>
    rw [admissions_concat, List.map_append, ih, List.map_append, List.map_singleton,
      momentsIn_concat, admittedIn_append]
    simp [Stroke.admitted, Function.comp_def]

theorem batched_append (history more : List Stroke) :
    batched (history ++ more) = batched history + batched more := by
  simp [batched, momentsIn, formedIn, List.filterMap_append]

theorem batched_singleton (x : Stroke) :
    batched [x] = (formedIn x.entry.moments).flatten.length := by
  simp [batched, momentsIn]

theorem arrivals_concat (le : batched before ≤ (admissions history).length) (x : Stroke) :
    arrivals (history ++ [x]) before = arrivals history before ++ x.admitted := by
  rw [arrivals, admissions_concat, List.drop_append_of_le_length le, arrivals]

theorem closing_concat (history : List Stroke) (x : Stroke) :
    closing (history ++ [x]) =
      (closing history).or (if x.after.station.worker.intakeOpen then none else some x.time) := by
  unfold closing
  rw [List.find?_append, Option.map_or]
  cases h : x.after.station.worker.intakeOpen <;> simp [h]

theorem lastTime_concat (kind : Stroke → Bool) (t₀ : Nat) (history : List Stroke) (x : Stroke) :
    lastTime kind t₀ (history ++ [x]) = if kind x then x.time else lastTime kind t₀ history := by
  unfold lastTime
  rw [List.filter_append]
  cases h : kind x <;> simp [h]

end History

/-! ## When a batch is due -/

/-- The times at which a batch is due that was opened at a time: `all` are the records that can be
in it, and `closed` is the time at which the intake was closed. -/
inductive Due (s : BatchSettings) (all : List (Record × Nat)) (closed : Option Nat)
    (opened : Nat) : Nat → Prop
  /-- It has its greatest size. -/
  | full {last : Record × Nat} (there : all[s.batchSize - 1]? = some last) :
      Due s all closed opened (max opened last.2)
  /-- Its time has run out. -/
  | expired : Due s all closed opened (opened + s.batchTimeout)
  /-- The intake is closed, and the queue is as soon empty. -/
  | drained {c : Nat} (shut : closed = some c) : Due s all closed opened (max opened c)

/-- At a time, more records are admitted, or the intake is closed, or neither. -/
structure Extends (now : Nat) (more : List (Record × Nat)) (closed closed' : Option Nat) :
    Prop where
  times : ∀ a ∈ more, a.2 = now
  accepted : more ≠ [] → closed = none
  closed : closed' = closed ∨ closed = none ∧ closed' = some now

theorem Due.extend (due : Due s all closed opened time) (ext : Extends now more closed closed') :
    Due s (all ++ more) closed' opened time := by
  cases due with
  | full there =>
    have lt := (List.getElem?_eq_some_iff.mp there).1
    exact .full ((List.getElem?_append_left lt).trans there)
  | expired => exact .expired
  | drained shut =>
    rcases ext.closed with same | ⟨none, -⟩
    · exact .drained (same.trans shut)
    · cases none.symm.trans shut

/-- What comes later makes a batch due no earlier. -/
theorem Due.of_extend (due : Due s (all ++ more) closed' opened time)
    (ext : Extends now more closed closed') : Due s all closed opened time ∨ now ≤ time := by
  cases due with
  | @full last there =>
    rcases Nat.lt_or_ge (s.batchSize - 1) all.length with lt | ge
    · rw [List.getElem?_append_left lt] at there
      exact .inl (.full there)
    · rw [List.getElem?_append_right ge] at there
      rw [← ext.times last (List.mem_of_getElem? there)]
      exact .inr (Nat.le_max_right ..)
  | expired => exact .inl .expired
  | drained shut =>
    rcases ext.closed with same | ⟨-, now⟩
    · exact .inl (.drained (same ▸ shut))
    · cases shut.symm.trans now
      exact .inr (Nat.le_max_right ..)

/-! ## How a batch comes about -/

/-- A batch, and when what happened to it. -/
structure Gathering where
  batch : List Record
  /-- The batcher had become idle. -/
  idle : Nat
  opened : Nat
  complete : Nat

/-- The batch is as it has to be: `all` are the records that can be in it, and `closed` is the time
at which the intake was closed. -/
structure Bounded (s : BatchSettings) (all : List (Record × Nat)) (closed : Option Nat)
    (g : Gathering) : Prop where
  /-- It is opened as soon as the batcher is idle and a record has been admitted. -/
  prompt : ∃ first, all.head? = some first ∧ g.opened = max g.idle first.2
  /-- It takes the records in their order. -/
  taken : g.batch <+: all.map Prod.fst
  size : g.batch.length ≤ s.batchSize
  /-- It takes no record that is admitted after its time has run out. -/
  inTime : ∀ a ∈ all.take g.batch.length, a.2 ≤ g.opened + s.batchTimeout
  /-- It leaves no record that is admitted before, unless it has its greatest size. -/
  whole : g.batch.length < s.batchSize →
    ∀ a ∈ all.drop g.batch.length, g.opened + s.batchTimeout ≤ a.2
  complete : IsLeast {time | Due s all closed g.opened time} g.complete

theorem Bounded.extend {g : Gathering} (bounded : Bounded s all closed g) (le : g.complete ≤ now)
    (ext : Extends now more closed closed') : Bounded s (all ++ more) closed' g := by
  have length : g.batch.length ≤ all.length := by simpa using bounded.taken.length_le
  refine ⟨?_, ?_, bounded.size, ?_, fun small a ha => ?_, ?_, fun time due => ?_⟩
  · obtain ⟨first, head, prompt⟩ := bounded.prompt
    exact ⟨first, by rw [List.head?_append, head]; rfl, prompt⟩
  · rw [List.map_append]
    exact bounded.taken.trans (List.prefix_append _ _)
  · rw [List.take_append_of_le_length length]
    exact bounded.inTime
  · rw [List.drop_append_of_le_length length] at ha
    rcases List.mem_append.mp ha with ha | ha
    · exact bounded.whole small a ha
    · -- The batch was complete without having its greatest size, and the intake was still open.
      rw [ext.times a ha]
      refine Nat.le_trans ?_ le
      have due : Due s all closed g.opened g.complete := bounded.complete.1
      generalize g.complete = complete at due
      cases due with
      | @full last there =>
        refine Nat.le_trans (bounded.whole small last ?_) (Nat.le_max_right ..)
        rw [← Nat.add_sub_of_le (Nat.le_sub_one_of_lt small), ← List.getElem?_drop] at there
        exact List.mem_of_getElem? there
      | expired => exact Nat.le_refl _
      | drained shut => cases (ext.accepted (List.ne_nil_of_mem ha)).symm.trans shut
  · exact bounded.complete.1.extend ext
  · rcases due.of_extend ext with due | later
    · exact bounded.complete.2 due
    · exact Nat.le_trans le later

/-! ## While a batch is collected -/

/-- The batch is as it has to be so far. No record in the queue has waited for the clock to go on,
and neither has the batch since it was due. -/
structure Collects (s : BatchSettings) (all : List (Record × Nat)) (closed : Option Nat)
    (now idle opened : Nat) (b : List Record) : Prop where
  prompt : ∃ first, all.head? = some first ∧ opened = max idle first.2
  begun : opened ≤ now
  taken : b <+: all.map Prod.fst
  size : b.length ≤ s.batchSize
  queued : ∀ a ∈ all.drop b.length, now ≤ max opened a.2
  due : ∀ time, Due s all closed opened time → now ≤ time

namespace Collects

theorem begin {a : Record × Nat} (idle_le : idle ≤ now) (le : a.2 ≤ now)
    (prompt : now ≤ max idle a.2) (least : 1 ≤ s.batchSize) (all : List (Record × Nat))
    (closed : Option Nat) :
    Collects s (a :: all) closed now idle now [a.1] where
  prompt := ⟨a, rfl, Nat.le_antisymm prompt (Nat.max_le.mpr ⟨idle_le, le⟩)⟩
  begun := Nat.le_refl now
  taken := ⟨all.map Prod.fst, rfl⟩
  size := least
  queued _ _ := Nat.le_max_left ..
  due time due := by
    cases due with
    | full | drained => exact Nat.le_max_left ..
    | expired => exact Nat.le_add_right ..

theorem extend (h : Collects s all closed now idle opened b)
    (ext : Extends now more closed closed') :
    Collects s (all ++ more) closed' now idle opened b := by
  have length : b.length ≤ all.length := by simpa using h.taken.length_le
  refine { h with prompt := ?_, taken := ?_, queued := fun a ha => ?_, due := fun time due => ?_ }
  · obtain ⟨first, head, prompt⟩ := h.prompt
    exact ⟨first, by rw [List.head?_append, head]; rfl, prompt⟩
  · rw [List.map_append]
    exact h.taken.trans (List.prefix_append _ _)
  · rw [List.drop_append_of_le_length length] at ha
    rcases List.mem_append.mp ha with ha | ha
    · exact h.queued a ha
    · rw [ext.times a ha]
      exact Nat.le_max_right ..
  · rcases due.of_extend ext with due | later
    · exact h.due time due
    · exact later

/-- The batcher takes a record from the queue. -/
theorem take {r : Record} (h : Collects s all closed now idle opened b)
    (small : b.length < s.batchSize) (taken : b ++ [r] <+: all.map Prod.fst) :
    Collects s all closed now idle opened (b ++ [r]) := by
  refine { h with taken, size := ?_, queued := fun a ha => ?_ }
  · rw [List.length_append]
    exact small
  · rw [List.length_append, ← List.drop_drop] at ha
    exact h.queued a (List.mem_of_mem_drop ha)

/-- The clock goes on. -/
theorem tick (h : Collects s all closed now idle opened b) (small : b.length < s.batchSize)
    (whole : all.length ≤ b.length) (accepting : closed = none)
    (early : now < opened + s.batchTimeout) :
    Collects s all closed (now + 1) idle opened b := by
  refine { h with begun := Nat.le_succ_of_le h.begun, queued := fun a ha => ?_, due := ?_ }
  · rw [List.drop_of_length_le whole] at ha
    cases ha
  · rintro time (there | - | shut)
    · have lt := (List.getElem?_eq_some_iff.mp there).1
      omega
    · exact early
    · cases accepting.symm.trans shut

/-- A batch that is complete now is as it has to be. -/
theorem bounded (h : Collects s all closed now idle opened b) (least : 1 ≤ s.batchSize)
    (times : ∀ a ∈ all, a.2 ≤ now) (past : ∀ c, closed = some c → c ≤ now)
    (reason : s.batchSize ≤ b.length ∨
      all.length ≤ b.length ∧ (closed ≠ none ∨ opened + s.batchTimeout ≤ now)) :
    Bounded s all closed ⟨b, idle, opened, now⟩ where
  prompt := h.prompt
  taken := h.taken
  size := h.size
  inTime a ha := Nat.le_trans (times a (List.mem_of_mem_take ha)) (h.due _ .expired)
  whole small a ha := by
    have whole := (reason.resolve_left (Nat.not_le.mpr small)).1
    rw [List.drop_of_length_le whole] at ha
    cases ha
  complete := by
    -- Each of these times has come, and the clock has not gone past it.
    have met : ∀ time, Due s all closed opened time → time ≤ now →
        Due s all closed opened now :=
      fun time due le => Nat.le_antisymm le (h.due time due) ▸ due
    refine ⟨?_, h.due⟩
    rcases reason with full | ⟨-, shut | expired⟩
    · have length : b.length ≤ all.length := by simpa using h.taken.length_le
      have lt : s.batchSize - 1 < all.length := by omega
      exact met _ (.full (List.getElem?_eq_getElem lt))
        (Nat.max_le.mpr ⟨h.begun, times _ (List.getElem_mem lt)⟩)
    · obtain ⟨c, shut⟩ := Option.ne_none_iff_exists'.mp shut
      exact met _ (.drained shut) (Nat.max_le.mpr ⟨h.begun, past c shut⟩)
    · exact met _ .expired expired

end Collects

/-! ## What the moves do -/

@[simp] theorem admittedIn_ofBatcher (b c : Batcher) : admittedIn (Moment.ofBatcher b c) = [] := by
  unfold Moment.ofBatcher
  split <;> rfl

@[simp] theorem admittedIn_ofEnding (b : List Record) (ending : Batcher.Ending) :
    admittedIn (Moment.ofEnding b ending) = [] := by
  cases ending <;> rfl

@[simp] theorem formedIn_ofEnding (b : List Record) (ending : Batcher.Ending) :
    formedIn (Moment.ofEnding b ending) = [] := by
  cases ending <;> rfl

@[simp] theorem formedIn_ofIntake (r : Record) (s : Station) (i j : Intake) :
    formedIn (Moment.ofIntake r s i j) = [] := by
  unfold Moment.ofIntake
  split <;> rfl

theorem formed_mem_iff : .formed b ∈ moments ↔ b ∈ formedIn moments := by
  simp only [formedIn, List.mem_filterMap]
  constructor
  · exact fun h => ⟨_, h, rfl⟩
  · rintro ⟨m, hm, eq⟩
    cases m <;> cases eq
    exact hm

/-- A record is admitted only while the intake is open. -/
theorem Move.accepting_of_admitted (move : Move env w act t moments)
    (some : admittedIn moments ≠ []) : w.station.worker.intakeOpen = true := by
  cases move with
  | intake call move =>
    rcases move.worker_eq with ⟨-, -, accepting, -, -⟩ | ⟨unadmitted, -⟩
    · exact accepting
    · exact absurd ((Neutral.map_event _).append (Neutral.ofIntake unadmitted)).admittedIn_eq some
  | enqueue | dispose | cancel => exact absurd rfl some
  | batch | handler | disposal | elsewhere => exact absurd (by simp) some

/-- Only the batcher forms a batch, which is the one that it collected. -/
theorem Move.of_formed (move : Move env w act t moments) (formed : .formed b ∈ moments) :
    act = .batch ∧ ∃ deadline, w.station.worker.batcher = .collecting b deadline ∧
      t.station.worker.batcher = .checking b 0 := by
  rw [formed_mem_iff] at formed
  cases move with
  | enqueue | dispose | cancel => cases formed
  | intake | handler | disposal | elsewhere => simp at formed
  | batch move =>
    rcases move.unbatched with ⟨c, deadline, collecting, checking, -⟩ | ⟨neutral, -⟩
    · rw [collecting, checking] at formed
      obtain rfl : b = c := by simpa [Moment.ofBatcher, Moment.formed?, formedIn] using formed
      exact ⟨rfl, deadline, collecting, checking⟩
    · rw [formedIn_append, neutral.formedIn_eq] at formed
      simp at formed

theorem Move.formedIn_eq (move : Move env w act t moments) (aside : act.IsAside) :
    formedIn moments = [] :=
  List.eq_nil_iff_forall_not_mem.mpr fun _ formed =>
    aside.1 (move.of_formed (formed_mem_iff.mpr formed)).1

/-- An intake that is closed stays closed. -/
theorem Move.accepting (move : Move env w act t moments)
    (accepting : t.station.worker.intakeOpen = true) : w.station.worker.intakeOpen = true := by
  cases move with
  | intake call move =>
    rcases move.worker_eq with ⟨-, -, -, -, worker⟩ | ⟨-, worker⟩ <;> rwa [worker] at accepting
  | batch move => rwa [move.worker_eq] at accepting
  | handler ends => rwa [ends.worker_eq] at accepting
  | disposal call move => exact move.worker_eq.2.1 accepting
  | enqueue | dispose | cancel | elsewhere => exact accepting

/-! ## What timed runs keep of the intake -/

section Intake

variable {p : TopicPartition} {m : Manager}

theorem Timed.admissions_le (run : Timed t₀ w₀ history now w) :
    ∀ a ∈ admissions history, a.2 ≤ now := by
  intro a ha
  obtain ⟨x, hx, ha⟩ := List.mem_flatMap.mp ha
  obtain ⟨r, -, rfl⟩ := List.mem_map.mp ha
  exact run.time_le x hx

theorem Timed.closing_le (run : Timed t₀ w₀ history now w) {c : Nat}
    (shut : closing history = some c) : c ≤ now := by
  obtain ⟨x, found, rfl⟩ := Option.map_eq_some_iff.mp shut
  exact run.time_le x (List.mem_of_find?_eq_some found)

theorem Timed.lastTime_le (run : Timed t₀ w₀ history now w) (kind : Stroke → Bool) :
    lastTime kind t₀ history ≤ now := by
  unfold lastTime
  cases last : (history.filter kind).getLast? with
  | none => exact run.start_le
  | some x => exact run.time_le x (List.mem_filter.mp (List.mem_of_getLast? last)).1

theorem Timed.closing_isNone (run : Timed t₀ (spawned env m p s) history now w) :
    (closing history).isNone = w.station.worker.intakeOpen := by
  induction run with
  | start =>
    rw [spawned_worker]
    rfl
  | @move history w t env act moments run step ih =>
    have accepting := (move_of_step step).accepting
    rw [closing_concat]
    cases shut : closing history with
    | none => cases t.station.worker.intakeOpen <;> rfl
    | some c =>
      rw [shut] at ih
      cases h : t.station.worker.intakeOpen with
      | false => rfl
      | true => cases ih.trans (accepting h)
  | tick run rests ih => exact ih

theorem Timed.closing_eq_none (run : Timed t₀ (spawned env m p s) history now w)
    (accepting : w.station.worker.intakeOpen = true) : closing history = none :=
  Option.isNone_iff_eq_none.mp (run.closing_isNone.trans accepting)

theorem Timed.exists_closing (run : Timed t₀ (spawned env m p s) history now w)
    (shut : w.station.worker.intakeOpen = false) : ∃ c, closing history = some c := by
  rw [← run.closing_isNone, Option.isNone_eq_false_iff] at shut
  exact Option.isSome_iff_exists.mp shut

theorem Timed.settings_spawned (run : Timed t₀ (spawned env m p s) history now w) :
    w.station.worker.settings = s := by
  rw [run.settings_eq, spawned_worker]
  rfl

/-- What a move admits and whether it closes the intake. -/
theorem Timed.extends {env' : Surroundings} (run : Timed t₀ (spawned env m p s) history env'.now w)
    (move : Move env' w act t moments) :
    let x : Stroke := ⟨env'.now, ⟨w, act, moments⟩, t⟩
    Extends env'.now x.admitted (closing history) (closing (history ++ [x])) where
  times a ha := by
    obtain ⟨r, -, rfl⟩ := List.mem_map.mp ha
    rfl
  accepted some := run.closing_eq_none (move.accepting_of_admitted fun none =>
    some (by rw [Stroke.admitted, none]; rfl))
  closed := by
    rw [closing_concat]
    cases closing history with
    | some c => exact .inl rfl
    | none =>
      cases t.station.worker.intakeOpen with
      | true => exact .inl rfl
      | false => exact .inr ⟨rfl, rfl⟩

theorem Timed.batched_le (run : Timed t₀ (spawned env m p s) history now w) :
    batched history ≤ (admissions history).length := by
  obtain ⟨rest, eq, -⟩ := run.arrayed
  rw [← map_fst_admissions] at eq
  have length := congrArg List.length eq
  rw [List.length_map, List.length_append] at length
  exact length ▸ Nat.le_add_right ..

/-- The records of the admissions that are in no batch are those that wait to be put into one. -/
theorem Timed.map_fst_arrivals (run : Timed t₀ (spawned env m p s) history now w)
    (alive : w.station.worker.batcher.hasEnded = false) :
    (arrivals history history).map Prod.fst = w.station.worker.unbatched := by
  obtain ⟨rest, eq, live, -⟩ := run.arrayed
  rw [arrivals, List.map_drop, map_fst_admissions, eq, batched, List.drop_left, live alive]

/-- Beside a move that forms no batch, what it admits is added to the arrivals. -/
theorem Timed.arrivals_concat (run : Timed t₀ (spawned env m p s) history now w)
    (none : formedIn x.entry.moments = []) :
    arrivals (history ++ [x]) (history ++ [x]) = arrivals history history ++ x.admitted := by
  have same : batched (history ++ [x]) = batched history := by
    rw [batched_append, batched_singleton, none]
    rfl
  rw [← Workshop.arrivals_concat run.batched_le, arrivals, same, arrivals]

end Intake

/-! ## Where the batcher stands -/

/-- The task of the worker crashes with this move: the handler does, or the broker when the batcher
calls it. -/
def Stroke.crashes (x : Stroke) : Bool :=
  match x.entry.act with
  | .handler (.crashed _) => true
  | .batch => x.entry.moments.any fun
    | .event (.call _ (.crashed _)) => true
    | _ => false
  | _ => false

theorem Stroke.crashes_of_broken {op : StateOp} {text : String} {more : List Moment}
    (operating : (∃ last, w.station.worker.batcher = .storing last ∧ op = .store last) ∨
      w.station.worker.batcher = .resuming ∧ op = .resume)
    (broken : w.station.crashing? env w.station.worker.partition op = some text) :
    Stroke.crashes ⟨now, ⟨w, .batch,
      (w.station.performing env w.station.worker.partition op).map .event ++ more⟩, t⟩ = true := by
  have unassigned : ∀ reading, op ≠ .assign reading := by
    rcases operating with ⟨last, -, rfl⟩ | ⟨-, rfl⟩ <;> simp
  obtain ⟨call, mem⟩ := Station.exists_crashed_call _ _ _ _ broken unassigned
  rw [crashes, List.any_append, Bool.or_eq_true, List.any_eq_true]
  exact .inl ⟨_, List.mem_map_of_mem mem, rfl⟩

/-- Why a batch task has ended. -/
inductive Ended (history : List Stroke) : Prop
  /-- The intake was closed, and every record that was admitted is in a batch. -/
  | drained {c : Nat} (shut : closing history = some c) (none : arrivals history history = [])
  | crashed {x : Stroke} (there : x ∈ history) (crash : x.crashes = true)

theorem Ended.extend (ended : Ended history)
    (ext : Extends now x.admitted (closing history) (closing (history ++ [x])))
    (more : arrivals (history ++ [x]) (history ++ [x]) = arrivals history history ++ x.admitted) :
    Ended (history ++ [x]) := by
  cases ended with
  | drained shut none =>
    have closed : closing history ≠ Option.none := by
      rw [shut]
      exact Option.some_ne_none _
    refine .drained ((ext.closed.resolve_right fun h => closed h.1).trans shut) ?_
    rw [more, none, List.nil_append]
    exact not_not.mp (mt ext.accepted closed)
  | crashed there crash => exact .crashed (List.mem_append_left _ there) crash

/-- What is known of the batch that comes next. -/
def Stage (s : BatchSettings) (t₀ : Nat) (history : List Stroke) (now : Nat) : Batcher → Prop
  | .idle => ∀ a ∈ arrivals history history, now ≤ max (lastTime Stroke.idles t₀ history) a.2
  | .collecting b deadline =>
    deadline = lastTime Stroke.opens t₀ history + s.batchTimeout ∧
      Collects s (arrivals history history) (closing history) now
        (lastTime Stroke.idles t₀ history) (lastTime Stroke.opens t₀ history) b
  | .ended _ => Ended history
  | _ => True

namespace Stage

variable {p : TopicPartition} {m : Manager} {env₀ : Surroundings}

/-- What leaves the batcher alone leaves what is known of its batch. -/
theorem aside (run : Timed t₀ (spawned env₀ m p s) history env.now w)
    (move : Move env w act t moments) (none : formedIn moments = [])
    (same : t.station.worker.batcher = w.station.worker.batcher)
    (stage : Stage s t₀ history env.now w.station.worker.batcher) :
    Stage s t₀ (history ++ [⟨env.now, ⟨w, act, moments⟩, t⟩]) env.now t.station.worker.batcher := by
  have ext := run.extends move
  have arrivals := run.arrivals_concat (x := ⟨env.now, ⟨w, act, moments⟩, t⟩) none
  have idles : Stroke.idles ⟨env.now, ⟨w, act, moments⟩, t⟩ = false := by simp [Stroke.idles, same]
  have opens : Stroke.opens ⟨env.now, ⟨w, act, moments⟩, t⟩ = false := by
    cases h : w.station.worker.batcher <;> simp [Stroke.opens, same, h, Batcher.gathered]
  rw [same]
  cases phase : w.station.worker.batcher with
  | idle =>
    rw [phase] at stage
    intro a ha
    rw [arrivals] at ha
    rw [lastTime_concat, idles]
    rcases List.mem_append.mp ha with ha | ha
    · exact stage a ha
    · rw [ext.times a ha]
      exact Nat.le_max_right ..
  | collecting b deadline =>
    rw [phase] at stage
    rw [Stage, lastTime_concat, lastTime_concat, idles, opens, arrivals]
    exact ⟨stage.1, stage.2.extend ext⟩
  | ended crash =>
    rw [phase] at stage
    exact Ended.extend stage ext arrivals
  | _ => trivial

/-- What the batcher does. -/
theorem batch {u : Station} {events : List Event}
    (run : Timed t₀ (spawned env₀ m p s) history env.now w)
    (step : Batcher.step env w.station = some (u, events)) (live : u.worker.cancelled = false)
    (least : 1 ≤ s.batchSize) (room : s.batchSize * Worker.recordBytes ≤ Worker.greatestBatchBytes)
    (stage : Stage s t₀ history env.now w.station.worker.batcher)
    (made : x = ⟨env.now, ⟨w, .batch,
      events.map .event ++ Moment.ofBatcher w.station.worker.batcher u.worker.batcher⟩,
      { w with station := u }⟩) :
    Stage s t₀ (history ++ [x]) env.now u.worker.batcher := by
  have settings := run.settings_spawned
  have move := Batcher.move_of_step step
  have waiting := run.map_fst_arrivals move.alive
  have ext : Extends env.now x.admitted (closing history) (closing (history ++ [x])) :=
    made ▸ run.extends (.batch move)
  have more : Moment.ofBatcher w.station.worker.batcher u.worker.batcher = [] →
      arrivals (history ++ [x]) (history ++ [x]) = arrivals history history ++ x.admitted :=
    fun none => run.arrivals_concat (by rw [made, none, List.append_nil, formedIn_map_event])
  have last : ∀ kind, lastTime kind t₀ (history ++ [x]) =
      if kind x then env.now else lastTime kind t₀ history := fun kind => by
    rw [lastTime_concat, made]
  have was : x.entry.before.station.worker.batcher = w.station.worker.batcher := by rw [made]
  have became : x.after.station.worker.batcher = u.worker.batcher := by rw [made]
  cases move with
  | finish idle finished line =>
    rcases finished with cancelled | ⟨queue, accepting⟩
    · cases live.symm.trans cancelled
    · obtain ⟨c, shut⟩ := run.exists_closing accepting
      rw [Worker.unbatched, idle, queue] at waiting
      exact Ended.extend (.drained shut (List.map_eq_nil_iff.mp waiting)) ext
        (more (by rw [idle]; rfl))
  | @opened r rest idle live' queue deadline =>
    rw [Worker.unbatched, idle, queue] at waiting
    obtain ⟨a, others, arrived, rfl, -⟩ := List.map_eq_cons_iff.mp waiting
    have there : a ∈ arrivals history history := arrived ▸ List.mem_cons_self
    rw [idle] at stage was
    have idles : x.idles = false := by simp [Stroke.idles, was]
    have opens : x.opens = true := by simp [Stroke.opens, was, became, Batcher.gathered]
    rw [Stage, last, last, idles, opens, more (by rw [idle]; rfl), arrived, List.cons_append]
    refine ⟨settings ▸ Batcher.deadline_of_opened step idle rfl, ?_⟩
    exact .begin (run.lastTime_le _) (run.admissions_le a (List.mem_of_mem_drop there))
      (stage a there) least _ _
  | overflowed idle live' queue deadline size =>
    rw [settings] at size
    exact absurd room (Nat.not_le.mpr size)
  | @taken b deadline r rest collecting small live' queue =>
    rw [Worker.unbatched, collecting, queue] at waiting
    rw [collecting] at stage was
    rw [settings] at small
    have idles : x.idles = false := by simp [Stroke.idles, became]
    have opens : x.opens = false := by simp [Stroke.opens, was]
    have taken : b ++ [r] <+: (arrivals history history).map Prod.fst := by
      rw [waiting]
      exact ⟨rest, by simp [Batcher.gathered]⟩
    rw [Stage, last, last, idles, opens, more (by rw [collecting]; rfl)]
    exact ⟨stage.1, (stage.2.take small taken).extend ext⟩
  | skipped phase | resumed phase =>
    rw [phase] at was
    have idles : x.idles = true := by simp [Stroke.idles, was, became, Worker.dropBatch]
    intro a ha
    rw [last, idles]
    exact Nat.le_max_left ..
  | givenUp trying cancelled => cases live.symm.trans cancelled
  | crashed operating broken =>
    refine .crashed List.mem_concat_self ?_
    rw [made]
    exact Stroke.crashes_of_broken operating broken
  | formed | checked | compared | handed | woken | released | stored => trivial

/-- The handler ends. -/
theorem handler {ending : Batcher.Ending} {u : Station} {events : List Event}
    (ends : Batcher.Ends env w.station ending u events) :
    Stage s t₀ (history ++ [⟨env.now, ⟨w, .handler ending,
      Moment.ofEnding w.station.worker.batcher.batch ending ++ events.map .event⟩,
      { w with station := u }⟩]) env.now u.worker.batcher := by
  cases ends with
  | handled | failed => trivial
  | crashed => exact .crashed List.mem_concat_self rfl

theorem move (run : Timed t₀ (spawned env₀ m p s) history env.now w)
    (step : w.step env act = some (t, moments)) (live : t.station.worker.cancelled = false)
    (least : 1 ≤ s.batchSize) (room : s.batchSize * Worker.recordBytes ≤ Worker.greatestBatchBytes)
    (stage : Stage s t₀ history env.now w.station.worker.batcher) :
    Stage s t₀ (history ++ [⟨env.now, ⟨w, act, moments⟩, t⟩]) env.now
      t.station.worker.batcher := by
  have move := move_of_step step
  rcases act.batcher_cases with rfl | ⟨ending, rfl⟩ | aside
  · obtain ⟨u, events, turn, rfl, rfl⟩ := batcher_step_of_step step
    exact stage.batch run turn live least room rfl
  · cases move with
    | handler ends => exact .handler ends
  · exact stage.aside run move (move.formedIn_eq aside) (move.batcher_eq aside)

/-- The clock goes on. -/
theorem tick (run : Timed t₀ (spawned env₀ m p s) history now w)
    (rests : Batcher.Rests now w.station)
    (stage : Stage s t₀ history now w.station.worker.batcher) :
    Stage s t₀ history (now + 1) w.station.worker.batcher := by
  cases rests with
  | idle idle live queue accepting =>
    have waiting := run.map_fst_arrivals (by rw [idle]; rfl)
    rw [Worker.unbatched, idle, queue] at waiting
    rw [idle]
    intro a ha
    cases List.map_eq_nil_iff.mp waiting ▸ ha
  | @collecting b deadline collecting small live queue accepting early =>
    have waiting := run.map_fst_arrivals (by rw [collecting]; rfl)
    rw [collecting] at stage ⊢
    rw [Worker.unbatched, collecting, queue, List.append_nil, Batcher.gathered] at waiting
    have whole : (arrivals history history).length ≤ b.length :=
      Nat.le_of_eq (by rw [← waiting, List.length_map])
    rw [run.settings_spawned] at small
    obtain ⟨rfl, collects⟩ := stage
    exact ⟨rfl, collects.tick small whole (run.closing_eq_none accepting) early⟩
  | handling phase | backingOff phase =>
    rw [phase]
    trivial
  | ended ended =>
    rw [ended] at stage ⊢
    exact stage

end Stage

/-! ## The batches that were formed -/

/-- What stands in a history with one more move stands in the old one or is this move. -/
theorem concat_eq_append_cons {after : List Stroke} {y : Stroke}
    (eq : history ++ [x] = before ++ y :: after) :
    (∃ between, history = before ++ y :: between ∧ after = between ++ [x]) ∨
      before = history ∧ y = x ∧ after = [] := by
  rcases append_eq_append_cons eq with ⟨between, whole, rfl⟩ | ⟨between, rfl, single⟩
  · exact .inl ⟨between, whole, rfl⟩
  · cases between with
    | nil => exact .inr (by simpa [eq_comm] using single)
    | cons z between => simp at single

/-- The batch is complete and about to be handed over. -/
def IsReady (b : List Record) : Batcher → Prop
  | .checking c _ | .comparing c _ | .starting c _ => c = b
  | _ => False

/-- With this move the batch is handed to the handler, or left out since it has become stale. -/
def Stroke.Hands (x : Stroke) (b : List Record) : Prop :=
  .event (.handed b) ∈ x.entry.moments ∨ .skipped b ∈ x.entry.moments

/-- A batch that is ready is handed over with the next move of the batcher that does not leave it
ready. -/
theorem IsReady.move {y : Stroke} (ready : IsReady b w.station.worker.batcher)
    (move : Move env w act t moments) (live : t.station.worker.cancelled = false)
    (made : y.entry.moments = moments) : y.Hands b ∨ IsReady b t.station.worker.batcher := by
  rw [Stroke.Hands, made]
  rcases act.batcher_cases with rfl | ⟨ending, rfl⟩ | aside
  · cases move with
    | batch move =>
      cases move with
      | checked phase | compared phase =>
        rw [phase] at ready
        exact .inr ready
      | handed phase =>
        rw [phase] at ready
        cases ready
        exact .inl (.inl List.mem_cons_self)
      | skipped phase =>
        rw [phase] at ready ⊢
        cases ready
        exact .inl (.inr (List.mem_append_right _ List.mem_cons_self))
      | givenUp trying cancelled => cases live.symm.trans cancelled
      | crashed operating =>
        rcases operating with ⟨last, phase, -⟩ | ⟨phase, -⟩ <;> rw [phase] at ready <;>
          exact ready.elim
      | finish phase | opened phase | overflowed phase | taken phase | formed phase | woken phase
      | released phase | stored phase | resumed phase =>
        rw [phase] at ready
        exact ready.elim
  · cases move with
    | handler ends =>
      cases ends with
      | handled phase | failed phase | crashed phase =>
        rw [phase] at ready
        exact ready.elim
  · rw [move.batcher_eq aside]
    exact .inr ready

theorem IsReady.not_rests (ready : IsReady b w.station.worker.batcher) :
    ¬ Batcher.Rests now w.station := by
  rintro (phase | phase | phase | phase | phase) <;> rw [phase] at ready <;> exact ready

/-- Every batch that was formed is as it has to be. -/
def AllBounded (s : BatchSettings) (t₀ : Nat) (history : List Stroke) : Prop :=
  ∀ before x after b, history = before ++ x :: after → .formed b ∈ x.entry.moments →
    Bounded s (arrivals history before) (closing history)
      ⟨b, lastTime Stroke.idles t₀ before, lastTime Stroke.opens t₀ before, x.time⟩

/-- Every batch that was formed was handed over at the same time, or is about to be. -/
def AllHanded (history : List Stroke) (now : Nat) (w : Workshop) : Prop :=
  ∀ before x after b, history = before ++ x :: after → .formed b ∈ x.entry.moments →
    (∃ y ∈ after, y.time = x.time ∧ y.Hands b) ∨
      now = x.time ∧ IsReady b w.station.worker.batcher

section Formed

variable {p : TopicPartition} {m : Manager} {env₀ : Surroundings}

/-- What comes later changes nothing about the batches that were formed. -/
theorem AllBounded.concat (run : Timed t₀ (spawned env₀ m p s) history env.now w)
    (move : Move env w act t moments) (made : x = ⟨env.now, ⟨w, act, moments⟩, t⟩)
    (h : AllBounded s t₀ history)
    (new : ∀ b, .formed b ∈ moments → Bounded s (arrivals (history ++ [x]) history)
      (closing (history ++ [x]))
      ⟨b, lastTime Stroke.idles t₀ history, lastTime Stroke.opens t₀ history, env.now⟩) :
    AllBounded s t₀ (history ++ [x]) := by
  intro before y after b eq formed
  rcases concat_eq_append_cons eq with ⟨between, whole, -⟩ | ⟨rfl, rfl, -⟩
  · have le : batched before ≤ (admissions history).length := by
      refine Nat.le_trans ?_ run.batched_le
      rw [whole, batched_append]
      exact Nat.le_add_right ..
    have old : y ∈ history := whole ▸ List.mem_append_right _ List.mem_cons_self
    rw [arrivals_concat le]
    exact (h before y between b whole formed).extend (run.time_le y old) (made ▸ run.extends move)
  · rw [made] at formed ⊢
    simpa [made] using new b formed

theorem AllHanded.concat (move : Move env w act t moments)
    (made : x = ⟨env.now, ⟨w, act, moments⟩, t⟩) (live : t.station.worker.cancelled = false)
    (h : AllHanded history env.now w) : AllHanded (history ++ [x]) env.now t := by
  intro before y after b eq formed
  rcases concat_eq_append_cons eq with ⟨between, whole, rfl⟩ | ⟨rfl, rfl, -⟩
  · rcases h before y between b whole formed with ⟨z, hz, time, hands⟩ | ⟨time, ready⟩
    · exact .inl ⟨z, List.mem_append_left _ hz, time, hands⟩
    · rcases ready.move (y := x) move live (by rw [made]) with hands | ready
      · refine .inl ⟨x, List.mem_concat_self, ?_, hands⟩
        rw [made]
        exact time
      · exact .inr ⟨time, ready⟩
  · rw [made] at formed ⊢
    obtain ⟨-, deadline, -, checking⟩ := move.of_formed formed
    refine .inr ⟨rfl, ?_⟩
    rw [checking]
    rfl

/-- A batch that is complete is as it has to be. -/
theorem Stage.bounded (run : Timed t₀ (spawned env₀ m p s) history env.now w)
    (step : w.step env act = some (t, moments)) (live : w.station.worker.cancelled = false)
    (least : 1 ≤ s.batchSize) (stage : Stage s t₀ history env.now w.station.worker.batcher)
    (made : x = ⟨env.now, ⟨w, act, moments⟩, t⟩) (formed : .formed b ∈ moments) :
    Bounded s (arrivals (history ++ [x]) history) (closing (history ++ [x]))
      ⟨b, lastTime Stroke.idles t₀ history, lastTime Stroke.opens t₀ history, env.now⟩ := by
  have move := move_of_step step
  have ext : Extends env.now x.admitted (closing history) (closing (history ++ [x])) :=
    made ▸ run.extends move
  obtain ⟨rfl, deadline, collecting, checking⟩ := move.of_formed formed
  obtain ⟨u, events, turn, rfl, -⟩ := batcher_step_of_step step
  have reason := Batcher.reason_of_formed turn collecting checking live
  have waiting := run.map_fst_arrivals (by rw [collecting]; rfl)
  rw [collecting] at stage
  obtain ⟨rfl, collects⟩ := stage
  rw [arrivals_concat run.batched_le]
  refine (collects.bounded least (fun a ha => run.admissions_le a (List.mem_of_mem_drop ha))
    (fun c => run.closing_le) ?_).extend (Nat.le_refl _) ext
  rw [run.settings_spawned] at reason
  refine reason.imp_right fun ⟨queue, complete⟩ => ⟨?_, complete.imp_left fun shut => ?_⟩
  · rw [Worker.unbatched, collecting, queue, List.append_nil, Batcher.gathered] at waiting
    exact Nat.le_of_eq (by rw [← waiting, List.length_map])
  · obtain ⟨c, closed⟩ := run.exists_closing shut
    rw [closed]
    exact Option.some_ne_none c

end Formed

/-! ## Punctual workers -/

/-- The batches of a worker have their boundaries, and the one that comes next is not late. -/
structure Punctual (s : BatchSettings) (t₀ : Nat) (history : List Stroke) (now : Nat)
    (w : Workshop) : Prop where
  bounded : AllBounded s t₀ history
  /-- A batch is handed over when it is complete. -/
  handed : ∀ before x after b, history = before ++ x :: after → .formed b ∈ x.entry.moments →
    x.time < now → ∃ y ∈ after, y.time = x.time ∧ y.Hands b
  /-- The batcher is not idle beyond the time at which a record is in the queue. -/
  opening : w.station.worker.batcher = .idle → ∀ a ∈ arrivals history history,
    now ≤ max (lastTime Stroke.idles t₀ history) a.2
  /-- It collects a batch until this is due, and no longer. -/
  collecting : ∀ b deadline, w.station.worker.batcher = .collecting b deadline →
    ∀ time, Due s (arrivals history history) (closing history)
      (lastTime Stroke.opens t₀ history) time → now ≤ time
  /-- It goes on until nothing is left to do, or a crash ends it. -/
  ended : w.station.worker.batcher.hasEnded = true → Ended history

variable {p : TopicPartition} {m : Manager} {env₀ : Surroundings} {settings : BatchSettings}

/-- In every timed run of a worker that is not cancelled, the batches are opened, filled and handed
over as the clock, the admissions and the end of the intake demand. -/
theorem timed_punctual
    (run : Timed t₀ (spawned env₀ m p settings.clamped) history now w)
    (room : settings.clamped.batchSize * Worker.recordBytes ≤ Worker.greatestBatchBytes)
    (live : w.station.worker.cancelled = false) :
    Punctual settings.clamped t₀ history now w := by
  have least : 1 ≤ settings.clamped.batchSize := Nat.le_max_right _ 1
  have kept : AllBounded settings.clamped t₀ history ∧ AllHanded history now w ∧
      Stage settings.clamped t₀ history now w.station.worker.batcher := by
    induction run with
    | start =>
      refine ⟨fun before x after b eq => ?_, fun before x after b eq => ?_, ?_⟩
      · simp at eq
      · simp at eq
      · rw [spawned_worker]
        intro a ha
        cases ha
    | @move history w t env act moments run step ih =>
      have move := move_of_step step
      have before := move.live live
      obtain ⟨bounded, handed, stage⟩ := ih before
      refine ⟨bounded.concat run move rfl fun b => stage.bounded run step before least rfl,
        handed.concat move rfl live, stage.move run step live least room⟩
    | @tick history now w run rests ih =>
      obtain ⟨bounded, handed, stage⟩ := ih live
      refine ⟨bounded, fun before x after b eq formed => ?_, stage.tick run rests⟩
      rcases handed before x after b eq formed with hands | ⟨-, ready⟩
      · exact .inl hands
      · exact absurd rests ready.not_rests
  obtain ⟨bounded, handed, stage⟩ := kept
  refine ⟨bounded, fun before x after b eq formed lt => ?_, fun idle => ?_,
    fun b deadline collecting => ?_, fun ended => ?_⟩
  · exact (handed before x after b eq formed).resolve_right fun h => Nat.ne_of_gt lt h.1
  · rw [idle] at stage
    exact stage
  · rw [collecting] at stage
    exact stage.2.due
  · cases phase : w.station.worker.batcher with
    | ended crash =>
      rw [phase] at stage
      exact stage
    | _ =>
      rw [phase] at ended
      cases ended

/-! ## Two timed runs -/

/-- A record is enqueued and admitted by the call of this number. -/
def entering (p : TopicPartition) (n : Nat) (offset : Offset) : List Act :=
  .enqueue (.bare p offset) :: List.replicate 6 (.intake n)

/-- The first batch runs out of time, the second one is full when it is opened, and the third one is
complete when the intake is closed. -/
def threeBatches (p : TopicPartition) : List (Surroundings × Act) :=
  timetable [(0, entering p 0 1 ++ [.batch]), (5, List.replicate 4 .batch), (6, entering p 1 2),
    (8, entering p 2 3), (9, .handler .handled :: List.replicate 9 .batch),
    (10, .handler .handled :: List.replicate 3 .batch ++ entering p 3 4 ++ [.batch]),
    (12, [.dispose, .disposal 0, .disposal 0] ++ List.replicate 4 .batch),
    (13, [.handler .handled])]

theorem threeBatches_punctual :
    let p : TopicPartition := ⟨"orders", 0⟩
    let settings : BatchSettings := { batchSize := 2, batchTimeout := 5 }
    ∃ history now w, formedIn (momentsIn (history.map Stroke.entry)) =
        [[.bare p 1], [.bare p 2, .bare p 3], [.bare p 4]] ∧
      Timed 0 (spawned (.calm 0) .empty p settings.clamped) history now w ∧
      settings.clamped.batchSize * Worker.recordBytes ≤ Worker.greatestBatchBytes ∧
      w.station.worker.cancelled = false ∧ Punctual settings.clamped 0 history now w := by
  intro p settings
  have timed := timed_play 0 (spawned (.calm 0) .empty p settings.clamped) (threeBatches p)
  have room : settings.clamped.batchSize * Worker.recordBytes ≤ Worker.greatestBatchBytes := by
    decide +kernel
  refine ⟨_, _, _, ?_, timed, room, ?live, timed_punctual timed room ?live⟩ <;> decide +kernel

/-- A batch of which the greatest size is too great is never opened: the batch task crashes with the
first record, and the time of the batch passes without it. -/
theorem exists_not_punctual :
    let p : TopicPartition := ⟨"orders", 0⟩
    let settings : BatchSettings := { batchSize := 1152921504606846976, batchTimeout := 10 }
    ∃ history now w, Timed 0 (spawned (.calm 0) .empty p settings.clamped) history now w ∧
      w.station.worker.cancelled = false ∧ admissions history = [(.bare p 1, 0)] ∧
      settings.batchTimeout < now ∧ formedIn (momentsIn (history.map Stroke.entry)) = [] ∧
      ¬ Punctual settings.clamped 0 history now w := by
  intro p settings
  obtain ⟨history, now, w, timed, live, admitted, past, none, ended, accepting, quiet⟩ :
      ∃ history now w, Timed 0 (spawned (.calm 0) .empty p settings.clamped) history now w ∧
        w.station.worker.cancelled = false ∧ admissions history = [(.bare p 1, 0)] ∧
        settings.batchTimeout < now ∧ formedIn (momentsIn (history.map Stroke.entry)) = [] ∧
        w.station.worker.batcher.hasEnded = true ∧ closing history = none ∧
        ∀ x ∈ history, x.crashes = false := by
    refine ⟨_, _, _, timed_play _ _ (timetable [(0, entering p 0 1 ++ [.batch]), (11, [.dispose])]),
      ?_⟩
    decide +kernel
  refine ⟨history, now, w, timed, live, admitted, past, none, fun punctual => ?_⟩
  cases punctual.ended ended with
  | drained shut => cases accepting.symm.trans shut
  | crashed there crash => cases (quiet _ there).symm.trans crash

end TopicConsumer.Workshop
