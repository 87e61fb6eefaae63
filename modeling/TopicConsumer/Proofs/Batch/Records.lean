import TopicConsumer.Proofs.Batch.Crew

/-!
# What the history of a crew tells

The history of a run tells which hands were started, what each of them has been replied, and which
of them have finished, in this order. `Crew.Run.recorded` shows that it tells the truth: each hand
has started with its job, has become what this becomes by the replies, and has finished as often as
the history says, which is once at most. Nothing is started after the cancellation was raised.
-/

namespace TopicConsumer

variable {A : Dialogue}

/-- With these exchanges the routine has come to an end. A crash is a failure of its task. -/
inductive MessageRoutine.Ends (job : MessageRoutine A Outcome)
    (xs : List (Exchange (messageDialogue A))) : Outcome → Prop
  | done {outcome : Outcome} (becomes : job.Becomes xs (.done outcome)) : job.Ends xs outcome
  | crashed {text : String} {k : Empty → MessageRoutine A Outcome}
      (becomes : job.Becomes xs (.ask (.crash text) k)) :
      job.Ends xs (.error (.taskCrashed text))

/-- The hand is what its job has become by these exchanges. -/
def Hand.Of (job : MessageRoutine A Outcome) (xs : List (Exchange (messageDialogue A))) :
    Hand A → Prop
  | .working r => job.Becomes xs r
  | .finished outcome => job.Ends xs outcome

namespace CrewEvent

/-- The job of the hand that is started. -/
@[simp]
def job? : CrewEvent A → Option (MessageRoutine A Outcome)
  | .started job => some job
  | _ => none

/-- The hand that finishes and how it does. -/
@[simp]
def ending? : CrewEvent A → Option (Nat × Outcome)
  | .finished n outcome => some (n, outcome)
  | _ => none

/-- The exchange, if it is one of the lead or of this hand. -/
@[simp]
def exchange? (who : Option Nat) : CrewEvent A → Option (Exchange (messageDialogue A))
  | .replied hand x => if hand = who then some x else none
  | _ => none

end CrewEvent

namespace Crew

variable {history events : List (CrewEvent A)} {c t : Crew A} {env : Replies A} {act : Act}

/-! ## Excerpts -/

/-- The jobs of the hands, in the order in which they were started. -/
def startedIn (history : List (CrewEvent A)) : List (MessageRoutine A Outcome) :=
  history.filterMap CrewEvent.job?

/-- The hands that have finished and how they have, in this order. -/
def finishedIn (history : List (CrewEvent A)) : List (Nat × Outcome) :=
  history.filterMap CrewEvent.ending?

/-- The exchanges of the lead, or of one of the hands. -/
def exchangesOf (who : Option Nat) (history : List (CrewEvent A)) :
    List (Exchange (messageDialogue A)) :=
  history.filterMap (CrewEvent.exchange? who)

section

variable (history : List (CrewEvent A)) (e : CrewEvent A) (who : Option Nat)

@[simp] theorem startedIn_nil : startedIn (A := A) [] = [] := rfl

@[simp] theorem startedIn_concat : startedIn (history ++ [e]) = startedIn history ++ e.job?.toList := by
  cases e <;> simp [startedIn]

@[simp] theorem finishedIn_nil : finishedIn (A := A) [] = [] := rfl

@[simp] theorem finishedIn_concat :
    finishedIn (history ++ [e]) = finishedIn history ++ e.ending?.toList := by
  cases e <;> simp [finishedIn]

@[simp] theorem exchangesOf_nil : exchangesOf (A := A) who [] = [] := rfl

@[simp] theorem exchangesOf_concat :
    exchangesOf who (history ++ [e]) = exchangesOf who history ++ (e.exchange? who).toList := by
  simp only [exchangesOf, List.filterMap_append, List.filterMap_cons, List.filterMap_nil]
  cases e.exchange? who <;> rfl

end

/-! ## Records -/

theorem countP_working_pos {hands : List (Hand A)} {n : Nat} {r : MessageRoutine A Outcome}
    (hand : hands[n]? = some (.working r)) : 0 < hands.countP Hand.isWorking :=
  List.countP_pos_iff.mpr ⟨_, List.mem_of_getElem? hand, rfl⟩

theorem countP_set_working {hands : List (Hand A)} {n : Nat} {r : MessageRoutine A Outcome}
    (hand : hands[n]? = some (.working r)) (r' : MessageRoutine A Outcome) :
    (hands.set n (.working r')).countP Hand.isWorking = hands.countP Hand.isWorking := by
  have pos := countP_working_pos hand
  obtain ⟨here, is⟩ := List.getElem?_eq_some_iff.mp hand
  rw [List.countP_set here, is]
  exact Nat.sub_add_cancel pos

theorem countP_set_finished {hands : List (Hand A)} {n : Nat} {r : MessageRoutine A Outcome}
    (hand : hands[n]? = some (.working r)) (outcome : Outcome) :
    (hands.set n (.finished outcome)).countP Hand.isWorking =
      hands.countP Hand.isWorking - 1 := by
  obtain ⟨here, is⟩ := List.getElem?_eq_some_iff.mp hand
  rw [List.countP_set here, is]
  rfl

/-- The history tells what has become of the hands and of the cancellation. -/
structure Recorded (history : List (CrewEvent A)) (c : Crew A) : Prop where
  length : c.hands.length = (startedIn history).length
  hand : ∀ n job (h : Hand A), (startedIn history)[n]? = some job → c.hands[n]? = some h →
    h.Of job (exchangesOf (some n) history)
  finished : ∀ n outcome, c.hands[n]? = some (.finished outcome) ↔ (n, outcome) ∈ finishedIn history
  working : c.hands.countP Hand.isWorking + (finishedIn history).length = c.hands.length
  once : ((finishedIn history).map Prod.fst).Nodup
  silent : ∀ n, c.hands.length ≤ n → exchangesOf (some n) history = []
  cancelled : c.cancelled = history.any CrewEvent.raises
  late : history.Pairwise fun x y => x.raises = true → y.isStart = false

namespace Recorded

theorem start (routine : BatchRoutine A Outcome) : Recorded [] (ofRoutine routine) where
  length := rfl
  hand := by simp
  finished := by simp [ofRoutine]
  working := rfl
  once := .nil
  silent := fun _ _ => rfl
  cancelled := rfl
  late := .nil

/-- Nothing happens but that the lead goes on. -/
theorem onLead (recorded : Recorded history c) (lead : Lead A) :
    Recorded history { c with lead := lead } := { recorded with }

theorem late_concat (recorded : Recorded history c) {e : CrewEvent A}
    (calm : c.cancelled = true → e.isStart = false) :
    (history ++ [e]).Pairwise fun x y => x.raises = true → y.isStart = false := by
  rw [List.pairwise_append]
  refine ⟨recorded.late, List.pairwise_singleton .., fun x mem y same raises => ?_⟩
  rw [List.mem_singleton.mp same]
  exact calm (recorded.cancelled.trans (List.any_eq_true.mpr ⟨x, mem, raises⟩))

theorem cancelled_concat (recorded : Recorded history c) (e : CrewEvent A) :
    (c.cancelled || e.raises) = (history ++ [e]).any CrewEvent.raises := by
  simp [recorded.cancelled]

/-- The cancellation is raised from outside. -/
theorem cancel (recorded : Recorded history c) :
    Recorded (history ++ [.cancelled]) { c with cancelled := true } where
  length := by simpa using recorded.length
  hand := by simpa using recorded.hand
  finished := by simpa using recorded.finished
  working := by simpa using recorded.working
  once := by simpa using recorded.once
  silent := by simpa using recorded.silent
  cancelled := by simp [CrewEvent.raises]
  late := recorded.late_concat fun _ => rfl

/-- The lead gets a reply. -/
theorem replied (recorded : Recorded history c) (x : Exchange (messageDialogue A)) (lead : Lead A) :
    Recorded (history ++ [.replied none x])
      { c with lead := lead, cancelled := c.cancelled || x.query.isCancel } where
  length := by simpa using recorded.length
  hand := by simpa using recorded.hand
  finished := by simpa using recorded.finished
  working := by simpa using recorded.working
  once := by simpa using recorded.once
  silent := by simpa using recorded.silent
  cancelled := recorded.cancelled_concat (.replied none x)
  late := recorded.late_concat fun _ => rfl

/-- One more hand is started. -/
theorem started (recorded : Recorded history c) (job : MessageRoutine A Outcome) (lead : Lead A)
    (calm : c.cancelled = false) :
    Recorded (history ++ [.started job])
      { c with lead := lead, hands := c.hands ++ [.working job] } where
  length := by simpa using recorded.length
  hand := by
    intro n job' h there hand
    have length := recorded.length
    by_cases new : n = c.hands.length
    · obtain rfl : job = job' := by simpa [new, length] using there
      obtain rfl : .working job = h := by simpa [new] using hand
      simpa [Hand.Of, recorded.silent n (Nat.le_of_eq new.symm)] using .start
    · have old : n < c.hands.length := by
        have := (List.getElem?_eq_some_iff.mp hand).1
        simp at this
        omega
      simp only [startedIn_concat, CrewEvent.job?, Option.toList] at there
      rw [List.getElem?_append_left (length ▸ old)] at there
      rw [List.getElem?_append_left old] at hand
      simpa using recorded.hand n job' h there hand
  finished := by
    intro n outcome
    simp only [finishedIn_concat, CrewEvent.ending?, Option.toList, List.append_nil]
    rw [← recorded.finished n outcome]
    rcases Nat.lt_or_ge n c.hands.length with old | new
    · rw [List.getElem?_append_left old]
    · rw [List.getElem?_append_right new, List.getElem?_eq_none new]
      cases n - c.hands.length <;> simp
  working := by
    have := recorded.working
    simp [Hand.isWorking]
    omega
  once := by simpa using recorded.once
  silent := fun n beyond => by
    have := recorded.silent n (by simp at beyond; omega)
    simpa using this
  cancelled := by simp [recorded.cancelled, CrewEvent.raises]
  late := recorded.late_concat fun cancelled => by cases calm.symm.trans cancelled

/-- A hand gets a reply. -/
theorem handReplied (recorded : Recorded history c) {n : Nat} {q : MessageQuery A}
    {k : q.Reply → MessageRoutine A Outcome} (hand : c.hands[n]? = some (.working (.ask q k)))
    (a : q.Reply) :
    Recorded (history ++ [.replied (some n) ⟨q, a⟩])
      { c with
        hands := c.hands.set n (.working (k a))
        cancelled := c.cancelled || q.isCancel } where
  length := by simpa using recorded.length
  hand := by
    intro n' job h there hand'
    have started : (startedIn history)[n']? = some job := by simpa using there
    by_cases same : n' = n
    · subst same
      have old := recorded.hand n' job _ started hand
      obtain rfl : .working (k a) = h := by
        have := (List.getElem?_eq_some_iff.mp hand).1
        simpa [this] using hand'
      simpa [Hand.Of] using Routine.Becomes.reply old a
    · have other : some n ≠ some n' := by simpa using Ne.symm same
      simpa [other] using recorded.hand n' job h started
        (by simpa [List.getElem?_set_ne (Ne.symm same)] using hand')
  finished := by
    intro n' outcome
    simp only [finishedIn_concat, CrewEvent.ending?, Option.toList, List.append_nil]
    rw [← recorded.finished n' outcome]
    by_cases same : n' = n
    · rw [same, List.getElem?_set_self (List.getElem?_eq_some_iff.mp hand).1, hand]
      simp
    · rw [List.getElem?_set_ne (Ne.symm same)]
  working := by simpa [countP_set_working hand] using recorded.working
  once := by simpa using recorded.once
  silent := fun n' beyond => by
    have here := (List.getElem?_eq_some_iff.mp hand).1
    have other : some n ≠ some n' := by
      simp at beyond
      simp
      omega
    simpa [other] using recorded.silent n' (by simpa using beyond)
  cancelled := recorded.cancelled_concat (.replied (some n) ⟨q, a⟩)
  late := recorded.late_concat fun _ => rfl

/-- A hand finishes. -/
theorem finish (recorded : Recorded history c) {n : Nat} {r : MessageRoutine A Outcome}
    {outcome : Outcome} (hand : c.hands[n]? = some (.working r))
    (ends : ∀ (job : MessageRoutine A Outcome) xs, job.Becomes xs r → job.Ends xs outcome) :
    Recorded (history ++ [.finished n outcome]) (c.finish n outcome) where
  length := by simpa [Crew.finish] using recorded.length
  hand := by
    intro n' job h there hand'
    have started : (startedIn history)[n']? = some job := by simpa using there
    by_cases same : n' = n
    · subst same
      have old := recorded.hand n' job _ started hand
      obtain rfl : .finished outcome = h := by
        have := (List.getElem?_eq_some_iff.mp hand).1
        simpa [Crew.finish, this] using hand'
      simpa [Hand.Of] using ends job _ old
    · simpa using recorded.hand n' job h started
        (by simpa [Crew.finish, List.getElem?_set_ne (Ne.symm same)] using hand')
  finished := by
    intro n' o
    simp only [finishedIn_concat, CrewEvent.ending?, Option.toList, List.mem_append,
      List.mem_singleton, Crew.finish]
    rw [← recorded.finished n' o]
    by_cases same : n' = n
    · rw [same, List.getElem?_set_self (List.getElem?_eq_some_iff.mp hand).1, hand]
      simp [eq_comm]
    · rw [List.getElem?_set_ne (Ne.symm same)]
      simp [same]
  working := by
    have working := recorded.working
    have pos := countP_working_pos hand
    simp only [Crew.finish, countP_set_finished hand, finishedIn_concat, CrewEvent.ending?,
      Option.toList, List.length_append, List.length_singleton, List.length_set]
    omega
  once := by
    have new : ∀ o, (n, o) ∉ finishedIn history := fun o mem => by
      cases hand.symm.trans ((recorded.finished n o).mpr mem)
    simp only [finishedIn_concat, CrewEvent.ending?, Option.toList, List.map_append, List.map_cons,
      List.map_nil, List.nodup_append]
    refine ⟨recorded.once, by simp, ?_⟩
    rintro m mem m' same rfl
    obtain ⟨⟨_, o⟩, there, rfl⟩ := List.mem_map.mp mem
    obtain rfl := List.mem_singleton.mp same
    exact new o there
  silent := by simpa [Crew.finish] using recorded.silent
  cancelled := by simpa [Crew.finish, CrewEvent.raises] using recorded.cancelled
  late := recorded.late_concat fun _ => rfl

theorem move (recorded : Recorded history c) (move : Move env c act t events) :
    Recorded (history ++ events) t := by
  cases move with
  | cancel => exact recorded.cancel
  | @replied q k a lead answer => exact recorded.replied ⟨q, a⟩ _
  | crashed | opened | refused | concluded =>
    rw [List.append_nil]
    exact recorded.onLead _
  | started lead waiting calm room => exact recorded.started _ _ calm
  | handReplied hand answer => exact recorded.handReplied hand _
  | finished hand => exact recorded.finish hand fun _ _ becomes => .done becomes
  | handCrashed hand => exact recorded.finish hand fun _ _ becomes => .crashed becomes

/-- A hand that was started and that has not finished works. -/
theorem works (recorded : Recorded history c) {n : Nat} (started : n < (startedIn history).length)
    (on : ∀ outcome, (n, outcome) ∉ finishedIn history) :
    ∃ r, c.hands[n]? = some (.working r) := by
  rw [← recorded.length] at started
  have there := List.getElem?_eq_getElem started
  cases hand : c.hands[n] with
  | working r => exact ⟨r, hand ▸ there⟩
  | finished outcome => exact absurd ((recorded.finished n outcome).mp (hand ▸ there)) (on outcome)

/-- A hand that has finished has done its job. -/
theorem ends (recorded : Recorded history c) {n : Nat} {outcome : Outcome}
    (mem : (n, outcome) ∈ finishedIn history) :
    ∃ job, (startedIn history)[n]? = some job ∧ job.Ends (exchangesOf (some n) history) outcome := by
  have hand := (recorded.finished n outcome).mpr mem
  have here := (List.getElem?_eq_some_iff.mp hand).1
  have there := List.getElem?_eq_getElem (recorded.length ▸ here)
  exact ⟨_, there, recorded.hand n _ _ there hand⟩

end Recorded

/-- What has become of the hands of a crew is told by its history. -/
theorem Run.recorded {routine : BatchRoutine A Outcome} (run : Run (ofRoutine routine) history c) :
    Recorded history c :=
  run.invariant Recorded (.start routine) Recorded.move

end Crew

end TopicConsumer
