import TopicConsumer.Batch.Executor
import TopicConsumer.Proofs.Batch.Records
import TopicConsumer.Proofs.Batch.Return

/-!
# Messages handled in place

An executor of parallelism 1 handles the messages of a batch one after the other in the lead of its
crew, which never has hands. If the outcome of a message does not depend on how the surroundings
reply, and nothing is cancelled, then the lead is bound to return, and `Crew.Run.sequel` says what it
has done by then: it has handled the messages up to and including the first one that fails, each
from its beginning to its end, and nothing else.
-/

namespace TopicConsumer

variable {A : Dialogue} {α : Type}

/-! ## Message routines within a batch routine -/

/-- The exchange of a routine that handles a message, within one that handles a batch. -/
def Exchange.inBatch (x : Exchange (messageDialogue A)) : Exchange (batchDialogue A) :=
  ⟨.message x.query, x.reply⟩

theorem Exchange.inBatch_injective {x y : Exchange (messageDialogue A)}
    (same : x.inBatch = y.inBatch) : x = y := by
  cases x
  cases y
  cases same
  rfl

/-- The exchange is about a message and tells of no cancellation. -/
def Exchange.isPlain : Exchange (batchDialogue A) → Prop
  | ⟨.message q, a⟩ => Exchange.isCalm (A := A) ⟨q, a⟩
  | ⟨.dispatch _ _, _⟩ => False

namespace MessageRoutine

variable {r : MessageRoutine A α} {P : α → Prop} {ys : List (Exchange (batchDialogue A))}

/-- Within a batch a routine becomes what it would become by itself. -/
theorem becomes_of_inBatch {t : BatchRoutine A α} (becomes : r.inBatch.Becomes ys t) :
    ∃ (xs : _) (r' : MessageRoutine A α),
      ys = xs.map Exchange.inBatch ∧ r.Becomes xs r' ∧ t = r'.inBatch := by
  induction becomes with
  | start => exact ⟨[], r, rfl, .start, rfl⟩
  | @reply ys q k before a ih =>
    obtain ⟨xs, r', rfl, become, eq⟩ := ih
    cases r' with
    | done b => cases eq
    | ask q' k' =>
      cases eq
      exact ⟨xs ++ [⟨q', a⟩], k' a, by simp [Exchange.inBatch], .reply become a, rfl⟩

theorem settles_inBatch (settles : r.Settles Exchange.isCalm P) :
    r.inBatch.Settles Exchange.isPlain P := by
  induction r with
  | done a => exact settles
  | ask q k ih =>
    obtain ⟨⟨a, calm⟩, all⟩ := settles
    exact ⟨⟨a, calm⟩, fun a calm => ih a (all a calm)⟩

end MessageRoutine

/-! ## One message after the other -/

/-- Each message was handled from its beginning to its end and succeeded, one after the other, and
these were the exchanges. -/
inductive Passes (job : Message → MessageRoutine A Outcome) :
    List Message → List (Exchange (messageDialogue A)) → Prop
  | nil : Passes job [] []
  | cons {m : Message} {rest : List Message} {xs ys : List (Exchange (messageDialogue A))}
      (first : (job m).Becomes xs (.done (.ok ()))) (others : Passes job rest ys) :
      Passes job (m :: rest) (xs ++ ys)

/-- The messages were handled one after the other up to the first failure. -/
inductive Sequel (job : Message → MessageRoutine A Outcome) (verdict : Message → Outcome)
    (messages : List Message) (xs : List (Exchange (messageDialogue A))) : Outcome → Prop
  /-- There was none. -/
  | succeeded (fine : ∀ m ∈ messages, verdict m = .ok ()) (passes : Passes job messages xs) :
      Sequel job verdict messages xs (.ok ())
  /-- The message `m` was the first one that failed, and those behind it were not handled. -/
  | failed {passed rest : List Message} {m : Message} {ys zs : List (Exchange (messageDialogue A))}
      {fault : Fault} (split : messages = passed ++ m :: rest)
      (fine : ∀ m ∈ passed, verdict m = .ok ()) (fails : verdict m = .error fault)
      (exchanges : xs = ys ++ zs) (passes : Passes job passed ys)
      (last : (job m).Becomes zs (.done (.error fault))) :
      Sequel job verdict messages xs (.error fault)

theorem Sequel.cons {job : Message → MessageRoutine A Outcome} {verdict : Message → Outcome}
    {m : Message} {rest : List Message} {xs ys : List (Exchange (messageDialogue A))}
    {outcome : Outcome} (fine : verdict m = .ok ())
    (first : (job m).Becomes xs (.done (.ok ()))) (others : Sequel job verdict rest ys outcome) :
    Sequel job verdict (m :: rest) (xs ++ ys) outcome := by
  cases others with
  | succeeded all passes =>
    exact .succeeded (List.forall_mem_cons.mpr ⟨fine, all⟩) (.cons first passes)
  | @failed passed behind m' ys' zs _ split before fails exchanges passes last =>
    subst split exchanges
    have split : m :: (passed ++ m' :: behind) = (m :: passed) ++ m' :: behind := rfl
    exact .failed split (List.forall_mem_cons.mpr ⟨fine, before⟩) fails
      (List.append_assoc ..).symm (.cons first passes) last

namespace Executor

variable {e : Executor A} {items : Items} {verdict : Message → Outcome} {messages : List Message}

/-- What is done after a message was handled. -/
def goOn (e : Executor A) (items : Items) (rest : List Message) : Outcome → BatchRoutine A Outcome
  | .ok () => e.oneByOne items rest
  | .error fault => .done (.error fault)

theorem oneByOne_cons (m : Message) (rest : List Message) :
    e.oneByOne items (m :: rest) = (e.job items m).inBatch.andThen (e.goOn items rest) := by
  rw [oneByOne, Routine.bind_eq_andThen]
  rfl

theorem settles_oneByOne
    (settles : ∀ m ∈ messages, (e.job items m).Settles Exchange.isCalm (· = verdict m)) :
    (e.oneByOne items messages).Settles Exchange.isPlain fun _ => True := by
  induction messages with
  | nil => trivial
  | cons m rest ih =>
    rw [List.forall_mem_cons] at settles
    rw [oneByOne_cons]
    refine (MessageRoutine.settles_inBatch settles.1).andThen fun outcome _ => ?_
    cases outcome with
    | ok => exact ih settles.2
    | error fault => trivial

theorem sequel_of_becomes {ys : List (Exchange (batchDialogue A))} {outcome : Outcome}
    (settles : ∀ m ∈ messages, (e.job items m).Settles Exchange.isCalm (· = verdict m))
    (becomes : (e.oneByOne items messages).Becomes ys (.done outcome))
    (plain : ∀ y ∈ ys, y.isPlain) :
    ∃ xs, ys = xs.map Exchange.inBatch ∧ Sequel (e.job items) verdict messages xs outcome := by
  induction messages generalizing ys with
  | nil =>
    obtain ⟨rfl, same⟩ := becomes.of_done
    cases same
    exact ⟨[], rfl, .succeeded (List.forall_mem_nil _) .nil⟩
  | cons m rest ih =>
    rw [List.forall_mem_cons] at settles
    rw [oneByOne_cons] at becomes
    obtain ⟨reached, ys, zs, rfl, first, others⟩ := becomes.done_of_andThen
    rw [List.forall_mem_append] at plain
    obtain ⟨xs, r, rfl, own, same⟩ := MessageRoutine.becomes_of_inBatch first
    obtain rfl : r = .done reached := by
      cases r with
      | done => cases same; rfl
      | ask => cases same
    have calm : ∀ x ∈ xs, x.isCalm := fun x mem => plain.1 _ (List.mem_map_of_mem mem)
    have reaches : reached = verdict m := settles.1.becomes own calm
    cases reached with
    | ok u =>
      obtain ⟨xs', rfl, sequel⟩ := ih settles.2 others plain.2
      exact ⟨xs ++ xs', by simp, .cons reaches.symm own sequel⟩
    | error fault =>
      obtain ⟨rfl, same⟩ := others.of_done
      cases same
      have split : m :: rest = [] ++ m :: rest := rfl
      exact ⟨xs, by simp, .failed split (List.forall_mem_nil _) reaches.symm rfl .nil own⟩

end Executor

/-! ## Leads without hands -/

theorem MessageQuery.isCancel_of_isCalm {q : MessageQuery A} {a : q.Reply}
    (calm : Exchange.isCalm (A := A) ⟨q, a⟩) : q.isCancel = false := by
  cases q with
  | cancel => cases calm
  | _ => rfl

namespace Crew

variable {history events : List (CrewEvent A)} {c t : Crew A} {env : Replies A} {act : Act}
  {routine : BatchRoutine A Outcome} {P : Outcome → Prop}

/-- The lead has become by calm exchanges what it is, and does all by itself. -/
structure Solo (routine : BatchRoutine A Outcome) (history : List (CrewEvent A)) (c : Crew A) :
    Prop where
  lead : ∃ r, c.lead = .working r ∧
    routine.Becomes ((exchangesOf none history).map Exchange.inBatch) r
  hands : c.hands = []
  cancelled : c.cancelled = false
  calm : ∀ x ∈ exchangesOf none history, x.isCalm

namespace Solo

theorem plain (solo : Solo routine history c) :
    ∀ y ∈ (exchangesOf none history).map Exchange.inBatch, y.isPlain :=
  List.forall_mem_map.mpr solo.calm

theorem move (solo : Solo routine history c) (settles : routine.Settles Exchange.isPlain P)
    (move : Move env c act t events) (alone : .cancelled ∉ events) :
    Solo routine (history ++ events) t := by
  obtain ⟨r, lead, becomes⟩ := solo.lead
  have settled := settles.becomes becomes solo.plain
  cases move with
  | cancel => exact absurd List.mem_cons_self alone
  | @replied q k a lead' answer =>
    cases lead.symm.trans lead'
    obtain ⟨⟨a', plain⟩, -⟩ := settled
    have calm := MessageQuery.isCancel_of_isCalm plain
    rw [solo.cancelled] at answer
    refine ⟨⟨k a, rfl, ?_⟩, solo.hands, by simp [solo.cancelled, calm], ?_⟩
    · simpa [Exchange.inBatch] using becomes.reply a
    · have here := Replies.isCalm_of_answer answer calm
      simpa [or_imp, forall_and] using ⟨solo.calm, here⟩
  | crashed lead' =>
    cases lead.symm.trans lead'
    exact Empty.elim settled.1.choose
  | opened lead' =>
    cases lead.symm.trans lead'
    exact settled.1.choose_spec.elim
  | started lead' | refused lead' | concluded lead' => cases lead.symm.trans lead'
  | handReplied hand | finished hand | handCrashed hand => simp [solo.hands] at hand

/-- There is a reply to the question that the lead asks. -/
theorem live (solo : Solo routine history c) (settles : routine.Settles Exchange.isPlain P)
    (on : c.returned? = none) : ∃ t, Goes t c := by
  obtain ⟨r, lead, becomes⟩ := solo.lead
  have settled := settles.becomes becomes solo.plain
  cases r with
  | done outcome => simp [returned?, lead] at on
  | ask q k =>
    obtain ⟨⟨a, plain⟩, -⟩ := settled
    cases q with
    | dispatch limit jobs => exact plain.elim
    | message q =>
      obtain ⟨env, answer⟩ := Replies.exists_answer plain
      rw [← solo.cancelled] at answer
      exact ⟨_, env, .lead, _, by simp, step_lead_of_answer lead answer⟩

end Solo

theorem Run.solo (settles : routine.Settles Exchange.isPlain P)
    (run : Run (ofRoutine routine) history c) (alone : .cancelled ∉ history) :
    Solo routine history c := by
  induction run with
  | start => exact ⟨⟨routine, rfl, .start⟩, rfl, rfl, List.forall_mem_nil _⟩
  | step run step ih =>
    rw [List.mem_append, not_or] at alone
    exact (ih alone.1).move settles (move_of_step step) alone.2

/-- A lead that handles messages one after the other has done so up to the first failure when it
returns. -/
theorem Run.sequel {e : Executor A} {items : Items} {verdict : Message → Outcome}
    {messages : List Message} {outcome : Outcome}
    (settles : ∀ m ∈ messages, (e.job items m).Settles Exchange.isCalm (· = verdict m))
    (run : Run (ofRoutine (e.oneByOne items messages)) history c) (alone : .cancelled ∉ history)
    (returned : c.returned? = some outcome) :
    Sequel (e.job items) verdict messages (exchangesOf none history) outcome := by
  have solo := run.solo (Executor.settles_oneByOne settles) alone
  obtain ⟨r, lead, becomes⟩ := solo.lead
  cases lead.symm.trans (lead_eq_of_returned returned)
  obtain ⟨xs, same, sequel⟩ := Executor.sequel_of_becomes settles becomes solo.plain
  rw [List.map_inj_right fun _ _ => Exchange.inBatch_injective] at same
  rwa [same]

end Crew

end TopicConsumer
