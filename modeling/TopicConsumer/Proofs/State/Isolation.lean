import TopicConsumer.Proofs.State.Position

/-!
# Partitions are kept apart

A request changes the state of no partition but its own, and all calls that it makes are about this
partition. Among requests for many partitions, in whatever order they come, only those for one
partition matter to it: this is shown for a single request first and then, along two runs at once,
for all of them.

A responder is a broker that keeps partitions apart as well. What it answers may depend on all the
calls about a partition that it has heard, but not on calls about others. `Responder.serve_apart`
compares the requests that it serves with those for one partition alone.
-/

namespace TopicConsumer

/-- The calls that are about the partition. -/
def callsAbout (p : TopicPartition) (calls : List (BrokerCall × Answer)) :
    List (BrokerCall × Answer) :=
  calls.filter (·.1.partition = p)

@[simp] theorem callsAbout_nil (p : TopicPartition) : callsAbout p [] = [] := rfl

@[simp] theorem callsAbout_append (p : TopicPartition) (calls more : List (BrokerCall × Answer)) :
    callsAbout p (calls ++ more) = callsAbout p calls ++ callsAbout p more :=
  List.filter_append ..

/-- The requests that are for the partition. -/
def requestsFor (p : TopicPartition) (rs : List Request) : List Request :=
  rs.filter (·.partition = p)

theorem requestsFor_cons_self {p : TopicPartition} {r : Request} (here : r.partition = p)
    (rs : List Request) : requestsFor p (r :: rs) = r :: requestsFor p rs :=
  List.filter_cons_of_pos (by simpa using here)

theorem requestsFor_cons_of_ne {p : TopicPartition} {r : Request} (elsewhere : r.partition ≠ p)
    (rs : List Request) : requestsFor p (r :: rs) = requestsFor p rs :=
  List.filter_cons_of_neg (by simpa using elsewhere)

namespace Manager

variable {p : TopicPartition} {m n : Manager} {r : Request}

/-! ## A single request -/

theorem state_grant_self : (m.grant r).state r.partition =
    ((m.state r.partition).perform r.partition r.answers r.op).state :=
  state_set_self ..

theorem state_grant_of_ne (elsewhere : r.partition ≠ p) : (m.grant r).state p = m.state p :=
  state_set_of_ne m (Ne.symm elsewhere) _

theorem callsAbout_calls_self : callsAbout r.partition (m.calls r) = m.calls r := by
  apply List.filter_eq_self.mpr
  intro call mem
  exact decide_eq_true (PartitionState.partition_of_mem_calls r.partition _ mem)

theorem callsAbout_calls_of_ne (elsewhere : r.partition ≠ p) : callsAbout p (m.calls r) = [] := by
  apply List.filter_eq_nil_iff.mpr
  intro call mem
  simpa [PartitionState.partition_of_mem_calls r.partition _ mem] using elsewhere

/-- Whoever knows the same of the partition ends with the same knowledge of it. -/
theorem state_grant_congr (same : m.state r.partition = n.state r.partition) :
    (m.grant r).state r.partition = (n.grant r).state r.partition := by
  rw [state_grant_self, state_grant_self, same]

/-- Whoever knows the same of the partition makes the same calls. -/
theorem calls_congr (same : m.state r.partition = n.state r.partition) : m.calls r = n.calls r := by
  rw [calls, calls, effect, effect, same]

/-! ## Many requests -/

variable {rs : List Request}

/-- What becomes of a partition depends on the requests for it alone. -/
theorem state_after_requestsFor (same : m.state p = n.state p) :
    (m.after rs).state p = (n.after (requestsFor p rs)).state p := by
  induction rs generalizing m n with
  | nil => exact same
  | cons r rs ih =>
    by_cases here : r.partition = p
    · subst here
      rw [requestsFor_cons_self rfl]
      exact ih (state_grant_congr same)
    · rw [requestsFor_cons_of_ne here]
      exact ih ((state_grant_of_ne here).trans same)

/-- The calls about a partition are those that the requests for it make. -/
theorem callsAbout_trace (same : m.state p = n.state p) :
    callsAbout p (m.trace rs) = n.trace (requestsFor p rs) := by
  induction rs generalizing m n with
  | nil => rfl
  | cons r rs ih =>
    rw [trace, callsAbout_append]
    by_cases here : r.partition = p
    · subst here
      rw [requestsFor_cons_self rfl, trace, callsAbout_calls_self, calls_congr same,
        ih (state_grant_congr same)]
    · rw [requestsFor_cons_of_ne here, callsAbout_calls_of_ne here, List.nil_append,
        ih ((state_grant_of_ne here).trans same)]

end Manager

/-! ## Brokers that keep partitions apart -/

/-- How a broker answers the calls of an operation on a partition, given all the calls about this
partition so far. -/
abbrev Responder := TopicPartition → List (BrokerCall × Answer) → Answers

namespace Responder

/-- The requests that some operations become when the broker answers, from what it has `heard` on.
-/
def serve (broker : Responder) :
    Manager → List (BrokerCall × Answer) → List (TopicPartition × StateOp) → List Request
  | _, _, [] => []
  | m, heard, (q, op) :: rest =>
    let r : Request := ⟨q, op, broker q (callsAbout q heard)⟩
    r :: broker.serve (m.grant r) (heard ++ m.calls r) rest

variable {p : TopicPartition} {broker other : Responder}

/-- Of all requests served, those for a partition are the ones that would be served if nothing else
had been asked for. -/
theorem requestsFor_serve (alike : other p = broker p) {m n : Manager}
    {heard known : List (BrokerCall × Answer)} (same : m.state p = n.state p)
    (told : callsAbout p heard = callsAbout p known) (ops : List (TopicPartition × StateOp)) :
    requestsFor p (broker.serve m heard ops) =
      other.serve n known (ops.filter (·.1 = p)) := by
  induction ops generalizing m n heard known with
  | nil => rfl
  | cons first ops ih =>
    obtain ⟨q, op⟩ := first
    by_cases here : q = p
    · subst here
      rw [List.filter_cons_of_pos (by simp), serve, serve, alike, told]
      refine (requestsFor_cons_self rfl _).trans (congrArg (List.cons _) ?_)
      apply ih
      · exact Manager.state_grant_congr same
      · rw [callsAbout_append, callsAbout_append, told, Manager.calls_congr same]
    · rw [List.filter_cons_of_neg (by simpa using here), serve, requestsFor_cons_of_ne here]
      apply ih
      · exact (Manager.state_grant_of_ne here).trans same
      · rw [callsAbout_append, Manager.callsAbout_calls_of_ne here, List.append_nil, told]

/-- For the partition it makes no difference whether only its own operations are performed, with
another broker that treats it alike. -/
structure Apart (p : TopicPartition) (broker other : Responder)
    (ops : List (TopicPartition × StateOp)) : Prop where
  /-- All that is known of the partition is the same. -/
  state : (Manager.empty.after (broker.serve .empty [] ops)).state p =
    (Manager.empty.after (other.serve .empty [] (ops.filter (·.1 = p)))).state p
  /-- The calls about the partition are all calls of the run that has its own operations only. -/
  calls : callsAbout p (Manager.empty.trace (broker.serve .empty [] ops)) =
    Manager.empty.trace (other.serve .empty [] (ops.filter (·.1 = p)))
  /-- Other operations on other partitions would have gone unnoticed. -/
  unnoticed : ∀ others : List (TopicPartition × StateOp),
    others.filter (·.1 = p) = ops.filter (·.1 = p) →
      (Manager.empty.after (other.serve .empty [] others)).state p =
          (Manager.empty.after (broker.serve .empty [] ops)).state p ∧
        callsAbout p (Manager.empty.trace (other.serve .empty [] others)) =
          callsAbout p (Manager.empty.trace (broker.serve .empty [] ops))

/-- Whatever is asked for other partitions, and however the broker answers about them, a partition
fares as if it were alone. -/
theorem serve_apart (p : TopicPartition) (broker other : Responder) (alike : other p = broker p)
    (ops : List (TopicPartition × StateOp)) : Apart p broker other ops := by
  have own (b : Responder) (same : other p = b p) (ops : List (TopicPartition × StateOp)) :
      requestsFor p (b.serve .empty [] ops) = other.serve .empty [] (ops.filter (·.1 = p)) :=
    requestsFor_serve same rfl rfl ops
  constructor
  case state => rw [← own broker alike, Manager.state_after_requestsFor rfl]
  case calls => rw [← own broker alike, Manager.callsAbout_trace rfl]
  case unnoticed =>
    intro others agree
    have same : requestsFor p (other.serve .empty [] others) =
        requestsFor p (broker.serve .empty [] ops) := by
      rw [own other rfl, own broker alike, agree]
    constructor
    · rw [Manager.state_after_requestsFor rfl, same, ← Manager.state_after_requestsFor rfl]
    · rw [Manager.callsAbout_trace rfl, same, ← Manager.callsAbout_trace rfl]

/-- A broker that fails at every third call about a partition. -/
def moody : Responder := fun _ heard call =>
  let number := match call with
    | .resume _ => heard.length + 1
    | _ => heard.length
  if number % 3 = 2 then .failed (.transient "busy") else .done

/-- A broker that is moody about one partition and crashes whenever it is called about another. -/
def biased (p : TopicPartition) : Responder := fun q heard call =>
  if q = p then moody q heard call else .crashed "gone"

/-- Operations on a partition, on another one of its topic, and on one of the same number. -/
def medley (p q s : TopicPartition) : List (TopicPartition × StateOp) :=
  [(p, .assign (.shown .epoch)), (q, .pause 7), (p, .store 4), (s, .store 9), (p, .pause 5),
    (q, .store 2), (p, .commit), (s, .revoke), (q, .resume), (p, .resume), (p, .commit),
    (q, .revoke)]

theorem medley_apart :
    let p : TopicPartition := ⟨"orders", 0⟩
    let ops := medley p ⟨"orders", 1⟩ ⟨"payments", 0⟩
    Apart p moody (biased p) ops ∧
      callsAbout p (Manager.empty.trace (moody.serve .empty [] ops)) =
        [(.store ⟨p, 5⟩, .done), (.pause p, .done),
          (.commit ⟨p, 5⟩, .failed (.transient "busy")), (.seek ⟨p, 5⟩, .done),
          (.resume p, .done), (.commit ⟨p, 5⟩, .failed (.transient "busy"))] := by
  refine ⟨serve_apart _ _ _ ?_ _, by decide⟩
  funext heard call
  exact if_pos rfl

end Responder

end TopicConsumer
