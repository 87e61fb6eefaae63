import TopicConsumer.Routine.Basic

/-!
# Talking routines

What a routine becomes depends on the replies that it gets. `Routine.Becomes` says what it has become
after a series of exchanges, and `Routine.Settles` that it ends in a certain way for all replies of a
certain kind, as it can only go on as long as there are such replies.
-/

namespace TopicConsumer

/-- A question and its reply. -/
structure Exchange (D : Dialogue) where
  query : D.Query
  reply : D.Reply query

namespace Routine

variable {D : Dialogue} {α β : Type}

/-- What a routine is after these exchanges. -/
inductive Becomes (r : Routine D α) : List (Exchange D) → Routine D α → Prop
  | start : r.Becomes [] r
  | reply {xs : List (Exchange D)} {q : D.Query} {k : D.Reply q → Routine D α}
      (before : r.Becomes xs (.ask q k)) (a : D.Reply q) : r.Becomes (xs ++ [⟨q, a⟩]) (k a)

/-- If all replies are plain ones, the routine ends, and what it ends with has the property. There
is a plain reply to each of its questions. -/
def Settles (plain : Exchange D → Prop) (P : α → Prop) : Routine D α → Prop
  | .done a => P a
  | .ask q k => (∃ a, plain ⟨q, a⟩) ∧ ∀ a, plain ⟨q, a⟩ → (k a).Settles plain P

/-- The exchanges of a chain of two routines are those of the first one, and then, if it has ended,
those of the second one. -/
theorem Becomes.of_andThen {r : Routine D α} {f : α → Routine D β} {xs : List (Exchange D)}
    {t : Routine D β} (becomes : (r.andThen f).Becomes xs t) :
    (∃ r', r.Becomes xs r' ∧ t = r'.andThen f) ∨
      ∃ a ys zs, xs = ys ++ zs ∧ r.Becomes ys (.done a) ∧ (f a).Becomes zs t := by
  induction becomes with
  | start => exact .inl ⟨r, .start, rfl⟩
  | @reply xs q k before a ih =>
    rcases ih with ⟨r', within, eq⟩ | ⟨b, ys, zs, rfl, first, second⟩
    · cases r' with
      | done b =>
        have begins : (f b).Becomes [] (.ask q k) := by
          rw [show f b = .ask q k from eq.symm]
          exact .start
        exact .inr ⟨b, xs, [⟨q, a⟩], rfl, within, .reply begins a⟩
      | ask q' k' =>
        cases eq
        exact .inl ⟨k' a, .reply within a, rfl⟩
    · exact .inr ⟨b, ys, zs ++ [⟨q, a⟩], List.append_assoc .., first, .reply second a⟩

theorem Becomes.of_done {a : α} {xs : List (Exchange D)} {t : Routine D α}
    (becomes : (done a).Becomes xs t) : xs = [] ∧ t = .done a := by
  induction becomes with
  | start => exact ⟨rfl, rfl⟩
  | reply before b ih => cases ih.2

/-- A chain that has ended has gone through both of its routines. -/
theorem Becomes.done_of_andThen {r : Routine D α} {f : α → Routine D β} {xs : List (Exchange D)}
    {b : β} (becomes : (r.andThen f).Becomes xs (.done b)) :
    ∃ a ys zs, xs = ys ++ zs ∧ r.Becomes ys (.done a) ∧ (f a).Becomes zs (.done b) := by
  rcases becomes.of_andThen with ⟨r', within, eq⟩ | through
  · cases r' with
    | done a =>
      refine ⟨a, xs, [], (List.append_nil xs).symm, within, ?_⟩
      rw [show f a = .done b from eq.symm]
      exact .start
    | ask q k => cases eq
  · exact through

section Settled

variable {plain : Exchange D → Prop} {P : α → Prop} {r t : Routine D α}

/-- A routine that settles still does after plain replies. -/
theorem Settles.becomes {xs : List (Exchange D)} (settles : r.Settles plain P)
    (becomes : r.Becomes xs t) (all : ∀ x ∈ xs, plain x) : t.Settles plain P := by
  induction becomes with
  | start => exact settles
  | reply before a ih =>
    rw [List.forall_mem_append] at all
    exact (ih all.1).2 a (all.2 _ List.mem_cons_self)

theorem Settles.andThen {Q : β → Prop} {f : α → Routine D β} (settles : r.Settles plain P)
    (goesOn : ∀ a, P a → (f a).Settles plain Q) : (r.andThen f).Settles plain Q := by
  induction r with
  | done a => exact goesOn a settles
  | ask q k ih => exact ⟨settles.1, fun a fine => ih a (settles.2 a fine)⟩

end Settled

end Routine

end TopicConsumer
