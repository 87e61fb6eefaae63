/-!
# Routines

A routine is a computation that talks to its surroundings: now and then it asks a question and goes
on with the reply. What can be asked, and of which type each reply is, is the routine's dialogue. A
routine says nothing about time or about other routines; who answers its questions decides when each
of them is answered, and a routine whose question is never answered simply stays where it is.

Routines form a monad, and `interpret` answers every question of one dialogue by a routine of
another.
-/

namespace TopicConsumer

/-- The questions of a routine and the types of the replies. -/
structure Dialogue where
  Query : Type
  Reply : Query → Type

/-- A computation that asks questions of the dialogue `D` and ends with an `α`. -/
inductive Routine (D : Dialogue) (α : Type) : Type where
  | done (a : α)
  | ask (q : D.Query) (k : D.Reply q → Routine D α)

namespace Routine

variable {D E : Dialogue} {α β : Type}

/-- Goes on with `f` where the routine ends. -/
def andThen (f : α → Routine D β) : Routine D α → Routine D β
  | .done a => f a
  | .ask q k => .ask q fun r => (k r).andThen f

instance : Monad (Routine D) where
  pure := .done
  bind r f := r.andThen f

/-- A single question. -/
def query (q : D.Query) : Routine D (D.Reply q) := .ask q .done

/-- Answers every question by a routine of another dialogue. -/
def interpret (answer : (q : D.Query) → Routine E (D.Reply q)) : Routine D α → Routine E α
  | .done a => .done a
  | .ask q k => (answer q).andThen fun r => (k r).interpret answer

theorem bind_eq_andThen (r : Routine D α) (f : α → Routine D β) : r >>= f = r.andThen f := rfl

theorem andThen_done (r : Routine D α) : r.andThen .done = r := by
  induction r with
  | done a => rfl
  | ask q k ih => simp only [andThen, ih]

theorem andThen_assoc {γ : Type} (r : Routine D α) (f : α → Routine D β) (g : β → Routine D γ) :
    (r.andThen f).andThen g = r.andThen fun a => (f a).andThen g := by
  induction r with
  | done a => rfl
  | ask q k ih => simp only [andThen, ih]

instance : LawfulMonad (Routine D) :=
  LawfulMonad.mk' (Routine D) (fun r => andThen_done r) (fun _ _ => rfl) andThen_assoc

end Routine

end TopicConsumer
