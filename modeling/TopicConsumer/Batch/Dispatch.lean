import TopicConsumer.Pipeline.Basic

/-!
# Running jobs side by side

A dispatch starts jobs in their order, with at most a given number of them unfinished at any time.
Once the cancellation is raised it starts no further ones. It is over when every job that was
started has finished. If a job was never started the outcome is that the pipeline was cancelled;
otherwise it is the failure that came first, if there was one.
-/

namespace TopicConsumer

/-- Jobs that are run side by side. -/
structure Dispatch (J : Type) where
  limit : Nat
  /-- The jobs that have not been started. -/
  waiting : List J
  /-- The number of jobs that have been started and have not finished. -/
  running : Nat
  /-- Jobs were left out because of the cancellation. -/
  refused : Bool
  /-- The failure that came first. -/
  failure : Option Fault

/-- How a dispatch moves on by itself. -/
inductive Dispatch.Move (J : Type) where
  /-- A job is started. -/
  | start (job : J) (d : Dispatch J)
  /-- The jobs that are left are given up. -/
  | refuse (d : Dispatch J)
  /-- Every started job has finished. -/
  | reply (outcome : Outcome)

namespace Dispatch

variable {J : Type}

/-- A dispatch of jobs none of which has been started. -/
def ofJobs (limit : Nat) (jobs : List J) : Dispatch J := ⟨limit, jobs, 0, false, none⟩

/-- The outcome of a dispatch that is over. -/
def outcome (d : Dispatch J) : Outcome :=
  if d.refused then .error (.pipeline .cancelled) else d.failure.elim (.ok ()) .error

/-- The next move, unless the dispatch has to wait for a job to finish. -/
def step (cancelled : Bool) (d : Dispatch J) : Option (Move J) :=
  match d.waiting with
  | [] => if d.running = 0 then some (.reply d.outcome) else none
  | job :: rest =>
    if cancelled then some (.refuse { d with waiting := [], refused := true })
    else if d.running < d.limit then
      some (.start job { d with waiting := rest, running := d.running + 1 })
    else none

/-- A job finishes. -/
def finish (outcome : Outcome) (d : Dispatch J) : Dispatch J :=
  { d with
    running := d.running - 1
    failure := match d.failure, outcome with
      | some fault, _ => some fault
      | none, .error fault => some fault
      | none, .ok () => none }

end Dispatch

end TopicConsumer
