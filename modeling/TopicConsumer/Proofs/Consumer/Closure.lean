import TopicConsumer.Proofs.Consumer.Standing
import TopicConsumer.Proofs.Worker.Withdrawal

/-!
# A consumer is shut down once, and in order

Whoever asks for a shutdown, and whenever: at most one party claims it. If it comes to its end, no
worker is registered any more, every worker has been closed, and the broker was given up only after
the final commit of every worker. `Office.Told` says how much of this has been seen when the
shutdown has come so far.
-/

namespace TopicConsumer

/-! ## The final commit -/

namespace Disposal

/-- The final commit has been made. -/
def hasCommitted : Disposal → Bool
  | .resuming _ | .revoking _ | .closing _ | .returned | .crashed _ => true
  | _ => false

variable {env : Surroundings} {s t : Station} {d e : Disposal} {events : List Event}

/-- Nobody comes to the end of closing a worker without the final commit. -/
theorem Move.committing_of_hasCommitted (move : Move env s d t e events)
    (here : s.worker.status = d.status) (made : e.hasCommitted = true) :
    d.hasCommitted = true ∨ ∃ drained, d = .committing drained := by
  cases move with
  | late inactive => exact absurd here inactive
  | crashed operating broken =>
    obtain ⟨drained, ⟨rfl, -⟩ | ⟨rfl, -⟩⟩ := operating
    · exact .inr ⟨drained, rfl⟩
    · exact .inl rfl
  | committed drained => exact .inr ⟨drained, rfl⟩
  | resumed | revoked | closed => exact .inl rfl
  | claimed | shut | drained | timedOut | aborted | cancelled => cases made

/-- A call that closes a worker commits the position of its partition with one of its steps, and then
hands the cached position to the broker. -/
theorem Move.commit_mem (move : Move env s d t e events)
    (commits : .operation s.worker.partition .commit ∈ events) {c : Offset}
    (cached : s.committed = some c) :
    ∃ answered, .call (.commit ⟨s.worker.partition, c⟩) answered ∈ events := by
  have due : Deed.operation s.worker.partition .commit ∈ d.due s.worker.partition := by
    rw [← move.deeds_eq]
    exact List.mem_filterMap.mpr ⟨_, commits, rfl⟩
  cases move with
  | committed => exact Station.commit_mem_performing cached
  | crashed operating =>
    obtain ⟨drained, ⟨rfl, rfl⟩ | ⟨rfl, rfl⟩⟩ := operating
    · exact Station.commit_mem_performing cached
    · simp [Disposal.due] at due
  | _ => simp [Disposal.due] at due

/-- A call that closes a worker crashes only with a call of the broker. -/
theorem Move.exists_crashed_call {text : String} (move : Move env s d t (.crashed text) events) :
    ∃ call, .call call (.crashed text) ∈ events := by
  cases move with
  | crashed operating broken =>
    rename_i op
    have plain : ∀ reading, op ≠ .assign reading := by
      obtain ⟨drained, ⟨-, rfl⟩ | ⟨-, rfl⟩⟩ := operating <;> simp
    exact Station.exists_crashed_call _ _ _ _ broken plain

end Disposal

/-! ## Landmarks of a shutdown -/

/-- The landmark that a call passes with its next step that closes the `i`-th worker. -/
def Disposal.landmarks (i : Nat) : Disposal → List Landmark
  | .committing _ => [.committed i]
  | _ => []

/-- The landmarks that a shutdown has passed after the final commits. -/
def Shutdown.tail (hasHook : Bool) : Shutdown → List Landmark
  | .closingBroker => [.unsubscribed]
  | .notifying => [.unsubscribed, .closed]
  | .finishing | .returned => [.unsubscribed, .closed] ++ if hasHook then [.notified] else []
  | _ => []

/-- The broker is closed when the shutdown has come so far. -/
def Shutdown.hasClosed : Shutdown → Bool
  | .notifying | .finishing | .returned => true
  | _ => false

theorem Shutdown.closed_mem_tail {hasHook : Bool} {s : Shutdown} :
    .closed ∈ s.tail hasHook ↔ s.hasClosed = true := by
  cases s <;> simp [tail, hasClosed]

theorem Shutdown.tail_nextWorker (hasHook : Bool) (workers : List Nat) :
    (nextWorker workers).tail hasHook = [] := by
  cases workers <;> rfl

/-- The workers that a shutdown has taken have not begun to be closed. -/
theorem Shutdown.uncommitted_nextWorker {workers : List Nat} {hand : List (Nat × Disposal)} :
    ∀ e ∈ (nextWorker workers).hand, e.2.hasCommitted = true → e ∈ hand := by
  intro e mem made
  rw [hand_nextWorker] at mem
  obtain ⟨w, -, rfl⟩ := List.mem_map.mp mem
  cases made

theorem Shutdown.nextWorker_ne_notifying {workers : List Nat} :
    nextWorker workers ≠ .notifying := by
  cases workers <;> simp [nextWorker]

namespace Office

variable {profile : ConsumerProfile} {env : Surroundings} {o t : Office}

/-- The move claims the shutdown. -/
def Entry.claims (e : Entry) : Bool :=
  decide (e.before.shutdownOf? e.act = some .claiming) && !e.before.consumer.disposed

/-- A shutdown that was claimed comes to its end with the move. -/
def Entry.Finishes (e : Entry) : Prop := e.before.shutdownOf? e.act = some .finishing

instance (e : Entry) : Decidable e.Finishes :=
  inferInstanceAs (Decidable (_ = some Shutdown.finishing))

/-- The call that closes the worker goes on with the move, and a call of the broker crashes. -/
def Entry.Fails (i : Nat) (e : Entry) : Prop :=
  (∃ d, e.before.disposal? e.act = some (i, d)) ∧ Breaks e.events

variable {routing : String → Option BatchSettings} {s u : Shutdown}

/-- A worker that leaves has been closed as far as the call says that closes it. -/
theorem Standing.leaves (h : Standing routing o s) {i : Nat} {d : Disposal}
    (mem : (i, d) ∈ o.consumer.removals ++ s.hand) :
    o.consumer.badges[i]?.map Badge.status = some d.status := by
  cases h with
  | idle live calm housed => exact housed.leaves i d mem
  | busy claimed place reached others housed =>
    refine housed.leaves i d ?_
    rw [inHand, ← List.append_assoc, List.mem_append, List.mem_append]
    rcases List.mem_append.mp mem with mem | mem
    · exact .inl (.inl mem)
    · exact .inr mem
  | concluded claimed calm reached ended housed =>
    refine housed.leaves i d (List.mem_append_left _ ?_)
    rcases List.mem_append.mp mem with mem | mem
    · exact mem
    · cases s with
      | closingWorker => cases ended
      | _ => cases mem

theorem Standing.status (h : Standing routing o s) {i : Nat} {d : Disposal} {w : Worker}
    (worker : o.consumer.workers[i]? = some w)
    (mem : (i, d) ∈ o.consumer.removals ++ s.hand) : w.status = d.status := by
  have status := h.leaves mem
  rw [Consumer.badges_getElem?, worker] at status
  exact Option.some.inj status

/-- The landmarks of a move of the loop or of a call that closes the consumer, if it closes no worker
or nothing happens. -/
theorem landmarks_goes {party : Party} {events : List ConsumerEvent}
    (place : o.shutdown? party = some s) (idle : s.hand = [] ∨ events = []) :
    Entry.landmarks ⟨o, .goes party, events, t⟩ = ConsumerEvent.landmarks events := by
  have silent : o.finalCommits (.goes party) events = [] := by
    rcases idle with none | rfl
    · refine finalCommits_of_nobody ?_ events
      cases s with
      | closingWorker => cases none
      | _ => simp [disposal?, shutdownOf?, place]
    · unfold finalCommits
      split <;> try split
      all_goals rfl
  rw [Entry.landmarks, silent]
  exact List.append_nil _

/-- The final commits are deeds of the worker. -/
theorem countP_commits (p : TopicPartition) (events : List Event) :
    (events.map ConsumerEvent.work).countP (·.commits p) =
      (events.filterMap Event.deed?).count (.operation p .commit) := by
  rw [List.countP_map, List.count, List.countP_filterMap]
  refine List.countP_congr fun e _ => ?_
  cases e with
  | operation q op => cases op <;> simp [ConsumerEvent.commits, Event.deed?]
  | _ => simp [ConsumerEvent.commits, Event.deed?]

/-- The landmarks of a move with which a call goes on that closes a worker. -/
theorem landmarks_disposal {act : Act} {i : Nat} {d e : Disposal} {w : Worker} {v : Station}
    {events : List Event} (call : o.disposal? act = some (i, d))
    (worker : o.consumer.workers[i]? = some w)
    (move : Disposal.Move env ⟨o.consumer.manager, w⟩ d v e events) (quiet : act.notices = []) :
    Entry.landmarks ⟨o, act, events.map .work, t⟩ = d.landmarks i := by
  have commits : o.finalCommits act (events.map .work) = d.landmarks i := by
    simp only [finalCommits, call, worker, countP_commits, move.deeds_eq]
    cases d <;> simp [Disposal.due, Disposal.landmarks]
  rw [Entry.landmarks, commits, ConsumerEvent.landmarks_map_work, quiet]
  simp

/-- The broker is not given up while a task closes a worker. -/
theorem Standing.tail_eq_nil (h : Standing routing o s) {task i : Nat} {d : Disposal}
    (call : o.consumer.removals[task]? = some (i, d)) (busy : d.isOver = false) (hasHook : Bool) :
    s.tail hasHook = [] := by
  have reached : s = .claiming ∨ o.Reached s := by
    cases h with
    | idle => exact .inl rfl
    | busy _ _ reached => exact .inr reached
    | concluded _ _ reached => exact .inr reached
  rcases reached with rfl | reached
  · rfl
  · -- the broker is given up after all tasks have been waited for
    cases s with
    | closingBroker | notifying | finishing | returned =>
      exact absurd (reached.2 task i d call busy) List.not_mem_nil
    | _ => rfl

/-! ## What has been seen of a shutdown -/

/-- What has been seen when the shutdown has come so far: final commits were made for these workers,
all of them before the broker was given up. -/
structure Told (hasHook : Bool) (history : List Entry) (o : Office) (s : Shutdown) (is : List Nat) :
    Prop where
  once : history.countP Entry.claims = if o.consumer.disposed then 1 else 0
  order : landmarks history = is.map .committed ++ s.tail hasHook
  hook : s = .notifying → hasHook = true
  committed : ∀ i d, (i, d) ∈ o.consumer.removals ++ s.hand → d.hasCommitted = true → i ∈ is
  closed : ∀ i : Nat, o.consumer.badges[i]?.map Badge.status = some .closed → i ∈ is
  crashed : ∀ i text, (i, .crashed text) ∈ o.consumer.removals → ∃ e ∈ history, e.Fails i
  finished : (∃ e ∈ history, e.Finishes) → s = .returned

namespace Told

variable {hasHook : Bool} {history : List Entry} {is : List Nat} {w : Nat} {call : Disposal}
  {rest : List Nat}

theorem start : Told hasHook [] new .claiming [] where
  once := rfl
  order := rfl
  hook h := by cases h
  committed i d mem := by cases mem
  closed i h := by simp [new, Consumer.fresh, Consumer.badges] at h
  crashed i text mem := by cases mem
  finished h := by simp at h

/-- One more move, by which final commits are made for some more workers. -/
theorem extend (h : Told hasHook history o s is) {e : Entry} (before : e.before = o)
    (more : List Nat)
    (once : e.after.consumer.disposed = (o.consumer.disposed || e.claims))
    (order : s.tail hasHook ++ e.landmarks = more.map .committed ++ u.tail hasHook)
    (hook : u = .notifying → hasHook = true)
    (committed : ∀ i d, (i, d) ∈ e.after.consumer.removals ++ u.hand → d.hasCommitted = true →
      (∃ f, (i, f) ∈ o.consumer.removals ++ s.hand ∧ f.hasCommitted = true) ∨ i ∈ more)
    (closed : ∀ i : Nat, e.after.consumer.badges[i]?.map Badge.status = some .closed →
      o.consumer.badges[i]?.map Badge.status = some .closed ∨
        ∃ d, (i, d) ∈ e.after.consumer.removals ++ u.hand ∧ d.hasCommitted = true)
    (crashed : ∀ i text, (i, .crashed text) ∈ e.after.consumer.removals →
      (i, .crashed text) ∈ o.consumer.removals ∨ e.Fails i)
    (finished : s = .returned ∨ e.Finishes → u = .returned) :
    Told hasHook (history ++ [e]) e.after u (is ++ more) := by
  have known : ∀ i d, (i, d) ∈ e.after.consumer.removals ++ u.hand → d.hasCommitted = true →
      i ∈ is ++ more := by
    intro i d mem made
    rcases committed i d mem made with ⟨f, mem, made⟩ | new
    · exact List.mem_append_left _ (h.committed i f mem made)
    · exact List.mem_append_right _ new
  constructor
  case once =>
    rw [List.countP_append, List.countP_singleton, h.once, once]
    cases claims : e.claims with
    | false => simp
    | true =>
      have live : o.consumer.disposed = false := by
        rw [← before]
        simpa using (Bool.and_eq_true_iff.mp claims).2
      simp [live]
  case order =>
    rw [landmarks_concat, h.order, List.append_assoc, order, List.map_append, List.append_assoc]
  case hook => exact hook
  case committed => exact known
  case closed =>
    intro i shut
    rcases closed i shut with old | ⟨d, mem, made⟩
    · exact List.mem_append_left _ (h.closed i old)
    · exact known i d mem made
  case crashed =>
    intro i text mem
    rcases crashed i text mem with old | fails
    · obtain ⟨f, hf, fails⟩ := h.crashed i text old
      exact ⟨f, List.mem_append_left _ hf, fails⟩
    · exact ⟨e, List.mem_concat_self, fails⟩
  case finished =>
    rintro ⟨f, hf, finishes⟩
    rcases List.mem_append.mp hf with old | new
    · exact finished (.inl (h.finished ⟨f, old, finishes⟩))
    · obtain rfl := List.mem_singleton.mp new
      exact finished (.inr finishes)

/-- A move that makes no final commit and closes no worker. -/
theorem pass (h : Told hasHook history o s is) {e : Entry} (before : e.before = o)
    (once : e.after.consumer.disposed = (o.consumer.disposed || e.claims))
    (order : s.tail hasHook ++ e.landmarks = u.tail hasHook)
    (hook : u = .notifying → hasHook = true)
    (hand : ∀ e ∈ u.hand, e.2.hasCommitted = true → e ∈ s.hand)
    (removals : e.after.consumer.removals = o.consumer.removals)
    (badges : e.after.consumer.badges = o.consumer.badges)
    (finished : s = .returned ∨ e.Finishes → u = .returned) :
    Told hasHook (history ++ [e]) e.after u is := by
  have passed := h.extend (e := e) (u := u) before [] once (by simpa using order) hook ?_ ?_ ?_
    finished
  · simpa using passed
  · intro i d mem made
    refine .inl ⟨d, ?_, made⟩
    rw [removals] at mem
    rcases List.mem_append.mp mem with mem | mem
    · exact List.mem_append_left _ mem
    · exact List.mem_append_right _ (hand _ mem made)
  · intro i closed
    exact .inl (badges ▸ closed)
  · intro i text mem
    exact .inl (removals ▸ mem)

/-- A call that closes a worker goes on. -/
theorem advance (h : Told hasHook history o s is) {e : Entry} (before : e.before = o) {i : Nat}
    {d f : Disposal} {w : Worker} {v : Station} {events : List Event}
    (here : w.status = d.status) (worker : o.consumer.workers[i]? = some w)
    (move : Disposal.Move env ⟨o.consumer.manager, w⟩ d v f events)
    (call : (i, d) ∈ o.consumer.removals ++ s.hand)
    (marks : e.landmarks = d.landmarks i)
    (once : e.after.consumer.disposed = (o.consumer.disposed || e.claims))
    (open_ : s.tail hasHook = [] ∧ u.tail hasHook = [])
    (badges : e.after.consumer.badges = (o.consumer.setStation i v).badges)
    (goesOn : (i, f) ∈ e.after.consumer.removals ++ u.hand)
    (calls : ∀ j g, (j, g) ∈ e.after.consumer.removals ++ u.hand →
      (j, g) = (i, f) ∨ (j, g) ∈ o.consumer.removals ++ s.hand)
    (crashed : ∀ j text, (j, .crashed text) ∈ e.after.consumer.removals →
      (j, .crashed text) ∈ o.consumer.removals ∨ e.Fails j)
    (finished : s = .returned ∨ e.Finishes → u = .returned) :
    ∃ is, Told hasHook (history ++ [e]) e.after u is := by
  obtain ⟨more, commits, final⟩ : ∃ more : List Nat,
      d.landmarks i = more.map .committed ∧
        ((∃ drained, d = .committing drained) → i ∈ more) := by
    cases d with
    | committing drained => exact ⟨[i], rfl, fun _ => List.mem_singleton_self i⟩
    | _ => exact ⟨[], rfl, by simp⟩
  refine ⟨is ++ more, h.extend before more once ?_ ?_ ?_ ?_ crashed finished⟩
  · rw [open_.1, open_.2, marks, commits, List.append_nil, List.nil_append]
  · rintro rfl
    cases open_.2
  · intro j g mem made
    rcases calls j g mem with same | old
    · cases same
      rcases move.committing_of_hasCommitted here made with earlier | now
      · exact .inl ⟨d, call, earlier⟩
      · exact .inr (final now)
    · exact .inl ⟨g, old, made⟩
  · -- a worker that is closed now was closed before, or it is the one whose call goes on
    intro j closed
    rw [badges, Consumer.badges_setStation, move.badge here] at closed
    by_cases hij : i = j
    · subst hij
      have bound : i < o.consumer.badges.length := by
        simpa [Consumer.badges] using (List.getElem?_eq_some_iff.mp worker).1
      rw [List.getElem?_set_self bound] at closed
      refine .inr ⟨f, goesOn, ?_⟩
      cases f <;> first | rfl | cases closed
    · rw [List.getElem?_set_ne hij] at closed
      exact .inl closed

/-- A shutdown that was claimed makes a move that closes no worker. -/
theorem go (h : Told hasHook history o s is) {party : Party} {c : Consumer}
    {events : List ConsumerEvent} (place : o.shutdown? party = some s) (past : s ≠ .claiming)
    (alive : s ≠ .returned) (disposed : c.disposed = o.consumer.disposed)
    (badges : c.badges = o.consumer.badges) (removals : c.removals = o.consumer.removals)
    (hand : ∀ e ∈ u.hand, e.2.hasCommitted = true → e ∈ s.hand)
    (idle : s.hand = [] ∨ events = [])
    (order : s.tail hasHook ++ ConsumerEvent.landmarks events = u.tail hasHook)
    (hook : u = .notifying → hasHook = true) (finished : s = .finishing → u = .returned) :
    ∃ is, Told hasHook
      (history ++ [⟨o, .goes party, events, { o with consumer := c }.setShutdown u party⟩])
      ({ o with consumer := c }.setShutdown u party) u is := by
  obtain ⟨alike, -⟩ := alike_setShutdown (o := { o with consumer := c }) u party
  refine ⟨is, h.pass rfl ?_ ?_ hook hand (alike.removals.trans removals)
    (alike.badges.trans badges) ?_⟩
  · simp [Entry.claims, shutdownOf?, place, past, alike.disposed, disposed]
  · rw [landmarks_goes place idle]
    exact order
  · rintro (returned | finishes)
    · exact absurd returned alive
    · exact finished (Option.some.inj (place.symm.trans finishes))

/-- A shutdown closes one worker after the other. -/
theorem close (h : Told hasHook history o (.closingWorker w call rest) is)
    (standing : Standing routing o (.closingWorker w call rest)) {party : Party} {c : Consumer}
    {events : List ConsumerEvent} (place : o.shutdown? party = some (.closingWorker w call rest))
    (step : Shutdown.step env profile o.consumer (.closingWorker w call rest) =
      some (c, u, events)) :
    ∃ is, Told hasHook
      (history ++ [⟨o, .goes party, events, { o with consumer := c }.setShutdown u party⟩])
      ({ o with consumer := c }.setShutdown u party) u is := by
  have there : (w, call) ∈ o.consumer.removals ++ (Shutdown.closingWorker w call rest).hand :=
    List.mem_append_right _ List.mem_cons_self
  cases call with
  | returned =>
    cases step
    exact h.go place (by simp) (by simp) rfl rfl rfl Shutdown.uncommitted_nextWorker (.inr rfl)
      (Shutdown.tail_nextWorker _ _).symm (fun same => absurd same Shutdown.nextWorker_ne_notifying)
      (by simp)
  | crashed text =>
    cases step
    obtain ⟨-, removals, disposed⟩ := Consumer.registry_forgetWorkers (c := o.consumer) rest
    exact h.go place (by simp) (by simp) disposed (Consumer.badges_forgetWorkers rest) removals
      (by simp [Shutdown.hand]) (.inr rfl) rfl (by simp) (by simp)
  | _ =>
    simp only [Shutdown.step, bind, Option.bind_eq_some_iff, Prod.exists] at step
    obtain ⟨station, found, v, f, moves, move, step⟩ := step
    cases step
    obtain ⟨worker, hw, rfl⟩ := Option.map_eq_some_iff.mp found
    have move := Disposal.move_of_step move
    obtain ⟨alike, -⟩ :=
      alike_setShutdown (o := { o with consumer := o.consumer.setStation w v })
        (.closingWorker w f rest) party
    refine h.advance rfl (standing.status hw there) hw move there ?_ ?_ ⟨rfl, rfl⟩ alike.badges
      (List.mem_append_right _ List.mem_cons_self) ?_ ?_
      (by simp [Entry.Finishes, shutdownOf?, place])
    · exact landmarks_disposal (by simp [disposal?, shutdownOf?, place]) hw move rfl
    · refine alike.disposed.trans ?_
      simp [Entry.claims, shutdownOf?, place, Consumer.setStation]
    · intro j g mem
      rw [alike.removals] at mem
      rcases List.mem_append.mp mem with old | mem
      · exact .inr (List.mem_append_left _ old)
      · rcases List.mem_cons.mp mem with same | later
        · exact .inl same
        · exact .inr (List.mem_append_right _ (List.mem_cons_of_mem _ later))
    · intro j text mem
      rw [alike.removals] at mem
      exact .inl mem

theorem shut (h : Told profile.hasHook history o s is) (standing : Standing routing o s)
    {party : Party} {c : Consumer} {events : List ConsumerEvent}
    (place : o.shutdown? party = some s) (past : s ≠ .claiming)
    (step : s.step env profile o.consumer = some (c, u, events)) :
    ∃ is, Told profile.hasHook
      (history ++ [⟨o, .goes party, events, { o with consumer := c }.setShutdown u party⟩])
      ({ o with consumer := c }.setShutdown u party) u is := by
  cases s with
  | claiming => exact absurd rfl past
  | closingWorker w call rest => exact h.close standing place step
  | takingWorkers =>
    cases step
    exact h.go place past (by simp) rfl rfl rfl Shutdown.uncommitted_nextWorker (.inl rfl)
      (Shutdown.tail_nextWorker _ _).symm (fun same => absurd same Shutdown.nextWorker_ne_notifying)
      (by simp)
  | awaiting tasks =>
    cases tasks with
    | nil =>
      cases step
      exact h.go place past (by simp) rfl rfl rfl (by simp [Shutdown.hand]) (.inl rfl) rfl (by simp)
        (by simp)
    | cons task rest =>
      simp only [Shutdown.step, bind, Option.bind_eq_some_iff, Prod.exists] at step
      obtain ⟨i, call, found, step⟩ := step
      split at step
      · cases step
        refine h.go place past (by simp) rfl rfl rfl (by simp [Shutdown.hand]) (.inl rfl) ?_ (by simp)
          (by simp)
        cases call <;> rfl
      · cases step
  | cancellingWorkers =>
    cases step
    exact h.go place past (by simp) rfl Consumer.badges_cancel rfl (by simp [Shutdown.hand]) (.inl rfl) rfl
      (by simp) (by simp)
  | closingBroker =>
    cases step
    cases hook : profile.hasHook with
    | true =>
      rw [hook] at h
      exact h.go place past (by simp) rfl rfl rfl (by simp [Shutdown.hand]) (.inl rfl) rfl (by simp)
        (by simp)
    | false =>
      rw [hook] at h
      exact h.go place past (by simp) rfl rfl rfl (by simp [Shutdown.hand]) (.inl rfl) rfl (by simp)
        (by simp)
  | finishing =>
    cases step
    refine h.go place past (by simp) rfl rfl rfl (by simp [Shutdown.hand]) (.inl rfl) ?_ (by simp)
      (by simp)
    exact List.append_nil _
  | stoppingLoop | takingRemovals | unsubscribing =>
    cases step
    exact h.go place past (by simp) rfl rfl rfl (by simp [Shutdown.hand]) (.inl rfl) rfl (by simp)
      (by simp)
  | notifying | returned | crashed text => cases step

/-- The first party that comes claims the shutdown. -/
theorem claim (h : Told hasHook history o .claiming is) {party : Party}
    {events : List ConsumerEvent} (place : o.shutdown? party = some .claiming)
    (live : o.consumer.disposed = false) (tacit : ConsumerEvent.landmarks events = []) :
    Told hasHook (history ++ [⟨o, .goes party, events,
        { o with consumer := { o.consumer with disposed := true } }.setShutdown .stoppingLoop
          party⟩])
      ({ o with consumer := { o.consumer with disposed := true } }.setShutdown .stoppingLoop party)
      .stoppingLoop is := by
  obtain ⟨alike, -⟩ := alike_setShutdown
    (o := { o with consumer := { o.consumer with disposed := true } }) .stoppingLoop party
  refine h.pass rfl ?_ ?_ (by simp) (by simp [Shutdown.hand]) alike.removals alike.badges ?_
  · simp [Entry.claims, shutdownOf?, place, alike.disposed, live]
  · rw [landmarks_goes place (.inl rfl), tacit]
    rfl
  · simp [Entry.Finishes, shutdownOf?, place]

/-- A party that comes too late leaves everything as it is. -/
theorem late (h : Told hasHook history o s is) {party : Party}
    (place : o.shutdown? party = some .claiming) (claimed : o.consumer.disposed = true) :
    Told hasHook (history ++ [⟨o, .goes party, [], o.setShutdown .returned party⟩])
      (o.setShutdown .returned party) s is := by
  obtain ⟨alike, -⟩ := alike_setShutdown (o := o) .returned party
  refine h.pass rfl ?_ ?_ h.hook (fun _ mem _ => mem) alike.removals alike.badges ?_
  · simp [alike.disposed, claimed]
  · rw [landmarks_goes place (.inr rfl)]
    exact List.append_nil _
  · simp [Entry.Finishes, shutdownOf?, place]

/-- Those are done who want to know that the consumer is closed, whatever has become of it. -/
theorem notified (h : Told hasHook history o .notifying is) {party : Party}
    {answer : Except String Unit} {events : List ConsumerEvent}
    (tacit : ConsumerEvent.landmarks events = []) :
    Told hasHook (history ++ [⟨o, .notified party answer, events, o.setShutdown .finishing party⟩])
      (o.setShutdown .finishing party) .finishing is := by
  obtain ⟨alike, -⟩ := alike_setShutdown (o := o) .finishing party
  refine h.pass rfl ?_ ?_ (by simp) (by simp [Shutdown.hand]) alike.removals alike.badges ?_
  · simp [Entry.claims, shutdownOf?, alike.disposed]
  · simp [Entry.landmarks, disposal?, shutdownOf?, finalCommits, tacit, Act.notices, Shutdown.tail,
      h.hook rfl]
  · simp [Entry.Finishes, shutdownOf?]

/-- A task goes on with closing a removed worker. -/
theorem removal (h : Told hasHook history o s is) (standing : Standing routing o s) {task i : Nat}
    {d e : Disposal} {w : Worker} {v : Station} {events : List Event}
    (call : o.consumer.removals[task]? = some (i, d)) (worker : o.consumer.workers[i]? = some w)
    (move : Disposal.Move env ⟨o.consumer.manager, w⟩ d v e events) :
    ∃ is, Told hasHook (history ++ [⟨o, .removal task, events.map .work,
        { o with consumer := { o.consumer.setStation i v with
            removals := o.consumer.removals.set task (i, e) } }⟩])
      { o with consumer := { o.consumer.setStation i v with
          removals := o.consumer.removals.set task (i, e) } } s is := by
  have bound := (List.getElem?_eq_some_iff.mp call).1
  have there : (i, d) ∈ o.consumer.removals ++ s.hand :=
    List.mem_append_left _ (List.mem_of_getElem? call)
  have early := standing.tail_eq_nil call move.alive hasHook
  refine h.advance rfl (standing.status worker there) worker move there ?_ ?_ ⟨early, early⟩ rfl
    ?_ ?_ ?_ ?_
  · exact landmarks_disposal (by simp [disposal?, call]) worker move rfl
  · exact (Bool.or_false _).symm
  · exact List.mem_append_left _ (List.mem_set bound _)
  · intro j g mem
    rcases List.mem_append.mp mem with mem | mem
    · rcases List.mem_or_eq_of_mem_set mem with old | same
      · exact .inr (List.mem_append_left _ old)
      · exact .inl same
    · exact .inr (List.mem_append_right _ mem)
  · intro j text mem
    rcases List.mem_or_eq_of_mem_set mem with old | same
    · exact .inl old
    · cases same
      obtain ⟨crashing, mem⟩ := move.exists_crashed_call
      exact .inr ⟨⟨d, call⟩, crashing, text, List.mem_map_of_mem mem⟩
  · rintro (returned | finishes)
    · exact returned
    · cases finishes

theorem reassigned (h : Told hasHook history o s is) (env : Surroundings)
    (profile : ConsumerProfile) (ps : List TopicPartition) :
    Told hasHook (history ++ [⟨o, .reassign, (o.consumer.reassign env profile ps).2.1,
        { o with consumer := (o.consumer.reassign env profile ps).1, rebalance := none }⟩])
      { o with consumer := (o.consumer.reassign env profile ps).1, rebalance := none } s is := by
  obtain ⟨m, ws, entries, tasks, names, after⟩ := o.consumer.reassign_eq env profile ps
  obtain ⟨⟨added, badges, active⟩, gone, removals⟩ := o.consumer.reassign_spec env profile ps
  have passed := h.extend (u := s) (e := ⟨o, .reassign, (o.consumer.reassign env profile ps).2.1,
    { o with consumer := (o.consumer.reassign env profile ps).1, rebalance := none }⟩)
    rfl [] ?_ ?_ h.hook ?_ ?_ ?_ ?_
  · simpa using passed
  · rw [after]
    exact (Bool.or_false _).symm
  · have tacit : ConsumerEvent.landmarks (o.consumer.reassign env profile ps).2.1 = [] :=
      Consumer.landmarks_assign env profile true ps { o.consumer with disposed := false }
    simp [Entry.landmarks, disposal?, shutdownOf?, finalCommits, tacit, Act.notices]
  · -- the tasks that are new have not begun, and the workers that are new are active
    intro i d mem made
    rw [removals, List.append_assoc, List.mem_append, List.mem_append] at mem
    rcases mem with old | new | old
    · exact .inl ⟨d, List.mem_append_left _ old, made⟩
    · obtain ⟨w, -, same⟩ := List.mem_map.mp new
      cases same
      cases made
    · exact .inl ⟨d, List.mem_append_right _ old, made⟩
  · intro i closed
    refine .inl ?_
    rw [badges] at closed
    rcases Nat.lt_or_ge i o.consumer.badges.length with old | new
    · rwa [List.getElem?_append_left old] at closed
    · rw [List.getElem?_append_right new] at closed
      obtain ⟨b, found, status⟩ := Option.map_eq_some_iff.mp closed
      cases (active b (List.mem_of_getElem? found)).symm.trans status
  · intro i text mem
    rw [removals] at mem
    rcases List.mem_append.mp mem with old | new
    · exact .inl old
    · obtain ⟨w, -, same⟩ := List.mem_map.mp new
      cases same
  · rintro (returned | finishes)
    · exact returned
    · cases finishes

theorem aside (h : Told hasHook history o s is) {act : Act} {events : List ConsumerEvent}
    (alike : o.consumer.Alike t.consumer) (apart : o.shutdownOf? act = none)
    (nobody : o.disposal? act = none) (tacit : ConsumerEvent.landmarks events = [])
    (unnoticed : act.notices = []) : Told hasHook (history ++ [⟨o, act, events, t⟩]) t s is := by
  refine h.pass rfl ?_ ?_ h.hook (fun _ mem _ => mem) alike.removals alike.badges ?_
  · simp [Entry.claims, apart, alike.disposed]
  · simp [Entry.landmarks, finalCommits_of_nobody nobody, tacit, unnoticed]
  · simp [Entry.Finishes, apart]

/-- Every move goes on with what has been seen. -/
theorem move (h : Told profile.hasHook history o s is) (standing : Standing profile.routing o s)
    {act : Act} {events : List ConsumerEvent} (gist : Gist profile env o act t events) :
    ∃ u is, Standing profile.routing t u ∧
      Told profile.hasHook (history ++ [⟨o, act, events, t⟩]) t u is := by
  cases gist with
  | aside aside apart nobody tacit unnoticed =>
    exact ⟨s, is, standing.aside aside, h.aside aside.alike apart nobody tacit unnoticed⟩
  | accepted live =>
    exact ⟨s, is, standing.accepted live _, h.aside (.refl _) rfl rfl rfl rfl⟩
  | reassigned held => exact ⟨s, is, standing.reassigned held, h.reassigned env profile _⟩
  | removal call worker move =>
    obtain ⟨is, told⟩ := h.removal standing call worker move
    exact ⟨s, is, standing.removal call worker move, told⟩
  | shut place clear step =>
    rename_i party r u c
    by_cases past : r = .claiming
    · subst past
      rcases claim_cases step with ⟨late, rfl, rfl, rfl⟩ | ⟨live, rfl, rfl, tacit⟩
      · exact ⟨s, is, standing.late place, h.late place late⟩
      · obtain ⟨rfl, claimed⟩ := standing.claim place live
        exact ⟨_, is, claimed, h.claim place live tacit⟩
    · obtain ⟨rfl, -⟩ := standing.holder place past
      obtain ⟨is, told⟩ := h.shut standing place past step
      exact ⟨u, is, standing.shut place past clear step, told⟩
  | notified place tacit =>
    obtain ⟨rfl, -⟩ := standing.holder place (by simp)
    exact ⟨_, is, standing.notified place, h.notified tacit⟩

end Told

theorem Run.told {history : List Entry} (run : Run profile new history o) :
    ∃ s is, Standing profile.routing o s ∧ Told profile.hasHook history o s is := by
  induction run with
  | start => exact ⟨_, [], standing_new, .start⟩
  | step run made ih =>
    obtain ⟨s, is, standing, told⟩ := ih
    exact told.move standing ((move_of_step made).gist run.standing.1)

/-! ## Who is let in -/

/-- An assignment of `ps` was let in before the shutdown was claimed, and nobody else since. -/
def Begun (history : List Entry) (ps : List TopicPartition) : Prop :=
  ∃ front a middle, history = front ++ a :: middle ∧ (∃ inRuntime, a.act = .assign inRuntime ps) ∧
    a.before.consumer.disposed = false ∧ ∀ e ∈ middle, e.before.rebalance = some ps

theorem Begun.concat {history : List Entry} {ps : List TopicPartition} (h : Begun history ps)
    {e : Entry} (held : e.before.rebalance = some ps) : Begun (history ++ [e]) ps := by
  obtain ⟨front, a, middle, rfl, asked, live, waits⟩ := h
  refine ⟨front, a, middle ++ [e], by simp, asked, live, fun f mem => ?_⟩
  rcases List.mem_append.mp mem with old | new
  · exact waits f old
  · obtain rfl := List.mem_singleton.mp new
    exact held

/-- Whoever carries out an assignment was let in. -/
theorem Run.begun {history : List Entry} {ps : List TopicPartition}
    (run : Run profile new history o) (held : o.rebalance = some ps) : Begun history ps := by
  induction run with
  | start => cases held
  | step run made ih =>
    rename_i history o t env act events
    cases (move_of_step made).gist run.standing.1 with
    | aside aside =>
      rw [aside.rebalance] at held
      exact (ih held).concat held
    | accepted live =>
      cases held
      exact ⟨history, _, [], rfl, ⟨_, rfl⟩, live, by simp⟩
    | reassigned => cases held
    | removal => exact (ih held).concat held
    | shut place clear step =>
      rename_i party r u c
      rw [(alike_setShutdown (o := { o with consumer := c }) u party).2] at held
      exact (ih held).concat held
    | notified place tacit =>
      rename_i party answer
      rw [(alike_setShutdown (o := o) .finishing party).2] at held
      exact (ih held).concat held

/-- A worker that somebody got hold of at some time is not forgotten. -/
theorem Run.employs {history : List Entry} (run : Run profile new history o) {e : Entry}
    (mem : e ∈ history) {i : Nat} (h : e.after.consumer.Employs i) : o.consumer.Employs i := by
  induction run with
  | start => cases mem
  | step run made ih =>
    rcases List.mem_append.mp mem with old | last
    · exact ((move_of_step made).gist run.standing.1).keeps.2.employs (ih old)
    · obtain rfl := List.mem_singleton.mp last
      exact h

/-! ## What the final commits hand to the broker -/

/-- A final commit is made by the call that closes the worker. -/
theorem Entry.of_committed {e : Entry} {i : Nat} (final : .committed i ∈ e.landmarks) :
    ∃ d w, e.before.disposal? e.act = some (i, d) ∧ e.before.consumer.workers[i]? = some w ∧
      ∃ x ∈ e.events, x.commits w.partition = true := by
  rcases List.mem_append.mp final with final | noticed
  · rcases List.mem_append.mp final with final | told
    · unfold finalCommits at final
      split at final
      · cases final
      · next j d call =>
        split at final
        · cases final
        · next w worker =>
          obtain ⟨many, same⟩ := List.mem_replicate.mp final
          cases same
          exact ⟨d, w, call, worker, List.countP_pos_iff.mp (Nat.pos_of_ne_zero many)⟩
    · obtain ⟨x, -, told⟩ := List.mem_filterMap.mp told
      cases x <;> cases told
  · unfold Act.notices at noticed
    split at noticed <;> simp at noticed

/-- If a call that closes a worker goes on with a move, this is all that happens. -/
theorem Gist.disposal {act : Act} {events : List ConsumerEvent} {i : Nat} {d : Disposal}
    (gist : Gist profile env o act t events) (call : o.disposal? act = some (i, d)) :
    events = [] ∨ ∃ w v e es, o.consumer.workers[i]? = some w ∧
      Disposal.Move env ⟨o.consumer.manager, w⟩ d v e es ∧ events = es.map .work := by
  cases gist with
  | aside _ _ nobody => cases nobody.symm.trans call
  | accepted => exact .inl rfl
  | reassigned | notified => cases call
  | removal there worker move =>
    cases there.symm.trans call
    exact .inr ⟨_, _, _, _, worker, move, rfl⟩
  | shut place clear step =>
    rename_i party s u c
    cases s with
    | closingWorker j f rest =>
      obtain ⟨rfl, rfl⟩ : j = i ∧ f = d := by simpa [disposal?, shutdownOf?, place] using call
      cases f with
      | returned | crashed =>
        cases step
        exact .inl rfl
      | _ =>
        simp only [Shutdown.step, bind, Option.bind_eq_some_iff, Prod.exists] at step
        obtain ⟨station, found, v, f, moves, move, step⟩ := step
        cases step
        obtain ⟨w, worker, rfl⟩ := Option.map_eq_some_iff.mp found
        exact .inr ⟨w, v, f, moves, worker, Disposal.move_of_step move, rfl⟩
    | _ => simp [disposal?, shutdownOf?, place] at call

/-- With a final commit, the cached position of the worker's partition goes to the broker. -/
theorem Gist.commit_mem {act : Act} {events : List ConsumerEvent} {i : Nat}
    (gist : Gist profile env o act t events)
    (final : .committed i ∈ Entry.landmarks ⟨o, act, events, t⟩) :
    ∃ w, o.consumer.workers[i]? = some w ∧
      ∀ c, (o.consumer.manager.state w.partition).committed = some c →
        ∃ answered, .work (.call (.commit ⟨w.partition, c⟩) answered) ∈ events := by
  obtain ⟨d, w, call, worker, x, mem, commits⟩ := Entry.of_committed final
  refine ⟨w, worker, fun c cached => ?_⟩
  rcases gist.disposal call with rfl | ⟨w', v, e, es, worker', move, rfl⟩
  · cases mem
  · cases worker.symm.trans worker'
    obtain ⟨event, he, rfl⟩ := List.mem_map.mp mem
    have operation : event = .operation w.partition .commit := by
      cases event with
      | operation q op => cases op <;> simp_all [ConsumerEvent.commits]
      | _ => cases commits
    rw [operation] at he
    obtain ⟨answered, called⟩ := move.commit_mem he cached
    exact ⟨answered, List.mem_map_of_mem called⟩

/-! ## The end of a shutdown -/

/-- A shutdown that was claimed has come to its end. -/
structure Closed (profile : ConsumerProfile) (history : List Entry) (o : Office) : Prop where
  /-- No worker is registered. -/
  registry : o.consumer.registry = []
  /-- Whoever was registered at any time is among the workers. -/
  known : ∀ e ∈ history, ∀ q i, (q, i) ∈ e.after.consumer.registry → ∃ w,
    o.consumer.workers[i]? = some w ∧ Consumer.canSpawn w.settings = true
  /-- Every worker that somebody got hold of has been closed, unless the broker crashed in the call
  that closes it. -/
  workers : ∀ (i : Nat) w, o.consumer.workers[i]? = some w → Consumer.canSpawn w.settings = true →
    w.status = .closed ∨ ∃ e ∈ history, e.Fails i
  /-- The broker was given up once, after the final commit of every worker, and then those were
  notified who want to know, once. -/
  order : ∃ is : List Nat,
    landmarks history = is.map .committed ++ [.unsubscribed, .closed] ++
      (if profile.hasHook then [.notified] else []) ∧
    ∀ (i : Nat) w, o.consumer.workers[i]? = some w → Consumer.canSpawn w.settings = true → i ∈ is

/-- Whoever asks for the shutdown of a consumer, it is carried out once and in order. -/
structure Closes (profile : ConsumerProfile) (history : List Entry) (o : Office) : Prop where
  once : history.countP Entry.claims ≤ 1
  /-- An assignment that begins after the shutdown was claimed changes nothing. -/
  deaf : ∀ e ∈ history, ∀ inRuntime ps, e.act = .assign inRuntime ps →
    e.before.consumer.disposed = true → e.after = e.before
  /-- Whoever registers a worker carries out an assignment that was let in before. -/
  letIn : ∀ front e back, history = front ++ e :: back →
    (∃ q i, (q, i) ∈ e.after.consumer.registry ∧ (q, i) ∉ e.before.consumer.registry) →
      e.act = .reassign ∧ ∃ ps, e.before.rebalance = some ps ∧ Begun front ps
  /-- With the final commit of a worker, the cached position of its partition goes to the broker, if
  there is one. -/
  commits : ∀ e ∈ history, ∀ i, .committed i ∈ e.landmarks →
    ∃ w, e.before.consumer.workers[i]? = some w ∧
      ∀ c, (e.before.consumer.manager.state w.partition).committed = some c →
        ∃ answered, .work (.call (.commit ⟨w.partition, c⟩) answered) ∈ e.events
  finished : (∃ e ∈ history, e.Finishes) → Closed profile history o

/-- When the broker is closed, all workers are in the hands of tasks that are over. -/
theorem Standing.of_hasClosed (h : Standing routing o s) (late : s.hasClosed = true) :
    o.Cleared ∧ o.consumer.Recalls [] ∧ ∃ hand, o.consumer.Housed routing
      (o.consumer.removals ++ hand) ∧ ∀ e ∈ hand, e.2 = .returned := by
  cases h with
  | idle => cases late
  | busy claimed place reached others housed =>
    cases s with
    | notifying | finishing | returned =>
      refine ⟨reached.1, reached.2, _, housed, fun e mem => ?_⟩
      simp only [inHand, Shutdown.hand, List.append_nil, List.mem_map] at mem
      obtain ⟨w, -, rfl⟩ := mem
      rfl
    | _ => cases late
  | concluded claimed calm reached ended housed closed =>
    cases s with
    | returned => exact ⟨reached.1, reached.2, _, housed, closed rfl⟩
    | notifying | finishing => cases ended
    | _ => cases late

/-- A worker that somebody got hold of is in the hands of a task or of the shutdown. If these are
over, it is closed, or its task has crashed. -/
theorem closed_or_crashed {hand : List (Nat × Disposal)} (cleared : o.Cleared)
    (recalls : o.consumer.Recalls [])
    (housed : o.consumer.Housed routing (o.consumer.removals ++ hand))
    (returned : ∀ e ∈ hand, e.2 = .returned) {i : Nat} {w : Worker}
    (worker : o.consumer.workers[i]? = some w) (able : Consumer.canSpawn w.settings = true) :
    w.status = .closed ∨ ∃ text, (i, .crashed text) ∈ o.consumer.removals := by
  have badge : o.consumer.badges[i]? = some w.badge := by
    rw [Consumer.badges_getElem?, worker]
    rfl
  have closed : (i, .returned) ∈ o.consumer.removals ++ hand → w.status = .closed := by
    intro mem
    have status := housed.leaves i .returned mem
    rw [badge] at status
    exact Option.some.inj status
  have leaving := (housed.employed i).mp ⟨w.badge, badge, able⟩
  rw [cleared.registry] at leaving
  obtain ⟨⟨j, d⟩, mem, rfl⟩ := List.mem_map.mp leaving
  rcases List.mem_append.mp mem with task | mine
  · obtain ⟨n, found⟩ := List.getElem?_of_mem task
    cases d with
    | returned => exact .inl (closed mem)
    | crashed text => exact .inr ⟨text, task⟩
    | _ => exact absurd (recalls n j _ found rfl) List.not_mem_nil
  · obtain rfl : d = .returned := returned _ mine
    exact .inl (closed mem)

theorem Standing.employs (h : Standing routing o s) {q : TopicPartition} {i : Nat}
    (mem : (q, i) ∈ o.consumer.registry) : o.consumer.Employs i := by
  obtain ⟨leaving, housed⟩ := h.housed
  have registered : i ∈ o.consumer.registry.map Prod.snd := List.mem_map_of_mem mem
  exact (housed.employed i).mpr (List.mem_append_left _ registered)

theorem Told.closed_of_finished {history : List Entry} {is : List Nat}
    (h : Told profile.hasHook history o .returned is) (run : Run profile new history o)
    (standing : Standing profile.routing o .returned) : Closed profile history o := by
  obtain ⟨cleared, recalls, hand, housed, returned⟩ := standing.of_hasClosed rfl
  have place := fun {i : Nat} {w : Worker} =>
    @closed_or_crashed o _ hand cleared recalls housed returned i w
  constructor
  case registry => exact cleared.registry
  case known =>
    intro e mem q i registered
    obtain ⟨front, back, rfl⟩ := List.append_of_mem mem
    obtain ⟨before, env, move⟩ := run.split
    obtain ⟨entered, s, earlier⟩ := before.standing
    obtain ⟨u, there⟩ := earlier.move (move.gist entered)
    obtain ⟨b, found, able⟩ := run.employs mem (there.employs registered)
    rw [Consumer.badges_getElem?] at found
    obtain ⟨w, worker, rfl⟩ := Option.map_eq_some_iff.mp found
    exact ⟨w, worker, able⟩
  case workers =>
    intro i w worker able
    exact (place worker able).imp_right fun ⟨text, mem⟩ => h.crashed i text mem
  case order =>
    refine ⟨is, by rw [h.order, Shutdown.tail, List.append_assoc], fun i w worker able => ?_⟩
    rcases place worker able with closed | ⟨text, mem⟩
    · refine h.closed i ?_
      rw [Consumer.badges_getElem?, worker]
      exact congrArg some closed
    · exact h.committed i _ (List.mem_append_left _ mem) rfl

theorem run_closes {history : List Entry} (run : Run profile new history o) :
    Closes profile history o := by
  obtain ⟨s, is, standing, told⟩ := run.told
  constructor
  case once =>
    rw [told.once]
    split <;> simp
  case deaf =>
    intro e mem inRuntime ps asked claimed
    obtain ⟨front, back, rfl⟩ := List.append_of_mem mem
    obtain ⟨-, env, move⟩ := run.split
    rw [asked] at move
    generalize e.after = t at move
    generalize e.events = events at move
    cases move with
    | ignored => rfl
    | accepted free live => exact absurd (live.symm.trans claimed) Bool.false_ne_true
  case letIn =>
    rintro front e back rfl ⟨q, i, here, missing⟩
    obtain ⟨before, env, move⟩ := run.split
    rcases ((move.gist before.standing.1).keeps).1 with ⟨ps, carried, held⟩ | registry
    · exact ⟨carried, ps, held, before.begun held⟩
    · exact absurd (registry here) missing
  case commits =>
    intro e mem i final
    obtain ⟨front, back, rfl⟩ := List.append_of_mem mem
    obtain ⟨before, env, move⟩ := run.split
    exact (move.gist before.standing.1).commit_mem final
  case finished =>
    intro finished
    obtain rfl := told.finished finished
    exact told.closed_of_finished run standing

/-- One worker has handled a record, and another one is removed by an assignment, when a call closes
the consumer. The loop comes first, those who are notified fail, and the call and one more
assignment come too late. -/
def closingSchedule : List Act := List.flatten
  [[.start true .done, .assign true [⟨"orders", 0⟩, ⟨"returns", 0⟩], .reassign,
      .goes .loop, .goes .loop, .polled (.ok (some (.record (.bare ⟨"orders", 0⟩ 5))))],
    .replicate 6 (.goes .loop), .replicate 5 (.batch 0), [.handler 0 .handled],
    .replicate 3 (.batch 0), [.assign true [⟨"orders", 0⟩], .reassign, .close],
    .replicate 3 (.goes (.call 0)), .replicate 7 (.goes .loop),
    [.batch 0, .removal 0, .removal 0, .batch 1],
    .replicate 7 (.removal 0), .replicate 20 (.goes .loop),
    [.notified .loop (.error "nobody home"), .goes .loop, .goes (.call 0), .goes (.call 0),
      .assign true [⟨"returns", 0⟩]]]

def closedDown : List Entry × Office :=
  new.play (shop.profile true) (closingSchedule.map fun act => (.calm 0, act))

theorem closedDown_closes : Closes (shop.profile true) closedDown.1 closedDown.2 ∧
    (∃ e ∈ closedDown.1, e.Finishes) ∧
      landmarks closedDown.1 =
        [.committed 1, .committed 0, .unsubscribed, .closed, .notified] ∧
      .work (.call (.commit ⟨⟨"orders", 0⟩, 6⟩) .done) ∈ closedDown.1.flatMap Entry.events := by
  refine ⟨run_closes (run_play (shop.profile true) new _), ?_, ?_, ?_⟩
  · decide +kernel
  · decide +kernel
  · decide +kernel

end Office

end TopicConsumer
