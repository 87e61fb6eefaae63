import TopicConsumer.Proofs.Worker.Frame
import TopicConsumer.Proofs.Worker.Worksite

/-!
# From admission to batches

Records are admitted with increasing offsets, and the batches that are formed are, one after the
other, the records that were admitted, in the order of their admission. `Worksite.Lined settings h
w` says so of a worksite `w` with the history `h`, together with what has to be known of the call
under way: that its record was compared with the committed position, and that it lies behind the
record admitted last.

Neither other users of the state manager nor a cancellation disturbs this order.
-/

namespace TopicConsumer

/-! ## Places in a history -/

/-- The call under way has compared the record with the committed position and found that it does
not lie before it. -/
def Compared (history : List Moment) (r : Record) : Prop :=
  ∃ before c after, history = before ++ .compared r c :: after ∧
    (∀ q, .called q ∉ after) ∧ ∀ n, c = some n → n ≤ r.offset

theorem Compared.append {h added : List Moment} {r : Record} (compared : Compared h r)
    (same : ∀ q, .called q ∉ added) : Compared (h ++ added) r := by
  obtain ⟨before, c, after, rfl, none, current⟩ := compared
  refine ⟨before, c, after ++ added, by simp, fun q hq => ?_, current⟩
  rcases List.mem_append.mp hq with hq | hq
  · exact none q hq
  · exact same q hq

/-- Nothing of this is an admission, the end of a batch's forming or the beginning of a call. -/
def Neutral (moments : List Moment) : Prop :=
  ∀ m ∈ moments, m.admitted? = none ∧ m.formed? = none ∧ ∀ r, m ≠ .called r

namespace Neutral

theorem map_event (events : List Event) : Neutral (events.map .event) := by
  intro m hm
  obtain ⟨e, -, rfl⟩ := List.mem_map.mp hm
  exact ⟨rfl, rfl, by simp⟩

theorem append {k l : List Moment} (hk : Neutral k) (hl : Neutral l) : Neutral (k ++ l) := by
  intro m hm
  rcases List.mem_append.mp hm with hm | hm
  · exact hk m hm
  · exact hl m hm

theorem ofEnding (b : List Record) (ending : Batcher.Ending) :
    Neutral (Moment.ofEnding b ending) := by
  intro m hm
  cases ending <;> simp [Moment.ofEnding] at hm
  subst hm
  exact ⟨rfl, rfl, by simp⟩

theorem ofIntake {r : Record} {s : Station} {i j : Intake}
    (unadmitted : i = .admitting → ∃ e, j = .returned (.error e)) :
    Neutral (Moment.ofIntake r s i j) := by
  intro m hm
  cases i with
  | checkingCommitted =>
    rw [List.mem_singleton.mp hm]
    exact ⟨rfl, rfl, by simp⟩
  | admitting =>
    obtain ⟨e, rfl⟩ := unadmitted rfl
    cases hm
  | _ => cases hm

variable {moments : List Moment}

theorem admittedIn_eq (h : Neutral moments) : admittedIn moments = [] :=
  List.filterMap_eq_nil_iff.mpr fun m hm => (h m hm).1

theorem formedIn_eq (h : Neutral moments) : formedIn moments = [] :=
  List.filterMap_eq_nil_iff.mpr fun m hm => (h m hm).2.1

theorem called_notMem (h : Neutral moments) (r : Record) : .called r ∉ moments :=
  fun hr => (h _ hr).2.2 r rfl

theorem admitted_notMem (h : Neutral moments) (r : Record) (latest : Option Offset) :
    .admitted r latest ∉ moments :=
  fun hr => by cases (h _ hr).1

end Neutral

/-! ## Records that wait to be put into a batch -/

/-- The batch that is being collected. -/
def Batcher.gathered : Batcher → List Record
  | .collecting b _ => b
  | _ => []

/-- The records that were admitted and are in no complete batch yet. -/
def Worker.unbatched (w : Worker) : List Record := w.batcher.gathered ++ w.queue

/-- The batcher completes the batch that it collects, or no batch at all. If it goes on, no record
is lost meanwhile. -/
theorem Batcher.Move.unbatched {env : Surroundings} {s t : Station} {events : List Event}
    (h : Batcher.Move env s t events) :
    (∃ b deadline, s.worker.batcher = .collecting b deadline ∧ t.worker.batcher = .checking b 0 ∧
        t.worker.queue = s.worker.queue) ∨
      Neutral (Moment.ofBatcher s.worker.batcher t.worker.batcher) ∧
        (t.worker.batcher.hasEnded = false →
          s.worker.batcher.hasEnded = false ∧ t.worker.unbatched = s.worker.unbatched) := by
  cases h with
  | formed collecting => exact .inl ⟨_, _, collecting, rfl, rfl⟩
  | finish idle => simp [idle, Worker.endTask, Moment.ofBatcher, Neutral, hasEnded]
  | opened idle live queue =>
    simp [idle, queue, Moment.ofBatcher, Neutral, hasEnded, Worker.unbatched, gathered]
  | overflowed idle => simp [idle, Worker.endTask, Moment.ofBatcher, Neutral, hasEnded]
  | taken collecting small live queue =>
    simp [collecting, queue, Moment.ofBatcher, Neutral, hasEnded, Worker.unbatched, gathered]
  | checked phase | compared phase | handed phase | woken phase | released phase | stored phase
  | resumed phase =>
    simp [phase, Moment.ofBatcher, Neutral, hasEnded, Worker.unbatched, gathered]
  | skipped comparing =>
    simp [comparing, Worker.dropBatch, Moment.ofBatcher, Neutral, Moment.admitted?, Moment.formed?,
      hasEnded, Worker.unbatched, gathered]
  | givenUp trying =>
    rcases trying with phase | phase | phase | ⟨wake, phase⟩ <;>
      simp [phase, Worker.dropBatch, Moment.ofBatcher, Neutral, hasEnded, Worker.unbatched,
        gathered]
  | crashed operating =>
    rcases operating with ⟨last, phase, -⟩ | ⟨phase, -⟩ <;>
      simp [phase, Batcher.crash, Worker.endTask, Moment.ofBatcher, Neutral, hasEnded]

/-- The end of a handler completes no batch and begins none. -/
theorem Batcher.Ends.unbatched {env : Surroundings} {ending : Batcher.Ending} {s t : Station}
    {events : List Event} (h : Batcher.Ends env s ending t events) :
    (t.worker.batcher.hasEnded = false →
        s.worker.batcher.hasEnded = false ∧ t.worker.unbatched = s.worker.unbatched) ∧
      ∀ b deadline, t.worker.batcher ≠ .collecting b deadline := by
  cases h with
  | handled handling | failed handling =>
    simp [handling, hasEnded, Worker.unbatched, gathered]
  | crashed => simp [Batcher.crash, Worker.endTask, hasEnded]

/-- A batch that is being collected has between one record and the greatest number. -/
theorem Batcher.Move.gathered {env : Surroundings} {s t : Station} {events : List Event}
    (h : Batcher.Move env s t events) (least : 1 ≤ s.worker.settings.batchSize) :
    ∀ b deadline, t.worker.batcher = .collecting b deadline →
      b.length ≤ s.worker.settings.batchSize := by
  intro b deadline hb
  cases h with
  | opened => cases hb; exact least
  | taken collecting more =>
    cases hb
    rw [List.length_append]
    exact more
  | _ => cases hb

/-! ## The order of admission -/

/-- The call has compared its record with the committed position. -/
def Intake.HasCompared : Intake → Prop
  | .checkingQueued | .acquiring _ | .waiting _ _ | .admitting => True
  | _ => False

/-- The call has found its record behind the one admitted last and seeks a permit or has one. -/
def Intake.Seeks : Intake → Prop
  | .acquiring _ | .waiting _ _ | .admitting => True
  | _ => False

/-- The record behind the one admitted last is only ever admitted by the call under way. -/
theorem Intake.Move.seeks {env : Surroundings} {r : Record} {s t : Station} {i j : Intake}
    {events : List Event} (h : Intake.Move env r s i t j events)
    (behind : i.Seeks → ∀ l, s.worker.latestQueued = some l → l < r.offset) (seeks : j.Seeks) :
    ∀ l, t.worker.latestQueued = some l → l < r.offset := by
  cases h with
  | fresh fresh => exact fresh
  | acquired | delayed | woken => exact behind trivial
  | _ => exact seeks.elim

namespace Worksite

/-- The records of the worker are in order, and the record that a call is about to admit comes
behind them. -/
structure Ordered (w : Worksite) : Prop where
  worker : w.station.worker.Ordered
  behind : ∀ r i, w.call = some (r, i) → i.Seeks →
    ∀ l, w.station.worker.latestQueued = some l → l < r.offset

namespace Ordered

variable {w t : Worksite} {moments : List Moment}

theorem spawned (env : Surroundings) (m : Manager) (p : TopicPartition) (settings : BatchSettings) :
    (spawned env m p settings).Ordered where
  worker := by rw [spawned_worker]; exact Worker.Ordered.fresh p settings
  behind := by simp

theorem move {env : Surroundings} {act : Act} (ordered : w.Ordered)
    (move : Move env w act t moments) : t.Ordered := by
  cases move with
  | enqueue r free => exact ⟨ordered.worker, by rintro _ _ ⟨rfl, rfl⟩ seeks; exact seeks.elim⟩
  | @intake r i j s events call move =>
    refine ⟨ordered.worker.intake_move move ?_, ?_⟩
    · rintro rfl
      exact ordered.behind r _ call trivial
    · rintro _ _ ⟨rfl, rfl⟩ seeks
      exact move.seeks (ordered.behind r i call) seeks
  | batch move =>
    refine ⟨ordered.worker.batcher_move move, ?_⟩
    rw [move.worker_eq]
    exact ordered.behind
  | handler ends =>
    refine ⟨ordered.worker.handler_ends ends, ?_⟩
    rw [ends.worker_eq]
    exact ordered.behind
  | disposal call move =>
    refine ⟨ordered.worker.disposal_move move, ?_⟩
    rw [move.worker_eq.1]
    exact ordered.behind
  | cancel =>
    exact ⟨⟨ordered.worker.increasing, ordered.worker.le_latest, ordered.worker.filled⟩,
      ordered.behind⟩
  | dispose | elsewhere => exact ⟨ordered.worker, ordered.behind⟩

/-- In every run the records of the worker stay in order. -/
theorem of_run {allowed : Surroundings → Act → Prop} {env : Surroundings} {m : Manager}
    {p : TopicPartition} {settings : BatchSettings} {history : List Moment}
    (run : Run allowed (Worksite.spawned env m p settings) history w) : w.Ordered :=
  run.invariant (fun _ w => w.Ordered) (spawned env m p settings) fun ordered _ step =>
    ordered.move step

end Ordered

end Worksite

/-! ## The records of a history -/

/-- A call that goes on beyond the comparison has made it before, or makes it now. -/
theorem Intake.Move.compared {env : Surroundings} {r : Record} {s t : Station} {i j : Intake}
    {events : List Event} (h : Intake.Move env r s i t j events) (past : j.HasCompared)
    (history : List Moment) :
    i.HasCompared ∨ Compared (history ++ (events.map .event ++ Moment.ofIntake r s i j)) r := by
  cases h with
  | current current => exact .inr ⟨history, s.committed, [], rfl, by simp, current⟩
  | fresh | acquired | delayed | woken => exact .inl trivial
  | _ => exact past.elim

namespace Worksite

/-- The records of a worksite are in line. -/
structure Lined (settings : BatchSettings) (h : List Moment) (w : Worksite) : Prop where
  settings_eq : w.station.worker.settings = settings
  /-- The offset that the worker remembers is that of the record admitted last. -/
  latest : w.station.worker.latestQueued = (admittedIn h).getLast?.map Record.offset
  increasing : (admittedIn h).Pairwise fun a b => a.offset < b.offset
  /-- The records of the batches come first, then those that wait, unless the batch task has ended
  and left some of them. -/
  split : ∃ rest, admittedIn h = (formedIn h).flatten ++ rest ∧
    (w.station.worker.batcher.hasEnded = false → rest = w.station.worker.unbatched)
  gathered : ∀ b deadline, w.station.worker.batcher = .collecting b deadline →
    b.length ≤ settings.batchSize
  sizes : ∀ b ∈ formedIn h, 1 ≤ b.length ∧ b.length ≤ settings.batchSize
  compared : ∀ r i, w.call = some (r, i) → i.HasCompared → Compared h r
  admissions : ∀ before r latest after, h = before ++ .admitted r latest :: after →
    (∀ l, latest = some l → l < r.offset) ∧ Compared before r

namespace Lined

variable {settings : BatchSettings} {h moments : List Moment} {w t : Worksite}

theorem spawned (env : Surroundings) (m : Manager) (p : TopicPartition) :
    Lined settings [] (spawned env m p settings) where
  settings_eq := by simp [Worker.fresh]
  latest := by simp [Worker.fresh]
  increasing := by simp
  split := ⟨[], by simp [Worker.fresh, Worker.unbatched, Batcher.gathered]⟩
  gathered := by simp [Worker.fresh]
  sizes := by simp
  compared := by simp
  admissions := by simp

/-- An admission that is in the history stays as it was. -/
theorem admissions_append (lined : Lined settings h w)
    (new : ∀ r latest, .admitted r latest ∉ moments) :
    ∀ before r latest after, h ++ moments = before ++ .admitted r latest :: after →
      (∀ l, latest = some l → l < r.offset) ∧ Compared before r := by
  intro before r latest after e
  rcases append_eq_append_cons e with ⟨between, e, -⟩ | ⟨between, -, e⟩
  · exact lined.admissions before r latest between e
  · exact absurd (e ▸ List.mem_append_right _ List.mem_cons_self) (new r latest)

/-- What touches neither the records that wait nor the call keeps everything in line. -/
theorem neutral (lined : Lined settings h w) (neutral : Neutral moments)
    (same : t.station.worker.settings = w.station.worker.settings)
    (latest : t.station.worker.latestQueued = w.station.worker.latestQueued)
    (unbatched : t.station.worker.batcher.hasEnded = false →
      w.station.worker.batcher.hasEnded = false ∧
        t.station.worker.unbatched = w.station.worker.unbatched)
    (gathered : ∀ b deadline, t.station.worker.batcher = .collecting b deadline →
      b.length ≤ settings.batchSize)
    (call : t.call = w.call) : Lined settings (h ++ moments) t where
  settings_eq := same.trans lined.settings_eq
  latest := by rw [latest, lined.latest, admittedIn_append, neutral.admittedIn_eq, List.append_nil]
  increasing := by
    rw [admittedIn_append, neutral.admittedIn_eq, List.append_nil]
    exact lined.increasing
  split := by
    obtain ⟨rest, e, live⟩ := lined.split
    refine ⟨rest, ?_, fun alive => ?_⟩
    · rw [admittedIn_append, neutral.admittedIn_eq, formedIn_append, neutral.formedIn_eq,
        List.append_nil, List.append_nil, e]
    · obtain ⟨alive, heq⟩ := unbatched alive
      rw [heq, live alive]
  gathered := gathered
  sizes := by
    rw [formedIn_append, neutral.formedIn_eq, List.append_nil]
    exact lined.sizes
  compared r i hc past := (lined.compared r i (call ▸ hc) past).append neutral.called_notMem
  admissions := lined.admissions_append neutral.admitted_notMem

/-- The batcher completes a batch. -/
theorem form {b : List Record} {deadline : Nat} {s : Station} {events : List Event}
    (lined : Lined settings h w) (nonempty : b ≠ [])
    (collecting : w.station.worker.batcher = .collecting b deadline)
    (worker : s.worker = { w.station.worker with
      permits := s.worker.permits, batcher := .checking b 0 }) :
    Lined settings (h ++ (events.map .event ++ [.formed b])) { w with station := s } := by
  have none : admittedIn (events.map .event ++ [.formed b]) = [] := by
    rw [admittedIn_append, admittedIn_map_event]
    rfl
  have one : formedIn (events.map .event ++ [.formed b]) = [b] := by
    rw [formedIn_append, formedIn_map_event]
    rfl
  have called : ∀ q, .called q ∉ events.map Moment.event ++ [.formed b] := by simp
  have admitted : ∀ r latest, .admitted r latest ∉ events.map Moment.event ++ [.formed b] := by simp
  exact
    { settings_eq := by rw [worker]; exact lined.settings_eq
      latest := by rw [worker, admittedIn_append, none, List.append_nil]; exact lined.latest
      increasing := by rw [admittedIn_append, none, List.append_nil]; exact lined.increasing
      split := by
        obtain ⟨rest, e, live⟩ := lined.split
        refine ⟨w.station.worker.queue, ?_, fun _ => ?_⟩
        · rw [admittedIn_append, none, formedIn_append, one, List.append_nil, e,
            live (by simp [collecting, Batcher.hasEnded])]
          simp [Worker.unbatched, collecting, Batcher.gathered]
        · rw [worker]
          rfl
      gathered := by rw [worker]; simp
      sizes := by
        rw [formedIn_append, one]
        intro c hc
        rcases List.mem_append.mp hc with hc | hc
        · exact lined.sizes c hc
        · rw [List.mem_singleton.mp hc]
          exact ⟨List.length_pos_iff.mpr nonempty, lined.gathered b deadline collecting⟩
      compared := fun r i hc past => (lined.compared r i hc past).append called
      admissions := lined.admissions_append admitted }

/-- A call that enqueues a record goes on and does not put it into the queue. -/
theorem intake {r : Record} {i j : Intake} {s : Station} (lined : Lined settings h w)
    (call : w.call = some (r, i)) (neutral : Neutral moments)
    (worker : s.worker = { w.station.worker with permits := s.worker.permits })
    (compared : j.HasCompared → i.HasCompared ∨ Compared (h ++ moments) r) :
    Lined settings (h ++ moments) { w with station := s, call := some (r, j) } := by
  have base := lined.neutral (t := { w with station := s }) neutral (by rw [worker])
    (by rw [worker]) (by rw [worker]; exact fun alive => ⟨alive, rfl⟩)
    (by rw [worker]; exact lined.gathered) rfl
  refine { base with compared := ?_ }
  rintro _ _ ⟨rfl, rfl⟩ past
  rcases compared past with past | done
  · exact (lined.compared r i call past).append neutral.called_notMem
  · exact done

/-- The record of the call is put into the queue. -/
theorem admission {r : Record} {s : Station} {line : LogLine} (lined : Lined settings h w)
    (call : w.call = some (r, .admitting)) (alive : w.station.worker.batcher.hasEnded = false)
    (behind : ∀ l, w.station.worker.latestQueued = some l → l < r.offset)
    (worker : s.worker = { w.station.worker with
      queue := w.station.worker.queue ++ [r], latestQueued := some r.offset }) :
    Lined settings
      (h ++ [.event (.log line), .admitted r w.station.worker.latestQueued])
      { w with station := s, call := some (r, .returned (.ok ())) } := by
  have compared := lined.compared r _ call trivial
  have one : admittedIn [.event (.log line), .admitted r w.station.worker.latestQueued] = [r] := rfl
  have none : formedIn [.event (.log line), .admitted r w.station.worker.latestQueued] = [] := rfl
  have lt : ∀ a ∈ admittedIn h, a.offset < r.offset := by
    intro a ha
    rcases List.eq_nil_or_concat (admittedIn h) with hnil | ⟨front, last, hlast⟩
    · rw [hnil] at ha
      cases ha
    · rw [List.concat_eq_append] at hlast
      have latest := lined.latest
      have increasing := lined.increasing
      rw [hlast] at ha latest increasing
      have hl : last.offset < r.offset := behind last.offset (by rw [latest]; simp)
      rcases List.mem_append.mp ha with ha | ha
      · exact Int.lt_trans
          ((List.pairwise_append.mp increasing).2.2 a ha last (List.mem_singleton_self _)) hl
      · rw [List.mem_singleton.mp ha]
        exact hl
  exact
    { settings_eq := by rw [worker]; exact lined.settings_eq
      latest := by rw [worker, admittedIn_append, one]; simp
      increasing := by
        rw [admittedIn_append, one, List.pairwise_append]
        exact ⟨lined.increasing, List.pairwise_singleton _ _, by simpa using lt⟩
      split := by
        obtain ⟨rest, e, live⟩ := lined.split
        refine ⟨rest ++ [r], ?_, fun _ => ?_⟩
        · rw [admittedIn_append, one, formedIn_append, none, List.append_nil, e, List.append_assoc]
        · rw [worker, live alive]
          simp [Worker.unbatched]
      gathered := by rw [worker]; exact lined.gathered
      sizes := by rw [formedIn_append, none, List.append_nil]; exact lined.sizes
      compared := by rintro _ _ ⟨rfl, rfl⟩ past; exact past.elim
      admissions := by
        intro before q latest after e
        rcases append_eq_append_cons e with ⟨between, e, -⟩ | ⟨between, rfl, added⟩
        · exact lined.admissions before q latest between e
        · rcases between with - | ⟨first, between⟩
          · cases added
          · obtain ⟨rfl, added⟩ := List.cons.inj added
            rcases between with - | ⟨second, between⟩
            · cases added
              exact ⟨behind, compared.append (by simp)⟩
            · cases between <;> cases added }

/-- Every move keeps the records in line. -/
theorem move {env : Surroundings} {act : Act} (lined : Lined settings h w) (ordered : w.Ordered)
    (least : 1 ≤ settings.batchSize) (move : Move env w act t moments) :
    Lined settings (h ++ moments) t := by
  cases move with
  | enqueue r free =>
    have noneAdmitted : admittedIn [.called r] = [] := rfl
    have noneFormed : formedIn [.called r] = [] := rfl
    exact
      { lined with
        latest := by rw [admittedIn_append, noneAdmitted, List.append_nil]; exact lined.latest
        increasing := by
          rw [admittedIn_append, noneAdmitted, List.append_nil]
          exact lined.increasing
        split := by
          obtain ⟨rest, e, live⟩ := lined.split
          refine ⟨rest, ?_, live⟩
          rw [admittedIn_append, noneAdmitted, formedIn_append, noneFormed, List.append_nil,
            List.append_nil, e]
        sizes := by rw [formedIn_append, noneFormed, List.append_nil]; exact lined.sizes
        compared := by rintro _ _ ⟨rfl, rfl⟩ past; exact past.elim
        admissions := lined.admissions_append (by simp) }
  | @intake r i j s events call move =>
    rcases move.worker_eq with ⟨rfl, rfl, -, alive, worker⟩ | ⟨unadmitted, worker⟩
    · cases move with
      | admitted accepting alive line =>
        exact lined.admission call alive (ordered.behind r _ call trivial) worker
    · have neutral : Neutral (events.map .event ++ Moment.ofIntake r w.station i j) :=
        (Neutral.map_event _).append (Neutral.ofIntake unadmitted)
      exact lined.intake call neutral worker fun past => move.compared past h
  | @batch s events move =>
    have same := move.worker_eq
    rcases move.unbatched with ⟨b, deadline, collecting, checking, queue⟩ | ⟨neutral, unbatched⟩
    · rw [collecting, checking]
      have nonempty : b ≠ [] := by simpa [Batcher.Filled, collecting] using ordered.worker.filled
      refine lined.form nonempty collecting ?_
      rw [same, queue, checking]
    · exact lined.neutral ((Neutral.map_event _).append neutral) (by rw [same]) (by rw [same])
        unbatched
        (by
          rw [← lined.settings_eq] at least ⊢
          exact move.gathered least) rfl
  | @handler ending s events ends =>
    have same := ends.worker_eq
    obtain ⟨unbatched, gathered⟩ := ends.unbatched
    refine lined.neutral ((Neutral.ofEnding _ _).append (Neutral.map_event _)) (by rw [same])
      (by rw [same]) unbatched (fun b deadline hb => ?_) rfl
    exact absurd hb (gathered b deadline)
  | dispose => simpa using { lined with }
  | @disposal n d e s events call move =>
    obtain ⟨same, -, -⟩ := move.worker_eq
    exact lined.neutral (Neutral.map_event _) (by rw [same]) (by rw [same])
      (by rw [same]; exact fun alive => ⟨alive, rfl⟩) (by rw [same]; exact lined.gathered) rfl
  | cancel => simpa using { lined with }
  | elsewhere p op =>
    exact lined.neutral (Neutral.map_event _) rfl rfl (fun alive => ⟨alive, rfl⟩) lined.gathered rfl

/-- In every run the records stay in line. -/
theorem of_run {allowed : Surroundings → Act → Prop} {env : Surroundings} {m : Manager}
    {p : TopicPartition} {history : List Moment}
    (run : Run allowed (Worksite.spawned env m p settings) history w)
    (least : 1 ≤ settings.batchSize) : Lined settings history w :=
  (run.invariant (fun history w => w.Ordered ∧ Lined settings history w)
    ⟨Ordered.spawned env m p settings, spawned env m p⟩
    fun both _ step => ⟨both.1.move step, both.2.move both.1 least step⟩).2

end Lined

end Worksite

end TopicConsumer
