import TopicConsumer.Proofs.Consumer.Moves
import TopicConsumer.Proofs.Worker.Admission

/-!
# Where records and workers meet

`Consumer.Placed` says that the registry leads to workers of the right partition, that the loop
passes a record on to the worker of its partition and not behind the record that was admitted last,
and that a shutdown beyond its claim has disposed of the consumer. It holds whatever the broker
answers.
-/

namespace TopicConsumer.Consumer

/-- Registry, loop and workers fit together. -/
structure Placed (c : Consumer) : Prop where
  registered : ∀ q i, (q, i) ∈ c.registry → ∃ w, c.workers[i]? = some w ∧ w.partition = q
  passing : ∀ i r call, c.loop = some (.enqueuing i r call) →
    ∃ w, c.workers[i]? = some w ∧ w.partition = r.partition ∧
      (call.Seeks → ∀ l, w.latestQueued = some l → l < r.offset)
  /-- As long as the partition of the record has a worker, this is the one. -/
  sole : ∀ i r call, c.loop = some (.enqueuing i r call) →
    ∀ j, c.workerOf? r.partition = some j → j = i
  claimed : ∀ s, c.loop = some (.shuttingDown s) → s = .claiming ∨ c.disposed = true

namespace Placed

variable {c d : Consumer}

theorem found (h : c.Placed) {q : TopicPartition} {i : Nat} (hi : c.workerOf? q = some i) :
    ∃ w, c.workers[i]? = some w ∧ w.partition = q :=
  h.registered q i (mem_of_lookup hi)

/-- What the others see of a worker is its partition and the record that it admitted last. -/
theorem exists_worker_set {i j : Nat} {v w t : Worker} (hw : c.workers[j]? = some w)
    (hv : c.workers[i]? = some v) (partition : t.partition = w.partition)
    (latest : t.latestQueued = w.latestQueued) :
    ∃ u, (c.workers.set j t)[i]? = some u ∧ u.partition = v.partition ∧
      u.latestQueued = v.latestQueued := by
  by_cases hij : j = i
  · subst hij
    cases hw.symm.trans hv
    exact ⟨t, List.getElem?_set_self (List.getElem?_eq_some_iff.mp hw).1, partition, latest⟩
  · exact ⟨v, (List.getElem?_set_ne hij).trans hv, rfl, rfl⟩

/-- A worker makes a move that admits no record. -/
theorem station (h : c.Placed) {j : Nat} {w : Worker} {t : Station} (hw : c.workers[j]? = some w)
    (partition : t.worker.partition = w.partition)
    (latest : t.worker.latestQueued = w.latestQueued) : (c.setStation j t).Placed where
  registered q i hi := by
    obtain ⟨v, hv, hq⟩ := h.registered q i hi
    obtain ⟨u, hu, same, -⟩ := exists_worker_set hw hv partition latest
    exact ⟨u, hu, same.trans hq⟩
  passing i r call hc := by
    obtain ⟨v, hv, hr, behind⟩ := h.passing i r call hc
    obtain ⟨u, hu, same, last⟩ := exists_worker_set hw hv partition latest
    exact ⟨u, hu, same.trans hr, by rw [last]; exact behind⟩
  sole := h.sole
  claimed := h.claimed

theorem subsided (h : c.Placed) (subsided : Subsided c d) : d.Placed where
  registered q i hi := by
    rcases subsided.registry with same | ⟨empty, -⟩
    · obtain ⟨v, hv, hq⟩ := h.registered q i (same ▸ hi)
      obtain ⟨w, hw, same, -⟩ := subsided.exists_worker hv
      exact ⟨w, hw, same.trans hq⟩
    · rw [empty] at hi
      cases hi
  passing i r call hc := by
    obtain ⟨v, hv, hr, behind⟩ := h.passing i r call (subsided.loop ▸ hc)
    obtain ⟨w, hw, same, last⟩ := subsided.exists_worker hv
    exact ⟨w, hw, same.trans hr, by rw [last]; exact behind⟩
  sole i r call hc j hj := h.sole i r call (subsided.loop ▸ hc) j (subsided.found hj)
  claimed s hs := (h.claimed s (subsided.loop ▸ hs)).imp_right subsided.disposed

theorem reassigned {wanted : TopicPartition → BatchSettings → Prop} (h : c.Placed)
    (polling : c.loop = some .polling) (reassigned : Reassigned wanted c d) : d.Placed where
  registered q i hi := by
    rcases reassigned.registry q i hi with old | ⟨settings, hw⟩
    · obtain ⟨w, hw, hq⟩ := h.registered q i old
      exact ⟨w, reassigned.worker i w hw, hq⟩
    · exact ⟨_, hw, rfl⟩
  passing i r call hc := by
    rw [reassigned.loop, polling] at hc
    cases hc
  sole i r call hc := by
    rw [reassigned.loop, polling] at hc
    cases hc
  claimed s hs := by
    rw [reassigned.loop, polling] at hs
    cases hs

/-- The loop goes on without a record. -/
theorem turn (h : c.Placed) {next : PollLoop} (free : next.Free) :
    Placed { c with loop := some next } where
  registered := h.registered
  passing i r call hc := absurd (Option.some.inj hc) (free.passes i r call)
  sole i r call hc := absurd (Option.some.inj hc) (free.passes i r call)
  claimed s hs := by
    cases hs
    exact .inl free

/-- The loop goes on with a shutdown that has disposed of the consumer. -/
theorem shut (h : c.Placed) (disposed : c.disposed = true) (s : Shutdown) :
    Placed { c with loop := some (.ofShutdown s) } where
  registered := h.registered
  passing i r call hc := by cases s <;> cases hc
  sole i r call hc := by cases s <;> cases hc
  claimed _ _ := .inr disposed

/-- A record of a partition that has a worker is passed on. -/
theorem polled (h : c.Placed) {r : Record} {i : Nat} (found : c.workerOf? r.partition = some i) :
    Placed { c with loop := some (.enqueuing i r .checkingStatus) } where
  registered := h.registered
  passing := by
    rintro _ _ _ ⟨rfl, rfl, rfl⟩
    obtain ⟨w, hw, hq⟩ := h.found found
    exact ⟨w, hw, hq, fun seeks => seeks.elim⟩
  sole := by
    rintro _ _ _ ⟨rfl, rfl, rfl⟩ j hj
    exact Option.some.inj (hj.symm.trans found)
  claimed _ hs := by cases hs

/-- The call that enqueues the record makes a move. -/
theorem intake {env : Surroundings} {i : Nat} {r : Record} {call next : Intake} {w : Worker}
    {s : Station} {events : List Event} (h : c.Placed) (loop : c.loop = some (.enqueuing i r call))
    (hw : c.workers[i]? = some w) (move : Intake.Move env r ⟨c.manager, w⟩ call s next events) :
    Placed { c.setStation i s with loop := some (.enqueuing i r next) } := by
  obtain ⟨_, hw', hr, behind⟩ := h.passing i r call loop
  cases hw.symm.trans hw'
  have partition : s.worker.partition = w.partition := by
    rcases move.worker_eq with ⟨-, -, -, -, worker⟩ | ⟨-, worker⟩ <;> rw [worker]
  have here : (c.workers.set i s.worker)[i]? = some s.worker :=
    List.getElem?_set_self (List.getElem?_eq_some_iff.mp hw).1
  refine ⟨fun q j hj => ?_, ?_, ?_, fun s hs => by cases hs⟩
  · obtain ⟨v, hv, hq⟩ := h.registered q j hj
    by_cases hij : i = j
    · subst hij
      cases hw.symm.trans hv
      exact ⟨s.worker, here, partition.trans hq⟩
    · exact ⟨v, (List.getElem?_set_ne hij).trans hv, hq⟩
  · rintro _ _ _ ⟨rfl, rfl, rfl⟩
    exact ⟨s.worker, here, partition.trans hr, fun seeks => move.seeks behind seeks⟩
  · rintro _ _ _ ⟨rfl, rfl, rfl⟩
    exact h.sole i r call loop

end Placed

end TopicConsumer.Consumer
