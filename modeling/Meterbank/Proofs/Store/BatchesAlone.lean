/-
  Meterbank.Proofs.Store.BatchesAlone — a client that writes a batch alone.

  A batch that is written when nobody else is there, and a dump, are each
  a run of sections: there is an order of the sections of the client and
  of the flusher in which the client is answered as the whole call is, and
  which leaves the same window and the same database.

  Main results:
    * `writeBatch_alone`, `dump_alone` — whole calls are runs of sections.
-/
import Meterbank.Proofs.Store.Alone
import Meterbank.Proofs.Store.Batching

namespace Meterbank

open Meterbank.Crowd (Waits reaches_away reaches_submit reaches_command)
open Meterbank.Window

/-! ## A flush that comes alone -/

/-- A flush that comes alone is answered. -/
theorem Window.flushAlone_some {σ : Type} {s : Window.State} (sink : Sink σ) (h : Resting s)
    (sinkState : σ) : ∃ outcome, (flushAlone sink (s, sinkState)).1 = some outcome := by
  obtain ⟨-, -, -, hok | hclosed⟩ := flushAlone_rests sink h sinkState
  · exact ⟨_, hok⟩
  · exact ⟨_, hclosed⟩

/-- The outcome of a flush is what its caller has been told. -/
theorem Window.flushAlone_answer {σ : Type} (sink : Sink σ) (p : Window.State × σ) :
    (flushAlone sink p).1 = (flushAlone sink p).2.1.answer? p.1.callers.length := by
  have hid : (arrive p.1 .flush).1 = p.1.callers.length := rfl
  unfold flushAlone
  generalize arrive p.1 .flush = r at hid
  obtain ⟨id, w₁⟩ := r
  simp only at hid ⊢
  rw [hid]

namespace Batching

/-! ## Whole calls -/

/-- Whether a client that comes alone is answered so, and leaves the store
so. -/
def Served (s : CoalescedStore) (request : Request)
    (p : Except StoreError Unit × CoalescedStore) : Prop :=
  ∃ caller, Reaches step ⟨s.window, s.sql, false, []⟩
      ⟨p.2.window, p.2.sql, false, [⟨request, caller, ()⟩]⟩ ∧
    answer? ⟨p.2.window, p.2.sql, false, [⟨request, caller, ()⟩]⟩ ⟨request, caller, ()⟩ = some p.1

variable {s : CoalescedStore}

/-- A client is no more than its caller. -/
theorem waits_always (request : Request) : Waits protocol request () := fun _ _ _ => .inl rfl

/-- A client with nothing to do at the window is answered when it comes. -/
theorem served_away {request : Request} {answer : Except StoreError Unit}
    (hj : protocol.joins? request = none)
    (ha : answer? ⟨s.window, s.sql, false, [⟨request, none, ()⟩]⟩ ⟨request, none, ()⟩ = some answer) :
    Served s request (answer, s) :=
  ⟨none, reaches_away hj, ha⟩

/-- **A batch that is written alone is a run of sections.** -/
theorem writeBatch_alone (h : s.Reachable) (b : Batch) :
    Served s (.writeBatch b) (s.writeBatch b) := by
  have hrefused : ∀ {e : StoreError}, (Request.writeBatch b).task? = .error e →
      Served s (.writeBatch b) (.error e, s) := by
    intro e he
    refine served_away ?_ ?_
    · rw [Crowd.Protocol.joins?, show protocol.task? (.writeBatch b) = .error e from he]
    · rw [answer?, he]
  unfold CoalescedStore.writeBatch
  cases hus : b.validate with
  | error e =>
    exact hrefused (by simp [Request.task?, Clients.Request.task?, Clients.Request.updates, hus])
  | ok us =>
    by_cases hempty : us.isEmpty = true
    · have htask : (Request.writeBatch b).task? = .ok none := by
        simp [Request.task?, Clients.Request.task?, Clients.Request.updates, hus, hempty]
      simp only [if_pos hempty]
      refine served_away ?_ ?_
      · rw [Crowd.Protocol.joins?, show protocol.task? (.writeBatch b) = .ok none from htask]
      · rw [answer?, htask]
    · simp only [if_neg hempty]
      cases hd : Delta.ofUpdates us with
      | error e =>
        rw [CoalescedStore.submit_unfolded hd]
        exact hrefused (by
          simp [Request.task?, Clients.Request.task?, Clients.Request.updates, hus, hempty, hd])
      | ok delta =>
        have htask : (Request.writeBatch b).task? = .ok (some (.submit delta)) := by
          simp [Request.task?, Clients.Request.task?, Clients.Request.updates, hus, hempty, hd]
        have hlead := @reaches_submit _ _ _ protocol _ s.sql _ h.resting
          (waits_always (.writeBatch b)) _ htask
        have htold := Crowd.submitAlone_answer CoalescedStore.sink delta (s.window, s.sql)
        obtain ⟨outcome, hsome⟩ :=
          Crowd.submitAlone_some CoalescedStore.sink h.resting delta s.sql
        unfold CoalescedStore.submit
        rw [hd]
        simp only
        generalize submitAlone CoalescedStore.sink delta (s.window, s.sql) = r at hlead htold hsome
        obtain ⟨answer, w', sql'⟩ := r
        simp only at hlead htold hsome
        subst hsome
        exact ⟨_, hlead, by rw [answer?, htask]; exact htold.symm⟩

/-- **A dump that comes alone is a run of sections.** -/
theorem dump_alone (h : s.Reachable) : Served s .dump s.dump := by
  have hlead : Reaches step ⟨s.window, s.sql, false, []⟩
      ⟨(flushAlone CoalescedStore.sink (s.window, s.sql)).2.1,
        (flushAlone CoalescedStore.sink (s.window, s.sql)).2.2, false,
        [⟨.dump, some s.window.callers.length, ()⟩]⟩ := by
    unfold flushAlone
    generalize harrive : arrive s.window .flush = r
    obtain ⟨id, w'⟩ := r
    exact reaches_command h.resting (waits_always .dump) rfl harrive
  obtain ⟨outcome, hsome⟩ := flushAlone_some CoalescedStore.sink h.resting s.sql
  have htold := flushAlone_answer CoalescedStore.sink (s.window, s.sql)
  unfold CoalescedStore.dump
  generalize flushAlone CoalescedStore.sink (s.window, s.sql) = r at hlead htold hsome
  obtain ⟨answer, w', sql'⟩ := r
  simp only at hlead htold hsome
  subst hsome
  exact ⟨_, hlead, htold.symm⟩

end Batching

end Meterbank
