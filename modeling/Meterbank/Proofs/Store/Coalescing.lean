/-
  Meterbank.Proofs.Store.Coalescing — one client of a store behind a window.

  With one client the window rests between calls.  Until the store is
  closed a submit has a window of its own, so it comes to writing its
  folded updates to the database; afterwards it is refused.  Whatever
  else happens to the database between the calls does not matter to the
  window.

  Main results:
    * `submit_serving`, `submit_retired`, `submit_cases` — what a submit does.
    * `dump_rests`, `close_rests` — all else has nothing to write.
    * `perform_keeps` — what calls of the database keep.
    * `Reachable.resting` — nothing is pending between the calls.
-/
import Meterbank.Proofs.Store.Statements
import Meterbank.Proofs.Window.Alone
import Meterbank.Store.Coalesced

namespace Meterbank.CoalescedStore

open Meterbank.Window

variable {s : CoalescedStore}

/-- A window with one delta writes it to the database. -/
theorem flushed_sink (d : Delta) (sql : SqlStore) : flushed sink d sql = sql.writeDelta d := by
  unfold flushed
  by_cases he : d.isEmpty = true
  · rw [if_pos he, SqlStore.writeDelta_empty d sql he]
  · rw [if_neg he]
    rfl

/-! ## Submitting -/

/-- **A submit writes its folded updates to the database.** -/
theorem submit_serving (h : Resting s.window) (ho : s.window.Serving) {us : List Update} {d : Delta}
    (hd : Delta.ofUpdates us = .ok d) :
    ∃ window, s.submit us = ((s.sql.writeDelta d).1, s.after window (s.sql.writeDelta d).2) ∧
      Resting window ∧ window.Serving := by
  obtain ⟨window, hsubmit, hrest⟩ := submitAlone_serving sink h ho d s.sql
  refine ⟨window, ?_, hrest⟩
  unfold submit
  rw [hd]
  simp only [hsubmit, flushed_sink]
  rfl

/-- **After the last window a submit is refused.** -/
theorem submit_retired (h : Resting s.window) (hr : s.window.Retired) {us : List Update} {d : Delta}
    (hd : Delta.ofUpdates us = .ok d) :
    ∃ window, s.submit us = (.error .closed, s.after window s.sql) ∧
      Resting window ∧ window.Retired := by
  obtain ⟨window, hsubmit, hrest⟩ := submitAlone_retired sink h hr d s.sql
  refine ⟨window, ?_, hrest⟩
  unfold submit
  rw [hd]
  simp only [hsubmit]
  rfl

/-- Updates that cannot be folded join no window. -/
theorem submit_unfolded {us : List Update} {e : StoreError} (hd : Delta.ofUpdates us = .error e) :
    s.submit us = (.error e, s) := by
  unfold submit
  rw [hd]

/-- **What a submit can do:** its updates cannot be folded, or they are
written, or the store has been closed. -/
theorem submit_cases (h : Resting s.window) (us : List Update) :
    (∃ e, Delta.ofUpdates us = .error e ∧ s.submit us = (.error e, s)) ∨
      (∃ d window, Delta.ofUpdates us = .ok d ∧ Resting window ∧
        s.submit us = ((s.sql.writeDelta d).1, s.after window (s.sql.writeDelta d).2)) ∨
      ∃ window, Resting window ∧ s.submit us = (.error .closed, s.after window s.sql) := by
  cases hd : Delta.ofUpdates us with
  | error e => exact .inl ⟨e, rfl, submit_unfolded hd⟩
  | ok d =>
    rcases h.still with ho | hr
    · obtain ⟨window, hsubmit, hrest, -⟩ := submit_serving h ho hd
      exact .inr (.inl ⟨d, window, rfl, hrest, hsubmit⟩)
    · obtain ⟨window, hsubmit, hrest, -⟩ := submit_retired h hr hd
      exact .inr (.inr ⟨window, hrest, hsubmit⟩)

/-- A submit leaves a window that rests. -/
theorem submit_resting (h : Resting s.window) (us : List Update) :
    Resting (s.submit us).2.window := by
  rcases submit_cases h us with ⟨e, -, hsubmit⟩ | ⟨d, window, -, hrest, hsubmit⟩ |
    ⟨window, hrest, hsubmit⟩
  · rw [hsubmit]
    exact h
  · rw [hsubmit]
    exact hrest
  · rw [hsubmit]
    exact hrest

/-! ## Calls -/

/-- What submitting and reading back keep, a write of one metric keeps. -/
theorem writeData_keeps {P : CoalescedStore → Prop} (h : P s) (hsubmit : ∀ us, P (s.submit us).2)
    (hread : ∀ {s' : CoalescedStore} keys, P s' → P (s'.onSql (·.readCounters keys)).2)
    (m : Metric) : P (s.writeData m).2 := by
  unfold writeData
  split
  · exact h
  · next u hu =>
    have hsubmitted := hsubmit [u]
    split
    · next hs =>
      rw [hs] at hsubmitted
      exact hsubmitted
    · next s' hs =>
      rw [hs] at hsubmitted
      have hreadBack := hread [u.id] hsubmitted
      split
      · exact hsubmitted
      · split <;> next hs' =>
          rw [hs'] at hreadBack
          exact hreadBack

/-- What submitting keeps, a write of many metrics keeps. -/
theorem writeBatch_keeps {P : CoalescedStore → Prop} (h : P s) (hsubmit : ∀ us, P (s.submit us).2)
    (b : Batch) : P (s.writeBatch b).2 := by
  unfold writeBatch
  split
  · exact h
  · split
    · exact h
    · exact hsubmit _

/-- A dump has nothing to write. -/
theorem dump_rests (h : Resting s.window) :
    Resting s.dump.2.window ∧ (s.window.Serving → s.dump.2.window.Serving) ∧
      s.dump.2.sql = s.sql ∧ (s.dump.1 = .ok () ∨ s.dump.1 = .error .closed) := by
  obtain ⟨hrest, hserving, hsql, hanswer⟩ := flushAlone_rests sink h s.sql
  unfold dump
  generalize flushAlone sink (s.window, s.sql) = r at hrest hserving hsql hanswer ⊢
  exact ⟨hrest, hserving, hsql,
    hanswer.imp (fun ho => congrArg settled ho) fun ho => congrArg settled ho⟩

/-- Closing has nothing to write, either; it closes the database. -/
theorem close_rests (h : Resting s.window) :
    Resting s.close.2.window ∧ s.close.2.sql = s.sql.close.2 ∧ s.close.1 = s.sql.close.1 := by
  obtain ⟨hrest, -, hsql, -⟩ := shutdownAlone_rests sink h s.sql
  unfold close
  generalize shutdownAlone sink (s.window, s.sql) = r at hrest hsql ⊢
  exact ⟨hrest, congrArg (fun sql => sql.close.2) hsql, congrArg (fun sql => sql.close.1) hsql⟩

theorem perform_dump (s : CoalescedStore) : (operations.perform .dump s).2 = s.dump.2 := by
  simp only [Store.perform, Store.wrap, operations]

theorem perform_close (s : CoalescedStore) : (operations.perform .close s).2 = s.close.2 := by
  simp only [Store.perform, Store.wrap, operations]

/-- **Every call leaves a window that rests.**  Only submits, dumps and closing have to do with it. -/
theorem perform_resting (h : Resting s.window) (call : Store.Call) :
    Resting (operations.perform call s).2.window := by
  have hdump : Resting (operations.perform .dump s).2.window := by
    rw [perform_dump]
    exact (dump_rests h).1
  have hclose : Resting (operations.perform .close s).2.window := by
    rw [perform_close]
    exact (close_rests h).1
  have hdata := writeData_keeps (P := fun s => Resting s.window) h (submit_resting h) fun _ h => h
  have hbatch := writeBatch_keeps (P := fun s => Resting s.window) h (submit_resting h)
  exact Store.perform_keeps (P := fun s : CoalescedStore => Resting s.window) h hdata hbatch
    (fun _ => h) (fun _ => h) (fun _ _ => h) (fun _ _ => h) hdump h h hclose call

/-! ## The database -/

section Database

variable {P : SqlStore → Prop}

theorem submit_keeps (hP : SqlStore.Kept P) (hrest : Resting s.window) (h : P s.sql)
    (us : List Update) : P (s.submit us).2.sql := by
  rcases submit_cases hrest us with ⟨e, -, hsubmit⟩ | ⟨d, window, -, -, hsubmit⟩ |
    ⟨window, -, hsubmit⟩
  · rw [hsubmit]
    exact h
  · rw [hsubmit]
    exact hP.delta h d
  · rw [hsubmit]
    exact h

/-- **What is kept by a database, a call of a store behind a window keeps**, if there is one
client. -/
theorem perform_keeps (hP : SqlStore.Kept P) (hrest : Resting s.window) (h : P s.sql)
    (call : Store.Call) : P (operations.perform call s).2.sql := by
  have hdump : P (operations.perform .dump s).2.sql := by
    rw [perform_dump, (dump_rests hrest).2.2.1]
    exact h
  have hclose : P (operations.perform .close s).2.sql := by
    rw [perform_close, (close_rests hrest).2.1]
    exact hP.call h .close
  have hdata := writeData_keeps (P := fun s => P s.sql) h (submit_keeps hP hrest h)
    fun keys h => hP.call h (.readCounters keys)
  have hbatch := writeBatch_keeps (P := fun s => P s.sql) h (submit_keeps hP hrest h)
  exact Store.perform_keeps (P := fun s : CoalescedStore => P s.sql) h hdata hbatch
    (fun keys => hP.call h (.readGauges keys)) (fun keys => hP.call h (.readCounters keys))
    (fun key x => hP.call h (.writeGauge key x)) (fun key delta => hP.call h (.writeCounter key delta))
    hdump h (hP.call h .ping) hclose call

end Database

/-! ## Histories -/

/-- The states that a store can come to with one client: it was created
over some database, was called, and the database was changed by others or
began to fail. -/
inductive Reachable : CoalescedStore → Prop where
  | created {sql : SqlStore} {interval : Nat} {s : CoalescedStore}
      (hs : create sql interval = .ok s) : Reachable s
  | called {s : CoalescedStore} (h : Reachable s) (call : Store.Call) :
      Reachable (operations.perform call s).2
  | disturbed {s : CoalescedStore} (h : Reachable s) (sql : SqlStore) : Reachable { s with sql }

/-- **Nothing is pending between the calls.** -/
theorem Reachable.resting (h : Reachable s) : Resting s.window := by
  induction h with
  | @created sql interval s hs =>
    unfold create at hs
    split at hs
    · exact absurd hs (by simp)
    · rw [← Except.ok.inj hs]
      exact init_resting
  | called _ call ih => exact perform_resting ih call
  -- What others do to the database is no business of the window.
  | disturbed _ sql ih => exact ih

end Meterbank.CoalescedStore
