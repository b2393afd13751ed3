/-
  Meterbank.Proofs.Store.Failures — a failed write changes nothing.

  A write can be refused by a check, by the fold of its batch, by a total
  that would leave its range, or by the database, at any statement and at
  the commit.  A store in memory checks before it applies; a database
  undoes its transaction; a store behind a window drops the window.  In
  each case the tables hold what they held, and nothing is left pending.

  There is one exception.  A store behind a window that is given a counter
  reads the new total back once the window has been committed.  If that
  fails, the write is answered with an error, although it was applied.

  Main results:
    * `failed_write_keeps_tables` — the three stores, with the exception.
    * `failed_write_applied` — the exception does happen.
-/
import Meterbank.Proofs.Sql.Undoing
import Meterbank.Proofs.Store.Coalescing
import Meterbank.Store.File

namespace Meterbank

open Meterbank.Sql Meterbank.Window

/-- Whether a call writes metrics, or to one of the tables. -/
def Store.Call.isWrite : Store.Call → Bool
  | .writeData _ | .writeBatch _ | .writeGaugeText _ _ | .writeGauge _ _
  | .writeCounterText _ _ | .writeCounter _ _ => true
  | _ => false

theorem Store.failed_of_map {α β : Type} {f : α → β} {answer : Except StoreError α}
    {e : StoreError} (h : answer.map f = .error e) : answer = .error e := by
  cases answer with
  | ok a => exact absurd h (by simp [Except.map])
  | error e' => exact congrArg Except.error (Except.error.inj h)

theorem Store.failed_of_wrap {σ α : Type} {f : α → Payload} {p : Except StoreError α × σ}
    {e : StoreError} (h : (Store.wrap f p).1 = .error e) : p.1 = .error e :=
  Store.failed_of_map h

/-- A gauge in text is written as a value, or not at all. -/
theorem Store.writeGaugeText_cases {σ : Type} (S : Store σ) (key raw : String) (s : σ) :
    (∃ x, S.writeGaugeText key raw s = S.writeGauge key x s) ∨
      ∃ e, S.writeGaugeText key raw s = (.error e, s) := by
  unfold Store.writeGaugeText
  cases parseGauge raw with
  | ok x => exact .inl ⟨x, rfl⟩
  | error e => exact .inr ⟨e, rfl⟩

/-- A delta in text is added as a delta, or not at all. -/
theorem Store.writeCounterText_cases {σ : Type} (S : Store σ) (key raw : String) (s : σ) :
    (∃ delta, S.writeCounterText key raw s = S.writeCounter key delta s) ∨
      ∃ e, S.writeCounterText key raw s = (.error e, s) := by
  unfold Store.writeCounterText
  cases parseCounter raw with
  | ok delta => exact .inl ⟨delta, rfl⟩
  | error e => exact .inr ⟨e, rfl⟩

/-- If writes of metrics, batches and numbers leave something as it is when
they fail, so do all writes. -/
theorem Store.perform_error_of {σ : Type} {S : Store σ} {s : σ} {e : StoreError} {call : Store.Call}
    (same : σ → Prop) (hrefl : same s)
    (hdata : ∀ m, call = .writeData m → (S.writeData m s).1 = .error e → same (S.writeData m s).2)
    (hbatch : ∀ b, (S.writeBatch b s).1 = .error e → same (S.writeBatch b s).2)
    (hgauge : ∀ key x, (S.writeGauge key x s).1 = .error e → same (S.writeGauge key x s).2)
    (hcounter : ∀ key delta, (S.writeCounter key delta s).1 = .error e →
      same (S.writeCounter key delta s).2)
    (hw : call.isWrite = true) (h : (S.perform call s).1 = .error e) :
    same (S.perform call s).2 := by
  cases call with
  | writeData m => exact hdata m rfl (Store.failed_of_wrap h)
  | writeBatch b => exact hbatch b (Store.failed_of_wrap h)
  | writeGauge key x => exact hgauge key x (Store.failed_of_wrap h)
  | writeCounter key delta => exact hcounter key delta (Store.failed_of_wrap h)
  | writeGaugeText key raw =>
    rw [Store.perform] at h ⊢
    have h' := Store.failed_of_wrap h
    simp only [Store.wrap]
    -- A text that cannot be parsed does not get to the store.
    rcases S.writeGaugeText_cases key raw s with ⟨x, hx⟩ | ⟨e', he⟩
    · rw [hx] at h' ⊢
      exact hgauge key x h'
    · rw [he]
      exact hrefl
  | writeCounterText key raw =>
    rw [Store.perform] at h ⊢
    have h' := Store.failed_of_wrap h
    simp only [Store.wrap]
    rcases S.writeCounterText_cases key raw s with ⟨delta, hd⟩ | ⟨e', he⟩
    · rw [hd] at h' ⊢
      exact hcounter key delta h'
    · rw [he]
      exact hrefl
  | _ => exact absurd hw (by simp [Store.Call.isWrite])

/-! ## In memory -/

namespace FileStore

theorem writeData_error {m : Metric} {p : State} {e : StoreError}
    (h : (writeData m p).1 = .error e) : (writeData m p).2 = p := by
  unfold writeData at h ⊢
  split
  · rfl
  · next u hu =>
    simp only [hu] at h
    split
    · rfl
    · next written s hs =>
      simp only [hs] at h
      exact absurd h (by simp)

theorem writeBatch_error {b : Batch} {p : State} {e : StoreError}
    (h : (writeBatch b p).1 = .error e) : (writeBatch b p).2 = p := by
  unfold writeBatch at h ⊢
  split
  · rfl
  · next us hus =>
    simp only [hus] at h
    split
    · rfl
    · next s hs =>
      simp only [hs] at h
      exact absurd h (by simp)

theorem replace_error {p : State} {result : Except StoreError FileStore} {e : StoreError}
    (h : (replace p result).1 = .error e) : (replace p result).2 = p := by
  cases result with
  | ok s => exact absurd h (by simp [replace])
  | error e' => rfl

/-- **A failed write leaves tables and files as they were.** -/
theorem perform_error {call : Store.Call} (hw : call.isWrite = true) {p : State} {e : StoreError}
    (h : (operations.perform call p).1 = .error e) : (operations.perform call p).2 = p := by
  refine Store.perform_error_of (fun p' => p' = p) rfl ?_ ?_ ?_ ?_ hw h
  · exact fun _ _ h => writeData_error h
  · exact fun _ h => writeBatch_error h
  · exact fun _ _ h => replace_error h
  · exact fun _ _ h => replace_error h

end FileStore

/-! ## In a database -/

namespace SqlStore

/-- The rows that are there, and those that each connection sees. -/
def seen (s : SqlStore) : List (List Row × List Row) := s.session.seen

theorem write_error {α : Type} {kinds : List Kind} {statement : Access → Statement α}
    (hs : Statement.UndoneOnError statement) {s : SqlStore} {e : StoreError}
    (h : (s.write kinds statement).1 = .error e) : (s.write kinds statement).2.seen = s.seen :=
  Session.onWriter_seen (writing_keepsRows kinds hs) s.session ⟨e, h⟩

/-- Whatever a store runs to write leaves the rows as they were if it fails. -/
theorem undone (s : SqlStore) : Rule (fun p => ∀ e, p.1 = .error e → p.2.seen = s.seen) s where
  refused _ _ _ := rfl
  nothing _ _ := rfl
  upsert key x _ _ h := write_error (upsert_error key x) h
  accumulate key delta _ h := write_error (accumulate_error key delta) h
  delta _ _ h := write_error (deltaStatement_error _) h
  mapped _ h e he := h e (Store.failed_of_map he)

/-- **Folded updates that are not applied leave the rows as they were**,
whichever statement or commit fails. -/
theorem writeDelta_error {d : Delta} {s : SqlStore} {e : StoreError}
    (h : (s.writeDelta d).1 = .error e) : (s.writeDelta d).2.seen = s.seen :=
  s.undone.writeDelta d e h

/-- **A failed write leaves the rows as they were**, in every state of the
database and of its connections. -/
theorem perform_error {call : Store.Call} (hw : call.isWrite = true) {s : SqlStore}
    {e : StoreError} (h : (operations.perform call s).1 = .error e) :
    (operations.perform call s).2.seen = s.seen := by
  refine Store.perform_error_of (fun s' => s'.seen = s.seen) rfl ?_ ?_ ?_ ?_ hw h
  · exact fun m _ => s.undone.writeData m e
  · exact fun b => s.undone.writeBatch b e
  · exact fun key x => s.undone.writeGauge key x e
  · exact fun key delta => s.undone.writeCounter key delta e

/-- Reading leaves the rows as they were, also where it makes sure of a
table first. -/
theorem readCounters_seen (keys : List String) (s : SqlStore) :
    (s.readCounters keys).2.seen = s.seen := by
  have hread : (s.read .counter fun access => Statement.selectCounters access keys).2.seen =
      s.seen := by
    refine read_keeps (P := fun s' => s'.seen = s.seen) rfl ?_ ?_
    · intro s' hs
      rw [← hs]
      exact Session.onWriter_seen (ensure_keepsRows .counter) s'.session trivial
    · intro s' hs
      rw [← hs]
      exact Session.onReader_seen (reading_keepsRows .counter Relation.readCounter keys) s'.session
        trivial
  exact demand_keeps (P := fun s' => s'.seen = s.seen) hread

end SqlStore

/-! ## Behind a window -/

namespace CoalescedStore

/-- The database after the flush of a counter, if the call writes one and
its window is committed.  What is left to do is to read the total back. -/
def committedCounter? (s : CoalescedStore) : Store.Call → Option SqlStore
  | .writeData m =>
    match m.validate with
    | .error _ => none
    | .ok u =>
      match u.sample, s.submit [u] with
      | .counter _, (.ok _, s') => some s'.sql
      | _, _ => none
  | _ => none

/-- A submit that fails leaves the rows as they were. -/
theorem submit_error {s : CoalescedStore} (h : Resting s.window) {us : List Update}
    {e : StoreError} (he : (s.submit us).1 = .error e) :
    (s.submit us).2.sql.seen = s.sql.seen := by
  rcases submit_cases h us with ⟨e', -, hsubmit⟩ | ⟨d, window, -, -, hsubmit⟩ |
    ⟨window, -, hsubmit⟩
  · rw [hsubmit]
  · -- The window was dropped, and its transaction undone.
    rw [hsubmit] at he ⊢
    exact SqlStore.writeDelta_error he
  · -- The database is not reached any more.
    rw [hsubmit]
    rfl

/-- A submit that succeeds has written its folded updates. -/
theorem submit_ok {s : CoalescedStore} (h : Resting s.window) {us : List Update}
    (hok : (s.submit us).1 = .ok ()) :
    ∃ d, Delta.ofUpdates us = .ok d ∧ s.sql.writeDelta d = (.ok (), (s.submit us).2.sql) := by
  rcases submit_cases h us with ⟨e, -, hsubmit⟩ | ⟨d, window, hd, -, hsubmit⟩ |
    ⟨window, -, hsubmit⟩
  · rw [hsubmit] at hok
    exact absurd hok (by simp)
  · rw [hsubmit] at hok ⊢
    exact ⟨d, hd, Prod.ext hok rfl⟩
  · rw [hsubmit] at hok
    exact absurd hok (by simp)

/-- A write of one metric that fails leaves the rows as they were, or as
they were after its flush, if that was committed. -/
theorem writeData_error {s : CoalescedStore} (h : Resting s.window) {m : Metric} {e : StoreError}
    (he : (s.writeData m).1 = .error e) :
    (s.committedCounter? (.writeData m) = none → (s.writeData m).2.sql.seen = s.sql.seen) ∧
      ∀ sql, s.committedCounter? (.writeData m) = some sql →
        (s.writeData m).2.sql.seen = sql.seen ∧
          ∃ u d, m.validate = .ok u ∧ Delta.ofUpdates [u] = .ok d ∧
            s.sql.writeDelta d = (.ok (), sql) ∧ (sql.readCounters [u.id]).1 = .error e := by
  cases hu : m.validate with
  | error e' => simp [writeData, committedCounter?, hu]
  | ok u =>
    have hfail := fun e' => @submit_error s h [u] e'
    have hok := @submit_ok s h [u]
    simp only [writeData, committedCounter?, hu] at he ⊢
    generalize s.submit [u] = r at he hfail hok
    obtain ⟨answer, s'⟩ := r
    cases answer with
    | error e' =>
      have hseen := hfail e' rfl
      cases u.sample <;> simp [hseen]
    | ok _ =>
      obtain ⟨d, hd, hwrite⟩ := hok rfl
      cases hs : u.sample with
      | gauge x =>
        simp only [hs] at he
        exact absurd he (by simp)
      | counter delta =>
        -- The flush was committed, so the error is that of reading back.
        have hread := SqlStore.readCounters_seen [u.id] s'.sql
        simp only [hs, onSql] at he ⊢
        generalize hq : s'.sql.readCounters [u.id] = q at he hread ⊢
        obtain ⟨found, sql'⟩ := q
        cases found with
        | ok t => exact absurd he (by simp)
        | error e' =>
          have hee : e' = e := by simpa using he
          refine ⟨by simp, ?_⟩
          intro sql hsql
          have hsql' : s'.sql = sql := by simpa using hsql
          subst hsql'
          refine ⟨hread, u, d, rfl, hd, hwrite, ?_⟩
          rw [hq, hee]

theorem writeBatch_error {s : CoalescedStore} (h : Resting s.window) {b : Batch} {e : StoreError}
    (he : (s.writeBatch b).1 = .error e) : (s.writeBatch b).2.sql.seen = s.sql.seen := by
  unfold writeBatch at he ⊢
  split
  · rfl
  · next us hus =>
    simp only [hus] at he
    split
    · rfl
    · next hne =>
      rw [if_neg hne] at he
      exact submit_error h he

/-- Any other write that fails leaves the rows as they were. -/
theorem perform_error {s : CoalescedStore} (h : Resting s.window) {call : Store.Call}
    (hw : call.isWrite = true) (hd : ∀ m, call ≠ .writeData m) {e : StoreError}
    (he : (operations.perform call s).1 = .error e) :
    (operations.perform call s).2.sql.seen = s.sql.seen := by
  refine Store.perform_error_of (fun s' => s'.sql.seen = s.sql.seen) rfl ?_ ?_ ?_ ?_ hw he
  · exact fun m hm _ => absurd hm (hd m)
  · exact fun _ he => writeBatch_error h he
  · exact fun key x => s.sql.undone.writeGauge key x e
  · exact fun key delta => s.sql.undone.writeCounter key delta e

end CoalescedStore

/-! ## All stores -/

/-- **A failed write changes nothing, in any state of any store.**  Tables
and files are as they were, also if a statement or the commit of a batch
fails, and nothing is left pending behind a window.  The exception are
counters written through a window: if the flush was committed and the
total cannot be read back, the tables are those after the flush. -/
theorem failed_write_keeps_tables (call : Store.Call) (hw : call.isWrite = true) (e : StoreError) :
    (∀ p : FileStore.State, (FileStore.operations.perform call p).1 = .error e →
      (FileStore.operations.perform call p).2 = p) ∧
    (∀ s : SqlStore, (SqlStore.operations.perform call s).1 = .error e →
      (SqlStore.operations.perform call s).2.seen = s.seen) ∧
    (∀ (d : Delta) (s : SqlStore), (s.writeDelta d).1 = .error e →
      (s.writeDelta d).2.seen = s.seen) ∧
    ∀ s : CoalescedStore, s.Reachable → (CoalescedStore.operations.perform call s).1 = .error e →
      Resting (CoalescedStore.operations.perform call s).2.window ∧
      (s.committedCounter? call = none →
        (CoalescedStore.operations.perform call s).2.sql.seen = s.sql.seen) ∧
      ∀ sql, s.committedCounter? call = some sql →
        (CoalescedStore.operations.perform call s).2.sql.seen = sql.seen ∧
          ∃ m u d, call = .writeData m ∧ m.validate = .ok u ∧ Delta.ofUpdates [u] = .ok d ∧
            s.sql.writeDelta d = (.ok (), sql) ∧ (sql.readCounters [u.id]).1 = .error e := by
  refine ⟨fun p hp => FileStore.perform_error hw hp, fun s hs => SqlStore.perform_error hw hs,
    fun d s hs => SqlStore.writeDelta_error hs, ?_⟩
  intro s hreach he
  have h := hreach.resting
  refine ⟨CoalescedStore.perform_resting h call, ?_⟩
  -- Only a write of one metric reads anything back.
  by_cases hm : ∃ m, call = .writeData m
  · obtain ⟨m, rfl⟩ := hm
    obtain ⟨hnone, hsome⟩ := CoalescedStore.writeData_error h (Store.failed_of_wrap he)
    refine ⟨hnone, fun sql hsql => ?_⟩
    obtain ⟨hseen, u, d, hrest⟩ := hsome sql hsql
    exact ⟨hseen, m, u, d, rfl, hrest⟩
  · have hother : ∀ m, call ≠ .writeData m := fun m hc => hm ⟨m, hc⟩
    refine ⟨fun _ => CoalescedStore.perform_error h hw hother he, fun sql hsql => ?_⟩
    cases call with
    | writeData m => exact absurd rfl (hother m)
    | _ => exact absurd hsql (by simp [CoalescedStore.committedCounter?])

/-- A counter that is at the end of its range refuses to grow. -/
theorem full_counter_keeps_table :
    let p : FileStore.State := (⟨∅, (∅ : Table Int64).set "c" Int64.maxValue, "metrics", false⟩, .empty)
    (FileStore.operations.perform (.writeCounter "c" 1) p).1 =
        .error (.validation (.overflow "c" Int64.maxValue 1)) ∧
      (FileStore.operations.perform (.writeCounter "c" 1) p).2 = p :=
  ⟨rfl, (failed_write_keeps_tables (.writeCounter "c" 1) rfl _).1 _ rfl⟩

/-- A store whose reading connection has a database of its own, as some
names of databases in memory give it. -/
def apart : CoalescedStore :=
  ⟨.create (.start ⟨some "file::memory:", .free, [{ Link.free with own := some .empty }], 0, none,
    false⟩ .empty), .init, 10⟩

/-- **A write that was answered with an error can have been applied**: the
window was committed, and the total could not be read back. -/
theorem failed_write_applied :
    apart.Reachable ∧
      (CoalescedStore.operations.perform (.writeData (.counter "c" 1)) apart).1 =
        .error (.sql (.noSuchTable "counters")) ∧
      (CoalescedStore.operations.perform (.writeData (.counter "c" 1)) apart).2.sql.seen ≠
        apart.sql.seen := by
  refine ⟨@CoalescedStore.Reachable.created apart.sql 10 apart rfl, rfl, ?_⟩
  decide

end Meterbank
