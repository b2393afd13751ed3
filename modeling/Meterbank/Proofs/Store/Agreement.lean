/-
  Meterbank.Proofs.Store.Agreement — all stores look the same.

  A store over a database mirrors a store in memory if its database keeps
  the same tables, gauges being numbers.  A write of either accepts what
  the other accepts: both fold a batch before they apply it, and both
  refuse a total that would leave its range, one by checking first, the
  other by undoing.  Behind a window each write of one client is flushed
  alone, and the total read back is the one that was reached.

  Main results:
    * `Mirrors.applyDelta` — folded updates have the same effect.
    * `file_sql_alike`, `file_coalesced_alike` — one call keeps stores
      alike.
    * `stores_look_alike` — any history looks the same on three new stores.
-/
import Meterbank.Proofs.Folding
import Meterbank.Proofs.Store.Coalescing
import Meterbank.Proofs.Store.Keeping
import Meterbank.Proofs.Store.Observing
import Meterbank.Store.File

namespace Meterbank

open Meterbank.Sql Meterbank.Window

/-! ## A database beside memory -/

theorem Table.unsigned_setAll (t values : Table Binary64) :
    (t.setAll values).unsigned = t.unsigned.setRows (Relation.storedRows values.toList) := by
  unfold Table.setAll Table.setRows Relation.storedRows
  rw [List.foldl_map]
  induction values.toList generalizing t with
  | nil => rfl
  | cons row rows ih =>
    rw [List.foldl_cons, List.foldl_cons, ih, Table.unsigned_set]

namespace FileStore

/-- A database keeps the tables of a store in memory. -/
def Mirrors (f : FileStore) (s : SqlStore) : Prop := s.Keeps f.gauges.unsigned f.counters

variable {f : FileStore} {s : SqlStore}

/-- **Folded updates have the same effect in memory and in a database**, or
are refused by both. -/
theorem Mirrors.applyDelta (h : f.Mirrors s) {d : Delta} (hd : d.Finite) :
    (∃ f' s', f.applyDelta d = .ok f' ∧ s.writeDelta d = (.ok (), s') ∧ f'.Mirrors s') ∨
    ∃ refusal cause s', f.applyDelta d = .error (.validation refusal) ∧
      s.writeDelta d = (.error (.validation cause), s') ∧ f.Mirrors s' := by
  unfold FileStore.applyDelta
  rcases SqlStore.Keeps.writeDelta h hd.rows with
    ⟨counters, s', hadd, hwrite, hkeeps⟩ | ⟨e, cause, s', hadd, hwrite, hkeeps⟩
  · refine .inl ⟨{ f with counters, gauges := f.gauges.setAll d.gauges }, s', by rw [hadd], hwrite,
      ?_⟩
    show s'.Keeps (f.gauges.setAll d.gauges).unsigned counters
    rw [Table.unsigned_setAll]
    exact hkeeps
  · obtain ⟨key, total, delta, rfl⟩ := Table.addAll_error hadd
    exact .inr ⟨.overflow key total delta, cause, s', by rw [hadd], hwrite, hkeeps⟩

/-- No updates leave a store as it is. -/
theorem applyAll_nil (f : FileStore) : f.applyAll [] = .ok f := by
  show f.applyDelta ⟨∅, ∅⟩ = .ok f
  unfold FileStore.applyDelta
  simp only [Table.addAll_empty, Table.setAll_empty]

/-- What one update leaves behind is what a batch of one leaves, and it is
given back as it is stored. -/
theorem apply_eq (f : FileStore) (u : Update) :
    f.apply u = (f.applyAll [u]).map fun f' =>
      (match u.sample with
        | .gauge x => Metric.gauge u.id x
        | .counter _ => Metric.counter u.id (f'.counters.total u.id), f') := by
  obtain ⟨id, sample⟩ := u
  cases sample with
  | gauge x =>
    unfold FileStore.apply FileStore.applyAll FileStore.applyDelta
    rw [Delta.ofUpdates_gauge]
    simp only [Table.addAll_empty, Table.setAll_single]
    rfl
  | counter delta =>
    unfold FileStore.apply FileStore.applyAll FileStore.applyDelta
    rw [Delta.ofUpdates_counter]
    simp only [Table.addAll_single, Table.setAll_empty]
    cases hadd : f.counters.add id delta with
    | error e => rfl
    | ok p =>
      obtain ⟨total, counters⟩ := p
      have htotal := ((Table.add_ok_iff _ _ _ _ _).1 hadd).2
      have hget : counters.total id = total := by
        rw [htotal, Table.total, Table.get?_set, if_pos rfl, Option.getD_some]
      simp only [Except.map, hget]

end FileStore

open Store in
/-- **A store in memory and one over a database are alike**, as long as the
database keeps the tables of the other. -/
theorem file_sql_alike :
    Alike FileStore.operations SqlStore.operations fun p s => p.1.Mirrors s where
  writeData := by
    intro p s h m
    show Agree _ _ (FileStore.writeData m p) (SqlStore.writeData m s)
    unfold FileStore.writeData SqlStore.writeData
    cases hu : m.validate with
    | error e => exact .refused rfl h
    | ok u =>
      obtain ⟨id, sample⟩ := u
      cases sample with
      | gauge x =>
        obtain ⟨s', hwrite, hkeeps⟩ :=
          SqlStore.Keeps.writeGauge h id (Metric.finite_of_validate hu x rfl)
        simp only [FileStore.apply, hwrite]
        rw [← Table.unsigned_set] at hkeeps
        exact .given rfl hkeeps
      | counter delta =>
        simp only [FileStore.apply, Table.add]
        rcases SqlStore.Keeps.addCounter h id delta with
          ⟨total, s', htotal, hwrite, hkeeps⟩ | ⟨refusal, cause, s', htotal, hwrite, hkeeps⟩
        · simp only [htotal, hwrite]
          exact .given rfl hkeeps
        · simp only [htotal, hwrite]
          exact .refused rfl hkeeps
  writeBatch := by
    intro p s h b
    show Agree _ _ (FileStore.writeBatch b p) (SqlStore.writeBatch b s)
    unfold FileStore.writeBatch SqlStore.writeBatch FileStore.applyAll
    cases hus : b.validate with
    | error e => exact .refused rfl h
    | ok us =>
      simp only
      cases hd : Delta.ofUpdates us with
      | error e => exact .refused rfl h
      | ok d =>
        -- Both stores fold the batch, so both apply the same delta.
        have hfinite := Delta.ofUpdates_finite (Batch.finite_of_validateFrom hus) hd
        rcases FileStore.Mirrors.applyDelta h hfinite with
          ⟨f', s', happly, hwrite, hmirrors⟩ | ⟨refusal, cause, s', happly, hwrite, hmirrors⟩
        · simp only [happly, hwrite]
          exact .given rfl hmirrors
        · simp only [happly, hwrite]
          exact .refused rfl hmirrors
  readGauges := by
    intro p s h keys
    obtain ⟨s', hread, hkeeps⟩ := SqlStore.Keeps.readGauges h keys
    refine ⟨?_, ?_⟩
    · show outline _ (Table.select .gauge p.1.gauges keys) = outline _ (s.readGauges keys).1
      rw [hread, Table.select_unsigned]
    · show p.1.Mirrors (s.readGauges keys).2
      rw [hread]
      exact hkeeps
  readCounters := by
    intro p s h keys
    obtain ⟨s', hread, hkeeps⟩ := SqlStore.Keeps.readCounters h keys
    refine ⟨?_, ?_⟩
    · show outline _ (Table.select .counter p.1.counters keys) = outline _ (s.readCounters keys).1
      rw [hread]
    · show p.1.Mirrors (s.readCounters keys).2
      rw [hread]
      exact hkeeps
  writeGauge := by
    intro p s h key x
    show Agree _ _ (FileStore.replace p ((p.1.gauges.writeGauge key x).map fun gauges =>
      { p.1 with gauges })) (s.writeGauge key x)
    by_cases hx : x.isFinite = true
    · -- A zero is stored without its sign, which makes no difference to a number.
      obtain ⟨s', hwrite, hkeeps⟩ := SqlStore.Keeps.writeGauge h key hx
      rw [(Table.writeGauge_ok_iff _ _ key x).2 ⟨hx, rfl⟩, hwrite]
      rw [← Table.unsigned_set] at hkeeps
      exact .given rfl hkeeps
    · have hcheck : checkGauge x = .error (.validation (.notFinite x)) := if_neg hx
      unfold Table.writeGauge SqlStore.writeGauge
      rw [hcheck]
      exact .refused rfl h
  writeCounter := by
    intro p s h key delta
    show Agree _ _ (FileStore.replace p ((p.1.counters.writeCounter key delta).map fun counters =>
      { p.1 with counters })) (SqlStore.operations.writeCounter key delta s)
    unfold Table.writeCounter Table.add
    simp only [SqlStore.operations]
    rcases SqlStore.Keeps.addCounter h key delta with
      ⟨total, s', htotal, hwrite, hkeeps⟩ | ⟨refusal, cause, s', htotal, hwrite, hkeeps⟩
    · simp only [htotal, hwrite]
      exact .given rfl hkeeps
    · simp only [htotal, hwrite]
      exact .refused rfl hkeeps

/-! ## A window beside memory -/

namespace FileStore

/-- A database keeps the tables of a store in memory, and nothing is
pending in the window before it. -/
structure MirrorsBehind (f : FileStore) (s : CoalescedStore) : Prop where
  sql : f.Mirrors s.sql
  resting : Resting s.window
  serving : s.window.Serving

variable {f : FileStore} {s : CoalescedStore}

/-- **Updates have the same effect in memory and behind a window**, or are
refused by both. -/
theorem MirrorsBehind.submit (h : f.MirrorsBehind s) {us : List Update}
    (hu : ∀ u ∈ us, u.Finite) :
    (∃ f' s', f.applyAll us = .ok f' ∧ s.submit us = (.ok (), s') ∧ f'.MirrorsBehind s') ∨
    ∃ e e' s', f.applyAll us = .error e ∧ s.submit us = (.error e', s') ∧ e.gist = e'.gist ∧
      f.MirrorsBehind s' := by
  unfold FileStore.applyAll
  cases hd : Delta.ofUpdates us with
  | error e => exact .inr ⟨e, e, s, rfl, CoalescedStore.submit_unfolded hd, rfl, h⟩
  | ok d =>
    obtain ⟨window, hsubmit, hrest, hserving⟩ :=
      CoalescedStore.submit_serving h.resting h.serving hd
    rcases h.sql.applyDelta (Delta.ofUpdates_finite hu hd) with
      ⟨f', s', happly, hwrite, hmirrors⟩ | ⟨refusal, cause, s', happly, hwrite, hmirrors⟩
    · rw [hwrite] at hsubmit
      exact .inl ⟨f', _, happly, hsubmit, hmirrors, hrest, hserving⟩
    · rw [hwrite] at hsubmit
      exact .inr ⟨_, _, _, happly, hsubmit, rfl, hmirrors, hrest, hserving⟩

/-- The total of a counter that is there is read back as it is. -/
theorem MirrorsBehind.readBack (h : f.MirrorsBehind s) {id : String}
    (hid : (f.counters.get? id).isSome = true) :
    ∃ found s', s.onSql (·.readCounters [id]) = (.ok found, s') ∧
      found.total id = f.counters.total id ∧ f.MirrorsBehind s' := by
  obtain ⟨sql, hread, hkeeps⟩ := SqlStore.Keeps.readCounters h.sql [id]
  have hget : (f.counters.restrict [id]).get? id = f.counters.get? id := by
    rw [Table.get?_restrict, if_pos (List.mem_singleton.2 rfl)]
  have hselect : Table.select .counter f.counters [id] = .ok (f.counters.restrict [id]) := by
    have hmissing : (f.counters.restrict [id]).firstMissing [id] = none := by
      unfold Table.firstMissing
      rw [List.find?_eq_none]
      intro key hkey
      rw [List.mem_singleton.1 hkey, hget]
      simpa [Option.isSome_iff_ne_none] using hid
    simp [Table.select, Table.ensurePresent, hmissing]
  refine ⟨f.counters.restrict [id], { s with sql }, ?_, ?_, hkeeps, h.resting, h.serving⟩
  · simp only [CoalescedStore.onSql, hread, hselect]
  · rw [Table.total, hget, Table.total]

/-- A counter that has been written is there. -/
theorem applyAll_counter {f' : FileStore} {id : String} {delta : Int64}
    (h : f.applyAll [⟨id, .counter delta⟩] = .ok f') : (f'.counters.get? id).isSome = true := by
  have happly := f.apply_eq ⟨id, .counter delta⟩
  rw [h] at happly
  unfold FileStore.apply at happly
  simp only [Except.map] at happly
  split at happly
  · next total counters hadd =>
    have hf' : { f with counters } = f' := by
      have hpair := Except.ok.inj happly
      exact (Prod.mk.inj hpair).2
    rw [← hf', ((Table.add_ok_iff _ _ _ _ _).1 hadd).2, Table.get?_set, if_pos rfl]
    rfl
  · exact absurd happly (by simp)

end FileStore

open Store in
/-- **A store in memory and one behind a window are alike**, as long as
there is one client. -/
theorem file_coalesced_alike :
    Alike FileStore.operations CoalescedStore.operations fun p s => p.1.MirrorsBehind s where
  writeData := by
    intro p s h m
    show Agree _ _ (FileStore.writeData m p) (CoalescedStore.writeData m s)
    unfold FileStore.writeData CoalescedStore.writeData
    cases hu : m.validate with
    | error e => exact .refused rfl h
    | ok u =>
      have hfinite := Metric.finite_of_validate hu
      simp only
      rw [FileStore.apply_eq]
      have hsingle : ∀ v ∈ [u], v.Finite := by simpa using hfinite
      rcases h.submit hsingle with
        ⟨f', s', happly, hsubmit, hmirrors⟩ | ⟨e, e', s', happly, hsubmit, hgist, hmirrors⟩
      · obtain ⟨id, sample⟩ := u
        -- A gauge is given back as it came, the total of a counter as it is read.
        cases sample with
        | gauge x =>
          simp only [happly, hsubmit, Except.map]
          exact .given rfl hmirrors
        | counter delta =>
          obtain ⟨found, s'', hread, htotal, hmirrors'⟩ :=
            hmirrors.readBack (FileStore.applyAll_counter happly)
          simp only [happly, hsubmit, Except.map, hread, htotal]
          exact .given rfl hmirrors'
      · simp only [happly, hsubmit, Except.map]
        exact .refused hgist hmirrors
  writeBatch := by
    intro p s h b
    show Agree _ _ (FileStore.writeBatch b p) (CoalescedStore.writeBatch b s)
    unfold FileStore.writeBatch CoalescedStore.writeBatch
    cases hus : b.validate with
    | error e => exact .refused rfl h
    | ok us =>
      cases us with
      | nil =>
        -- Nothing joins no window, and in memory leaves all as it is.
        simp only [FileStore.applyAll_nil]
        exact .given rfl h
      | cons u us =>
        simp only [List.isEmpty_cons, Bool.false_eq_true, if_false]
        rcases h.submit (Batch.finite_of_validateFrom hus) with
          ⟨f', s', happly, hsubmit, hmirrors⟩ | ⟨e, e', s', happly, hsubmit, hgist, hmirrors⟩
        · simp only [happly, hsubmit]
          exact .given rfl hmirrors
        · simp only [happly, hsubmit]
          exact .refused hgist hmirrors
  readGauges h keys :=
    have hsql := file_sql_alike.readGauges h.sql keys
    ⟨hsql.1, hsql.2, h.resting, h.serving⟩
  readCounters h keys :=
    have hsql := file_sql_alike.readCounters h.sql keys
    ⟨hsql.1, hsql.2, h.resting, h.serving⟩
  writeGauge h key x :=
    have hsql := file_sql_alike.writeGauge h.sql key x
    ⟨hsql.1, hsql.2, h.resting, h.serving⟩
  writeCounter h key delta :=
    have hsql := file_sql_alike.writeCounter h.sql key delta
    ⟨hsql.1, hsql.2, h.resting, h.serving⟩

/-! ## Histories -/

/-- The rows of a store in memory, as a database would have them. -/
def FileStore.rows (f : FileStore) : Kind → List Row
  | .gauge => f.gauges.toList.map (Relation.rowOf .real)
  | .counter => f.counters.toList.map (Relation.rowOf .integer)

/-- The rows of a store over a database. -/
def SqlStore.rows (s : SqlStore) : Kind → List Row := s.session.database.rows

/-- A database that keeps the tables of a store in memory has its rows. -/
theorem FileStore.Mirrors.rows {f : FileStore} {s : SqlStore} (h : f.Mirrors s) (kind : Kind) :
    ((f.rows kind).map Row.unsigned).Perm ((s.rows kind).map Row.unsigned) := by
  unfold SqlStore.rows
  rw [Database.rows_eq]
  cases kind with
  | gauge =>
    have hperm := h.tables.gauges.rows_perm (Relation.readGauge_reads.injective)
    have hsame : (f.gauges.unsigned.toList.map (Relation.rowOf .real)).map Row.unsigned =
        (f.gauges.toList.map (Relation.rowOf .real)).map Row.unsigned := by
      unfold Table.unsigned
      rw [Std.ExtTreeMap.toList_map, List.map_map, List.map_map, List.map_map]
      congr 1
      funext entry
      simp [Relation.rowOf, Row.unsigned, Binary64.unsignedZero_again]
    rw [FileStore.rows, ← hsame]
    exact (hperm.map Row.unsigned).symm
  | counter =>
    have hperm := h.tables.counters.rows_perm (Relation.readCounter_reads.injective)
    exact (hperm.map Row.unsigned).symm

/-- **Any history of calls looks the same on three new stores**: the same
payloads and the same errors, call by call, and the same rows after each
call.  The databases behave if their connections are faithful. -/
theorem stores_look_alike (path : String) (sync : Bool) (files : Files)
    {connection connection' : Connection} (h : connection.Faithful) (h' : connection'.Faithful)
    {interval : Nat} (hi : interval ≠ 0) {calls : List Store.Call}
    (hc : ∀ call ∈ calls, call.isContract = true) :
    ∃ coalesced, CoalescedStore.create (.create (.start connection' .empty)) interval =
        .ok coalesced ∧
      FileStore.operations.observe (fun p => p.1.rows) calls (.create path sync, files) =
        SqlStore.operations.observe SqlStore.rows calls (.create (.start connection .empty)) ∧
      SqlStore.operations.observe SqlStore.rows calls (.create (.start connection .empty)) =
        CoalescedStore.operations.observe (fun s => s.sql.rows) calls coalesced := by
  have hempty : (∅ : Table Binary64).unsigned = ∅ :=
    Table.ext_get? fun k => by rw [Table.get?_unsigned, Table.get?_empty]; rfl
  have hmirrors : ∀ {c : Connection}, c.Faithful →
      (FileStore.create path sync).Mirrors (.create (.start c .empty)) := by
    intro c hfaithful
    unfold FileStore.Mirrors FileStore.create
    rw [hempty]
    exact SqlStore.create_keeps hfaithful
  -- Memory is the middle: it is alike to a database, and to one behind a window.
  have hsql := file_sql_alike.observe (fun _ _ hR kind => hR.rows kind)
    (s := (FileStore.create path sync, files)) (hmirrors h) hc
  have hwindow := file_coalesced_alike.observe (fun _ _ hR kind => hR.sql.rows kind)
    (s := (FileStore.create path sync, files))
    (t := ⟨.create (.start connection' .empty), .init, interval⟩)
    ⟨hmirrors h', init_resting, init_serving⟩ hc
  exact ⟨_, if_neg hi, hsql, hsql.symm.trans hwindow⟩

/-- A gauge with a negative zero and a counter that is full, on three new
stores. -/
theorem full_counter_looks_alike :
    let calls : List Store.Call := [.writeGauge "g" (.ofParts true 0),
      .writeCounter "c" Int64.maxValue, .writeData (.counter "c" 1), .readGauges [], .readCounters []]
    ∃ coalesced,
      CoalescedStore.create (.create (.start (.toFile "metrics.db" 4) .empty)) 10 = .ok coalesced ∧
      FileStore.operations.observe (fun p => p.1.rows) calls (.create "metrics.json" true, .empty) =
        SqlStore.operations.observe SqlStore.rows calls (.create (.start .inMemory .empty)) ∧
      SqlStore.operations.observe SqlStore.rows calls (.create (.start .inMemory .empty)) =
        CoalescedStore.operations.observe (fun s => s.sql.rows) calls coalesced :=
  stores_look_alike "metrics.json" true .empty Connection.inMemory_faithful
    (Connection.toFile_faithful "metrics.db" 4) (by decide) (by decide)

end Meterbank
