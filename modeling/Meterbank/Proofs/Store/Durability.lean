/-
  Meterbank.Proofs.Store.Durability — what lies in the file of a store that
  dumps after every write.

  Metrics and batches are dumped as soon as they are applied.  The writes
  to one table do not pass by the dump, so the file stays as it is until a
  metric, a batch or a dump comes next.  So the file holds the tables as
  they were after the last call that dumps, and a store that is dropped
  after a write to one table loses what that write has changed.

  Main results:
    * `Attended.dumped` — a call that dumps leaves the tables in the file.
    * `perform_quiet` — no other call touches the files.
    * `saved_after_calls` — so the file shows the tables exactly if nothing
      has changed since the last call that dumps.
-/
import Meterbank.Proofs.Store.Snapshots

namespace Meterbank

open Meterbank.Number

/-! ## Batches that list the tables -/

/-- Whether a batch lists the tables of a store: every entry of theirs once, and nothing else. -/
structure Batch.Lists (b : Batch) (s : FileStore) : Prop where
  gauge : ∀ k x, Metric.gauge k x ∈ b.metrics ↔ s.gauges.get? k = some x
  counter : ∀ k n, Metric.counter k n ∈ b.metrics ↔ s.counters.get? k = some n
  only : ∀ m ∈ b.metrics, (∃ k x, m = .gauge k x) ∨ ∃ k n, m = .counter k n
  once : b.metrics.Nodup

/-- A batch lists one pair of tables only. -/
theorem Batch.Lists.unique {b : Batch} {s t : FileStore} (hs : b.Lists s) (ht : b.Lists t) :
    s.gauges = t.gauges ∧ s.counters = t.counters := by
  constructor
  · refine Table.ext_get? fun k => Option.ext fun x => ?_
    rw [← hs.gauge, ← ht.gauge]
  · refine Table.ext_get? fun k => Option.ext fun n => ?_
    rw [← hs.counter, ← ht.counter]

namespace FileStore

variable {s t : FileStore} {p : State} {path : String}

/-- The snapshot of a store lists its tables. -/
theorem lists_snapshot (s : FileStore) : s.snapshot.Lists s where
  gauge k x := by
    rw [mem_snapshot]
    constructor
    · rintro (⟨k', x', hk, heq⟩ | ⟨k', n, -, heq⟩)
      · simp only [Metric.gauge, Metric.mk.injEq, Option.some.injEq] at heq
        rwa [heq.1, heq.2.2.2]
      · exact absurd heq (Metric.gauge_ne_counter k k' x n)
    · exact fun hk => Or.inl ⟨k, x, hk, rfl⟩
  counter k n := by
    rw [mem_snapshot]
    constructor
    · rintro (⟨k', x, -, heq⟩ | ⟨k', n', hk, heq⟩)
      · exact absurd heq.symm (Metric.gauge_ne_counter k' k x n)
      · simp only [Metric.counter, Metric.mk.injEq, Option.some.injEq] at heq
        rwa [heq.1, heq.2.2.1]
    · exact fun hk => Or.inr ⟨k, n, hk, rfl⟩
  only m hm := by
    rcases mem_snapshot.1 hm with ⟨k, x, -, rfl⟩ | ⟨k, n, -, rfl⟩
    · exact Or.inl ⟨k, x, rfl⟩
    · exact Or.inr ⟨k, n, rfl⟩
  once := by
    have hids : ∀ {α : Type} (table : Table α) (metric : String → α → Metric),
        (∀ k v, (metric k v).id = k) →
          (table.toList.map fun row => metric row.1 row.2).Nodup := by
      intro α table metric hid
      have hnames : (table.toList.map fun row => metric row.1 row.2).map Metric.id =
          table.toList.map Prod.fst := by
        rw [List.map_map]
        exact List.map_congr_left fun row _ => hid row.1 row.2
      exact List.Nodup.of_map Metric.id (hnames ▸ table.nodup_names)
    refine List.Nodup.append (hids _ _ fun _ _ => rfl) (hids _ _ fun _ _ => rfl) ?_
    intro m hgauge hcounter
    obtain ⟨row, -, rfl⟩ := List.mem_map.1 hgauge
    obtain ⟨row', -, heq⟩ := List.mem_map.1 hcounter
    exact Metric.gauge_ne_counter _ _ _ _ heq.symm

/-! ## What a file shows -/

/-- Whether the file at a path is decoded to the tables of a store. -/
def Shown (fs : Files) (path : String) (s : FileStore) : Prop :=
  ∃ content b, fs.read path = .ok content ∧ Batch.decode content = .ok b ∧ b.Lists s

/-- Whether the file of a store is decoded to its tables. -/
def Saved (p : State) : Prop := Shown p.2 p.1.path p.1

theorem Shown.of_read {fs : Files} (hs : s.Finite)
    (hread : fs.read path = .ok s.snapshotBytes) : Shown fs path s :=
  ⟨s.snapshotBytes, s.snapshot, hread, decode_snapshotBytes hs, s.lists_snapshot⟩

/-- A file that shows one store shows those with the same tables, and no others. -/
theorem Shown.iff {fs : Files} (hs : Shown fs path s) :
    Shown fs path t ↔ t.gauges = s.gauges ∧ t.counters = s.counters := by
  obtain ⟨content, b, hread, hdecode, hlists⟩ := hs
  constructor
  · rintro ⟨content', b', hread', hdecode', hlists'⟩
    rw [hread, Except.ok.injEq] at hread'
    subst hread'
    rw [hdecode, Except.ok.injEq] at hdecode'
    subst hdecode'
    exact hlists'.unique hlists
  · rintro ⟨hgauges, hcounters⟩
    refine ⟨content, b, hread, hdecode, ?_, ?_, hlists.only, hlists.once⟩
    · rw [hgauges]
      exact hlists.gauge
    · rw [hcounters]
      exact hlists.counter

/-! ## One call -/

/-- The calls that dump once they have succeeded, in a store that dumps after every write. -/
def dumps : Store.Call → Bool
  | .writeData _ | .writeBatch _ | .dump => true
  | _ => false

/-- A dump that can be written leaves the snapshot in the file. -/
theorem dump_writable {fs : Files} (h : fs.Writable s.path) :
    ∃ fs', s.dump fs = .ok fs' ∧ fs'.read s.path = .ok s.snapshotBytes ∧ fs'.Writable s.path := by
  obtain ⟨fs', hwrite⟩ := h s.snapshotBytes
  refine ⟨fs', ?_, Files.read_write fs fs' s.path _ hwrite, Files.writable_of_write hwrite⟩
  unfold dump
  rw [hwrite]

theorem afterWrite_writable {fs : Files} (hsync : s.sync = true) (h : fs.Writable s.path) :
    (s.afterWrite fs).read s.path = .ok s.snapshotBytes ∧ (s.afterWrite fs).Writable s.path := by
  obtain ⟨fs', hdump, hread, hwritable⟩ := dump_writable h
  unfold afterWrite
  rw [if_pos hsync, hdump]
  exact ⟨hread, hwritable⟩

/-- Whether two stores are for the same file, and dump as often. -/
def Alike (s t : FileStore) : Prop := t.path = s.path ∧ t.sync = s.sync

theorem apply_alike {u : Update} {m : Metric} (h : s.apply u = .ok (m, t)) : s.Alike t := by
  unfold apply at h
  split at h
  · rw [← (Prod.mk.inj (Except.ok.inj h)).2]
    exact ⟨rfl, rfl⟩
  · split at h
    · rw [← (Prod.mk.inj (Except.ok.inj h)).2]
      exact ⟨rfl, rfl⟩
    · exact absurd h (by simp)

theorem applyAll_alike {us : List Update} (h : s.applyAll us = .ok t) : s.Alike t := by
  unfold applyAll applyDelta at h
  split at h
  · split at h
    · rw [← Except.ok.inj h]
      exact ⟨rfl, rfl⟩
    · exact absurd h (by simp)
  · exact absurd h (by simp)

theorem loadFrom_alike {fs : Files} (h : s.loadFrom fs = .ok t) : s.Alike t := by
  unfold loadFrom loadBytes at h
  split at h
  · exact absurd h (by simp)
  · split at h
    · exact absurd h (by simp)
    · split at h
      · exact absurd h (by simp)
      · exact applyAll_alike h

/-- What a call does besides changing the tables: either it leaves the files alone, and it
does not dump or has failed, or it has succeeded and dumps. -/
inductive Touches (call : Store.Call) (p : State) : Except StoreError Store.Payload × State → Prop
  | nothing {answer : Except StoreError Store.Payload} {s : FileStore} (halike : p.1.Alike s)
      (hquiet : dumps call = true → answer.isOk = false) : Touches call p (answer, s, p.2)
  | written {a : Store.Payload} {s : FileStore} (halike : p.1.Alike s)
      (hdumps : dumps call = true) : Touches call p (.ok a, s, s.afterWrite p.2)
  | dumped {a : Store.Payload} {fs : Files} (hdumps : dumps call = true)
      (hfs : p.1.dump p.2 = .ok fs) : Touches call p (.ok a, p.1, fs)

theorem touches_replace {call : Store.Call} (hquiet : dumps call = false)
    {r : Except StoreError FileStore} (hr : ∀ s, r = .ok s → p.1.Alike s) :
    Touches call p (Store.wrap (fun _ => .nothing) (replace p r)) := by
  have hnot : ∀ {answer : Except StoreError Store.Payload}, dumps call = true → answer.isOk = false :=
    fun h => absurd h (by simp [hquiet])
  cases r with
  | ok s => exact .nothing (hr s rfl) hnot
  | error e => exact .nothing ⟨rfl, rfl⟩ hnot

/-- A write to one table replaces that table only. -/
theorem touches_map {call : Store.Call} (hquiet : dumps call = false) {α : Type}
    (r : Except StoreError (Table α)) {f : Table α → FileStore} (hf : ∀ t, p.1.Alike (f t)) :
    Touches call p (Store.wrap (fun _ => .nothing) (replace p (r.map f))) := by
  refine touches_replace hquiet fun s hs => ?_
  cases r with
  | ok t => exact Except.ok.inj hs ▸ hf t
  | error e => exact absurd hs (by simp [Except.map])

theorem touches_perform (call : Store.Call) (p : State) :
    Touches call p (operations.perform call p) := by
  have hidle : ∀ (answer : Except StoreError Store.Payload), dumps call = false →
      Touches call p (answer, p) :=
    fun answer hquiet => .nothing ⟨rfl, rfl⟩ fun h => absurd h (by simp [hquiet])
  have hfailed : ∀ e : StoreError, Touches call p (.error e, p) :=
    fun e => .nothing ⟨rfl, rfl⟩ fun _ => rfl
  cases call with
  | writeData m =>
    show Touches _ p (Store.wrap .metric (writeData m p))
    unfold writeData
    split
    · exact hfailed _
    · split
      · exact hfailed _
      · next written s hs => exact .written (apply_alike hs) rfl
  | writeBatch b =>
    show Touches _ p (Store.wrap (fun _ => .nothing) (writeBatch b p))
    unfold writeBatch
    split
    · exact hfailed _
    · split
      · exact hfailed _
      · next s hs => exact .written (applyAll_alike hs) rfl
  | readData q =>
    have hstate : (operations.readData q p).2 = p :=
      Store.readData_keeps (P := (· = p)) rfl (fun _ => rfl) (fun _ => rfl) q
    show Touches _ p (Store.wrap .metric (operations.readData q p))
    rw [Store.wrap, hstate]
    exact hidle _ rfl
  | readGauges keys | readCounters keys | ping | close => exact hidle _ rfl
  | writeGaugeText key raw =>
    show Touches _ p (Store.wrap (fun _ => .nothing) (operations.writeGaugeText key raw p))
    unfold Store.writeGaugeText
    split
    · exact touches_map rfl _ fun _ => ⟨rfl, rfl⟩
    · exact hfailed _
  | writeGauge key x => exact touches_map rfl _ fun _ => ⟨rfl, rfl⟩
  | writeCounterText key raw =>
    show Touches _ p (Store.wrap (fun _ => .nothing) (operations.writeCounterText key raw p))
    unfold Store.writeCounterText
    split
    · exact touches_map rfl _ fun _ => ⟨rfl, rfl⟩
    · exact hfailed _
  | writeCounter key delta => exact touches_map rfl _ fun _ => ⟨rfl, rfl⟩
  | dump =>
    show Touches _ p (Store.wrap (fun _ => .nothing) (operations.dump p))
    simp only [operations]
    cases hd : p.1.dump p.2 with
    | ok fs => exact .dumped rfl hd
    | error e => exact hfailed _
  | load => exact touches_replace rfl fun s hs => loadFrom_alike hs

/-- **Calls that do not dump, and calls that fail, leave the files alone.** -/
theorem perform_quiet {call : Store.Call}
    (hquiet : (dumps call && (operations.perform call p).1.isOk) = false) :
    (operations.perform call p).2.2 = p.2 := by
  have htouches := touches_perform call p
  generalize operations.perform call p = after at htouches hquiet ⊢
  cases htouches with
  | nothing => rfl
  | written _ hdumps => exact absurd hquiet (by simp [hdumps, Except.isOk, Except.toBool])
  | dumped hdumps => exact absurd hquiet (by simp [hdumps, Except.isOk, Except.toBool])

/-! ## Stores that dump after every write -/

/-- A store that dumps after every write, for a file that can be written. -/
structure Attended (path : String) (p : State) : Prop where
  sound : p.1.Sound path
  sync : p.1.sync = true
  writable : p.2.Writable path

/-- A new store is one, if its file can be written. -/
theorem Attended.created {fs : Files} (hfs : fs.Writable path) :
    Attended path (create path true, fs) where
  sound := ⟨fun k x hx => absurd hx (by simp [create]), rfl⟩
  sync := rfl
  writable := hfs

/-- Every call leaves a store for the same file. -/
theorem perform_alike (call : Store.Call) (p : State) :
    p.1.Alike (operations.perform call p).2.1 := by
  have htouches := touches_perform call p
  generalize operations.perform call p = after at htouches ⊢
  cases htouches with
  | nothing halike => exact halike
  | written halike => exact halike
  | dumped => exact ⟨rfl, rfl⟩

/-- The file of a store can be written after every call, if it could be before. -/
theorem perform_writable (h : p.1.Sound path) (hw : p.2.Writable path) (call : Store.Call) :
    (operations.perform call p).2.2.Writable path := by
  have hpath := (h.perform call).path
  have htouches := touches_perform call p
  generalize operations.perform call p = after at htouches hpath ⊢
  cases htouches with
  | nothing => exact hw
  | @written a s =>
    by_cases hsync : s.sync = true
    · rw [← hpath] at hw ⊢
      exact (afterWrite_writable hsync hw).2
    · show (s.afterWrite p.2).Writable path
      rw [afterWrite, if_neg hsync]
      exact hw
  | dumped _ hfs =>
    rw [← h.path] at hw ⊢
    obtain ⟨fs', hdump, -, hagain⟩ := dump_writable hw
    rw [hdump, Except.ok.injEq] at hfs
    exact hfs ▸ hagain

theorem Attended.perform (h : Attended path p) (call : Store.Call) :
    Attended path (operations.perform call p).2 where
  sound := h.sound.perform call
  sync := (perform_alike call p).2.trans h.sync
  writable := perform_writable h.sound h.writable call

/-- **A call that dumps leaves the tables in the file**, if it succeeds. -/
theorem Attended.dumped (h : Attended path p) (call : Store.Call) (hdumps : dumps call = true)
    (hok : (operations.perform call p).1.isOk = true) :
    (operations.perform call p).2.2.read path =
      .ok (operations.perform call p).2.1.snapshotBytes := by
  have hsound := h.sound.perform call
  have hpath := h.sound.path
  have hwritable := h.writable
  have htouches := touches_perform call p
  generalize operations.perform call p = after at htouches hsound hok ⊢
  cases htouches with
  | nothing _ hquiet => exact absurd hok (by simp [hquiet hdumps])
  | @written a s halike =>
    have hsync := halike.2.trans h.sync
    rw [← hsound.path] at hwritable ⊢
    exact (afterWrite_writable hsync hwritable).1
  | dumped _ hfs =>
    rw [← hpath] at hwritable ⊢
    obtain ⟨fs', hdump, hread, -⟩ := dump_writable hwritable
    rw [hdump, Except.ok.injEq] at hfs
    exact hfs ▸ hread

/-! ## Any number of calls -/

/-- The store as it was right after the last call that dumps and has succeeded. -/
def lastDumped : List Store.Call → State → Option FileStore
  | [], _ => none
  | call :: calls, p =>
    let after := operations.perform call p
    (lastDumped calls after.2).or (if dumps call && after.1.isOk then some after.2.1 else none)

/-- What a run keeps, and what its file shows at the end. -/
theorem Attended.performAll (h : Attended path p) (calls : List Store.Call) :
    Attended path (operations.performAll calls p).2 ∧
      (lastDumped calls p = none → (operations.performAll calls p).2.2 = p.2) ∧
      ∀ s, lastDumped calls p = some s → Shown (operations.performAll calls p).2.2 path s := by
  induction calls generalizing p with
  | nil => exact ⟨h, fun _ => rfl, fun s hs => absurd hs (by simp [lastDumped])⟩
  | cons call calls ih =>
    have hfirst : lastDumped (call :: calls) p =
        (lastDumped calls (operations.perform call p).2).or
          (if dumps call && (operations.perform call p).1.isOk
            then some (operations.perform call p).2.1 else none) := rfl
    have hrest : (operations.performAll (call :: calls) p).2 =
        (operations.performAll calls (operations.perform call p).2).2 := rfl
    obtain ⟨hend, hnone, hsome⟩ := ih (h.perform call)
    rw [hfirst, hrest]
    refine ⟨hend, fun hlast => ?_, fun s hlast => ?_⟩
    · obtain ⟨hlater, hnow⟩ := Option.or_eq_none_iff.1 hlast
      rw [hnone hlater]
      refine perform_quiet (Bool.eq_false_iff.2 fun hloud => ?_)
      simp [hloud] at hnow
    · rcases Option.or_eq_some_iff.1 hlast with hlater | ⟨hlater, hnow⟩
      · exact hsome s hlater
      · -- None of the later calls has touched the file.
        rw [hnone hlater]
        split at hnow
        · next hdumps =>
          rw [Bool.and_eq_true] at hdumps
          rw [← Option.some.inj hnow]
          exact .of_read (h.perform call).sound.finite (h.dumped call hdumps.1 hdumps.2)
        · exact absurd hnow (by simp)

/-- Loading a file that holds the snapshot of a store gives its tables, unless some id is empty. -/
theorem load_snapshot {fs : Files} (hs : s.Finite)
    (hread : fs.read path = .ok s.snapshotBytes) (sync : Bool) :
    operations.perform .load (create path sync, fs) =
      if s.HasEmptyId then (.error s.refusal, create path sync, fs)
      else (.ok .nothing, ⟨s.gauges, s.counters, path, sync⟩, fs) := by
  rw [perform_load (p := (create path sync, fs)) hread]
  split
  · next hids =>
    rw [loadBytes_refused hs hids]
    rfl
  · next hids =>
    rw [loadBytes_snapshot hs hids]
    rfl

/-- **What lies in the file of a store that dumps after every write**, after any calls.  A
metric, a batch or a dump that succeeds leaves exactly the tables in the file, and a new store
loads them unless an id is empty.  No other call touches the files; so a write to one table is
saved only if it changes nothing.  At any time the tables are saved exactly if they are those of
the last call that dumps. -/
theorem saved_after_calls {fs : Files} (hfs : fs.Writable path) (calls : List Store.Call) :
    let start : State := (create path true, fs)
    let p := (operations.performAll calls start).2
    (∀ call, dumps call = true → (operations.perform call p).1.isOk = true →
      let q := (operations.perform call p).2
      Saved q ∧ ∀ sync, operations.perform .load (create path sync, q.2) =
        if q.1.HasEmptyId then (.error q.1.refusal, create path sync, q.2)
        else (.ok .nothing, ⟨q.1.gauges, q.1.counters, path, sync⟩, q.2)) ∧
    (∀ call, dumps call = false →
      let q := (operations.perform call p).2
      q.2 = p.2 ∧
        (Saved p → (Saved q ↔ q.1.gauges = p.1.gauges ∧ q.1.counters = p.1.counters))) ∧
    (lastDumped calls start = none → p.2 = fs) ∧
    ∀ s, lastDumped calls start = some s →
      (Saved p ↔ p.1.gauges = s.gauges ∧ p.1.counters = s.counters) := by
  intro start p
  obtain ⟨hp, hnone, hsome⟩ := (Attended.created hfs).performAll calls
  have hpath : p.1.path = path := hp.sound.path
  refine ⟨fun call hdumps hok => ?_, fun call hquiet => ?_, hnone, fun s hlast => ?_⟩
  · have hq := (hp.perform call).sound
    have hread := hp.dumped call hdumps hok
    refine ⟨?_, fun sync => load_snapshot hq.finite hread sync⟩
    unfold Saved
    rw [hq.path]
    exact .of_read hq.finite hread
  · have hfiles : (operations.perform call p).2.2 = p.2 := perform_quiet (by simp [hquiet])
    refine ⟨hfiles, fun hsaved => ?_⟩
    unfold Saved at hsaved ⊢
    rw [hfiles, (hp.perform call).sound.path]
    rw [hpath] at hsaved
    exact hsaved.iff
  · unfold Saved
    rw [hpath]
    exact (hsome s hlast).iff

/-! ## One metric, and then one delta -/

/-- A store for one file whose only counter has this total. -/
def counting (total : Int64) : FileStore := ⟨∅, (∅ : Table Int64).set "c" total, "m.json", true⟩

/-- A new store that is given its first counter, as a metric. -/
theorem perform_first :
    operations.perform (.writeData (.counter "c" 1)) (create "m.json" true, .empty) =
      (.ok (.metric (.counter "c" 1)), counting 1, (counting 1).afterWrite .empty) := by
  have hvalid : (Metric.counter "c" 1).validate = .ok ⟨"c", .counter 1⟩ := by decide
  have hadd : (∅ : Table Int64).add "c" 1 = .ok (1, (∅ : Table Int64).set "c" 1) :=
    (Table.add_ok_iff _ _ _ _ _).2 ⟨by simp [Table.total], rfl⟩
  simp only [Store.perform, Store.wrap, operations, writeData, hvalid, apply, create, hadd, counting,
    Except.map]

/-- Adding to that counter leaves the files alone. -/
theorem perform_second (fs : Files) :
    operations.perform (.writeCounter "c" 1) (counting 1, fs) =
      (.ok .nothing, { counting 1 with counters := (counting 1).counters.set "c" 2 }, fs) := by
  have hadd : (counting 1).counters.add "c" 1 = .ok (2, (counting 1).counters.set "c" 2) := by
    refine (Table.add_ok_iff _ _ _ _ _).2 ⟨?_, rfl⟩
    rw [Table.total, show (counting 1).counters.get? "c" = some 1 by simp [counting, Table.get?_set]]
    decide
  simp only [Store.perform, Store.wrap, operations, Table.writeCounter, hadd, Except.map, replace]

/-- The counter of the first metric is in the file, and a new store loads it. -/
theorem first_saved :
    Files.empty.Writable "m.json" ∧ Saved (counting 1, (counting 1).afterWrite .empty) ∧
      operations.perform .load (create "m.json" true, (counting 1).afterWrite .empty) =
        (.ok .nothing, counting 1, (counting 1).afterWrite .empty) := by
  obtain ⟨hdumped, -⟩ := saved_after_calls Files.writable_empty []
  have hfirst := hdumped (.writeData (.counter "c" 1)) rfl
  simp only [Store.performAll, perform_first] at hfirst
  obtain ⟨hsaved, hload⟩ := hfirst rfl
  have hids : ¬ (counting 1).HasEmptyId := by simp [HasEmptyId, counting, Table.get?_set]
  have hagain := hload true
  rw [if_neg hids] at hagain
  exact ⟨Files.writable_empty, hsaved, hagain⟩

/-- **A delta that is added to the table itself is not saved**, although the call succeeds in a
store that dumps after every write. -/
theorem delta_not_saved :
    Files.empty.Writable "m.json" ∧
    ∃ p, operations.performAll [.writeData (.counter "c" 1), .writeCounter "c" 1]
        (create "m.json" true, .empty) = ([.ok (.metric (.counter "c" 1)), .ok .nothing], p) ∧
      p.1.counters.get? "c" = some 2 ∧ ¬ Saved p := by
  have hstart := Attended.created Files.writable_empty
  have hshown : Shown ((counting 1).afterWrite .empty) "m.json" (counting 1) := by
    have hsound := (hstart.perform (.writeData (.counter "c" 1))).sound
    have hread := hstart.dumped (.writeData (.counter "c" 1)) rfl
    simp only [perform_first] at hsound hread
    exact .of_read hsound.finite (hread rfl)
  refine ⟨Files.writable_empty,
    ({ counting 1 with counters := (counting 1).counters.set "c" 2 },
      (counting 1).afterWrite .empty), ?_, ?_, ?_⟩
  · simp only [Store.performAll, perform_first, perform_second]
  · simp [Table.get?_set]
  · intro hsaved
    obtain ⟨-, hcounters⟩ := hshown.iff.1 hsaved
    have htotal : ((counting 1).counters.set "c" 2).get? "c" = (counting 1).counters.get? "c" :=
      congrArg (fun t => Table.get? t "c") hcounters
    exact absurd htotal (by simp [counting, Table.get?_set])

end FileStore

end Meterbank
