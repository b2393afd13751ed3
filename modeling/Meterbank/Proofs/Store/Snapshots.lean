/-
  Meterbank.Proofs.Store.Snapshots — what a dump leaves can be loaded, or not.

  Whatever calls are made of a store, its gauges are finite: metrics and
  batches are accepted only with finite values, and so are the writes to
  one table.  So the file of a dump holds the tables, and is read as it
  was written.  Loading it goes through the check of metrics again, and
  that check knows one more rule than the writes to one table do: an id
  must not be empty.

  Main results:
    * `loadBytes_snapshot` — the snapshot of a store, applied to an empty
      store, gives its tables.
    * `loadBytes_refused` — unless an id is empty; then nothing is applied.
    * `load_of_dump` — so every store that calls lead to is loaded as it
      was dumped, or its file is refused.
-/
import Meterbank.Store.File
import Meterbank.Proofs.Folding
import Meterbank.Proofs.Metric.Documents

namespace Meterbank

open Meterbank.Number

/-! ## Accepting and refusing entries -/

namespace Batch

/-- Entries that are all accepted make an accepted batch. -/
theorem validateFrom_ok {α : Type} (metric : α → Metric) (update : α → Update) {rows : List α}
    (h : ∀ row ∈ rows, (metric row).validate = .ok (update row)) (index : Nat) :
    validateFrom index (rows.map metric) = .ok (rows.map update) := by
  induction rows generalizing index with
  | nil => rfl
  | cons row rows ih =>
    rw [List.forall_mem_cons] at h
    exact (validate_cons index _ _ _).2 ⟨update row, rows.map update, h.1, ih h.2 (index + 1), rfl⟩

theorem validateFrom_append {index : Nat} {ms ns : List Metric} {us vs : List Update}
    (hm : validateFrom index ms = .ok us) (hn : validateFrom (index + ms.length) ns = .ok vs) :
    validateFrom index (ms ++ ns) = .ok (us ++ vs) := by
  induction ms generalizing index us with
  | nil =>
    rw [← Except.ok.inj hm]
    exact hn
  | cons m ms ih =>
    obtain ⟨u, rest, hu, hrest, rfl⟩ := (validate_cons index m ms us).1 hm
    refine (validate_cons index m (ms ++ ns) _).2 ⟨u, rest ++ vs, hu, ih hrest ?_, rfl⟩
    rw [List.length_cons] at hn
    rwa [Nat.add_assoc, Nat.add_comm 1]

/-- The first empty id is what a batch is refused for, if nothing else is
wrong with it. -/
theorem validateFrom_emptyId {ms : List Metric}
    (hothers : ∀ m ∈ ms, m.id.isEmpty = false → ∃ u, m.validate = .ok u)
    (hempty : ∃ m ∈ ms, m.id.isEmpty = true) (index : Nat) :
    validateFrom index ms =
      .error (.validation (.entry (index + ms.findIdx fun m => m.id.isEmpty) .emptyId)) := by
  induction ms generalizing index with
  | nil => exact absurd hempty (by simp)
  | cons m ms ih =>
    rw [List.forall_mem_cons] at hothers
    unfold validateFrom
    rw [List.findIdx_cons]
    cases hm : m.id.isEmpty with
    | true =>
      have hrefused : m.validate = .error (.validation .emptyId) := by
        unfold Metric.validate
        rw [hm, if_pos rfl]
      rw [hrefused]
      rfl
    | false =>
      obtain ⟨u, hu⟩ := hothers.1 hm
      have hrest : ∃ m' ∈ ms, m'.id.isEmpty = true := by
        obtain ⟨m', hmem, hm'⟩ := hempty
        rcases List.mem_cons.1 hmem with rfl | hmem
        · rw [hm] at hm'
          exact absurd hm' (by simp)
        · exact ⟨m', hmem, hm'⟩
      rw [hu, ih hothers.2 hrest (index + 1)]
      simp only [cond_false, Nat.add_assoc, Nat.add_comm 1]

end Batch

/-- A gauge with a name and a finite value is accepted. -/
theorem Metric.validate_gauge {id : String} {x : Binary64} (hid : id.isEmpty = false)
    (hx : x.isFinite = true) : (Metric.gauge id x).validate = .ok ⟨id, .gauge x⟩ := by
  have htag : Kind.ofTag? Kind.gauge.tag = some .gauge := by decide
  simp only [validate, gauge, hid, htag, checkGauge, hx, Except.map, if_true, Bool.false_eq_true,
    if_false]

/-- A counter with a name is accepted. -/
theorem Metric.validate_counter {id : String} (n : Int64) (hid : id.isEmpty = false) :
    (Metric.counter id n).validate = .ok ⟨id, .counter n⟩ := by
  have htag : Kind.ofTag? Kind.counter.tag = some .counter := by decide
  simp only [validate, counter, hid, htag, Bool.false_eq_true, if_false]

/-! ## Folding the rows of a table -/

namespace Delta

theorem applyAll_append {d e f : Delta} {us vs : List Update} (hu : d.applyAll us = .ok e)
    (hv : e.applyAll vs = .ok f) : d.applyAll (us ++ vs) = .ok f := by
  induction us generalizing d with
  | nil =>
    rw [← Except.ok.inj hu] at hv
    exact hv
  | cons u us ih =>
    obtain ⟨e', he, hrest⟩ := (ofUpdates_cons d e u us).1 hu
    exact (ofUpdates_cons d f u (us ++ vs)).2 ⟨e', he, ih hrest⟩

theorem applyAll_gauges (d : Delta) (rows : List (String × Binary64)) :
    d.applyAll (rows.map fun row => ⟨row.1, .gauge row.2⟩) =
      .ok { d with gauges := d.gauges.setRows rows } := by
  induction rows generalizing d with
  | nil => rfl
  | cons row rows ih => exact ih { d with gauges := d.gauges.set row.1 row.2 }

/-- Counters that are new are folded to what they are. -/
theorem applyAll_counters {d : Delta} {rows : List (String × Int64)}
    (hnodup : (rows.map Prod.fst).Nodup)
    (hnew : ∀ k ∈ rows.map Prod.fst, d.counters.get? k = none) :
    d.applyAll (rows.map fun row => ⟨row.1, .counter row.2⟩) =
      .ok { d with counters := d.counters.setRows rows } := by
  induction rows generalizing d with
  | nil => rfl
  | cons row rows ih =>
    rw [List.map_cons, List.nodup_cons] at hnodup
    rw [List.map_cons, List.forall_mem_cons] at hnew
    have hadd : d.counters.add row.1 row.2 = .ok (row.2, d.counters.set row.1 row.2) := by
      refine (Table.add_ok_iff _ _ _ _ _).2 ⟨?_, rfl⟩
      rw [Table.total, hnew.1]
      simp
    have happly : d.apply ⟨row.1, .counter row.2⟩ =
        .ok { d with counters := d.counters.set row.1 row.2 } := by
      simp only [apply, hadd]
    refine (ofUpdates_cons d _ _ _).2 ⟨_, happly, ih hnodup.2 ?_⟩
    intro k hk
    have hne : row.1 ≠ k := by
      rintro rfl
      exact hnodup.1 hk
    rw [Table.get?_set, if_neg hne]
    exact hnew.2 k hk

end Delta

/-- Setting the rows of a table gives the table. -/
theorem Table.setRows_toList {α : Type} (t : Table α) : (∅ : Table α).setRows t.toList = t := by
  apply Table.ext_get?
  intro k
  rw [Table.get?_setRows, Table.lastOf?_toList, Table.get?_empty, Option.or_none]

namespace FileStore

variable {s s' : FileStore}

/-! ## The snapshot of a store -/

/-- The updates a snapshot asks for. -/
def snapshotUpdates (s : FileStore) : List Update :=
  s.gauges.toList.map (fun row => ⟨row.1, .gauge row.2⟩)
    ++ s.counters.toList.map (fun row => ⟨row.1, .counter row.2⟩)

/-- They fold to the tables. -/
theorem ofUpdates_snapshotUpdates (s : FileStore) :
    Delta.ofUpdates s.snapshotUpdates = .ok ⟨s.gauges, s.counters⟩ := by
  have hgauges := Delta.applyAll_gauges .empty s.gauges.toList
  have hcounters := Delta.applyAll_counters (d := ⟨s.gauges, ∅⟩) s.counters.nodup_names
    (fun k _ => Table.get?_empty k)
  rw [show Delta.empty.gauges = ∅ from rfl, Table.setRows_toList] at hgauges
  rw [show (Delta.mk s.gauges ∅).counters = ∅ from rfl, Table.setRows_toList] at hcounters
  exact Delta.applyAll_append hgauges hcounters

/-- Whether all gauges are finite. -/
def Finite (s : FileStore) : Prop := ∀ k x, s.gauges.get? k = some x → x.isFinite = true

/-- Whether some metric has the empty id. -/
def HasEmptyId (s : FileStore) : Prop := s.gauges.get? "" ≠ none ∨ s.counters.get? "" ≠ none

instance (s : FileStore) : Decidable s.HasEmptyId :=
  inferInstanceAs (Decidable (_ ∨ _))

theorem Finite.rows (h : s.Finite) : ∀ row ∈ s.gauges.toList, row.2.isFinite = true :=
  fun row hrow => h row.1 row.2 ((s.gauges.mem_toList_iff row.1 row.2).1 hrow)

/-- An entry of the snapshot is a gauge or a counter of the store. -/
theorem mem_snapshot {m : Metric} :
    m ∈ s.snapshot.metrics ↔ (∃ k x, s.gauges.get? k = some x ∧ m = .gauge k x) ∨
      ∃ k n, s.counters.get? k = some n ∧ m = .counter k n := by
  unfold snapshot
  simp only [List.mem_append, List.mem_map, Prod.exists, Table.mem_toList_iff]
  constructor
  · rintro (⟨k, x, hk, rfl⟩ | ⟨k, n, hk, rfl⟩)
    · exact Or.inl ⟨k, x, hk, rfl⟩
    · exact Or.inr ⟨k, n, hk, rfl⟩
  · rintro (⟨k, x, hk, rfl⟩ | ⟨k, n, hk, rfl⟩)
    · exact Or.inl ⟨k, x, hk, rfl⟩
    · exact Or.inr ⟨k, n, hk, rfl⟩

/-- The snapshot of a store with finite gauges is read as it was written. -/
theorem decode_snapshotBytes (h : s.Finite) : Batch.decode s.snapshotBytes = .ok s.snapshot := by
  apply decode_pretty
  intro m hm x hx
  rcases mem_snapshot.1 hm with ⟨k, y, hk, rfl⟩ | ⟨k, n, hk, rfl⟩
  · rw [← Option.mem_some_iff.1 hx]
    exact h k y hk
  · exact absurd hx (by simp [Metric.counter])

/-- A snapshot without an empty id is accepted. -/
theorem validate_snapshot (h : s.Finite) (hids : ¬ s.HasEmptyId) :
    s.snapshot.validate = .ok s.snapshotUpdates := by
  have hid : ∀ {α : Type} {t : Table α}, t.get? "" = none → ∀ row ∈ t.toList,
      row.1.isEmpty = false := by
    intro α t ht row hrow
    rw [Bool.eq_false_iff]
    intro hempty
    rw [Table.mem_toList_iff, String.isEmpty_iff.1 hempty, ht] at hrow
    exact absurd hrow (by simp)
  simp only [HasEmptyId, ne_eq, not_or, not_not] at hids
  apply Batch.validateFrom_append
  · apply Batch.validateFrom_ok
    exact fun row hrow => Metric.validate_gauge (hid hids.1 row hrow) (h.rows row hrow)
  · apply Batch.validateFrom_ok
    exact fun row hrow => Metric.validate_counter row.2 (hid hids.2 row hrow)

/-- **The snapshot of a store, applied to an empty store, gives its
tables**, if no id is empty. -/
theorem loadBytes_snapshot (h : s.Finite) (hids : ¬ s.HasEmptyId) (path : String) (sync : Bool) :
    (create path sync).loadBytes s.snapshotBytes = .ok ⟨s.gauges, s.counters, path, sync⟩ := by
  have hcounters : (∅ : Table Int64).addAll s.counters = .ok s.counters :=
    (Table.addAll_eq_ok_iff _ _ _).2 (fun k => by simp)
  have hgauges : (∅ : Table Binary64).setAll s.gauges = s.gauges := Table.setRows_toList s.gauges
  unfold loadBytes
  rw [decode_snapshotBytes h]
  simp only
  rw [validate_snapshot h hids]
  simp only [applyAll, ofUpdates_snapshotUpdates, applyDelta, create, hcounters, hgauges]

/-- What a snapshot with an empty id is refused for: its first such entry. -/
def refusal (s : FileStore) : StoreError :=
  .validation (.entry (s.snapshot.metrics.findIdx fun m => m.id.isEmpty) .emptyId)

/-- **A snapshot with an empty id is refused**, by any store. -/
theorem loadBytes_refused (h : s.Finite) (hids : s.HasEmptyId) (t : FileStore) :
    t.loadBytes s.snapshotBytes = .error s.refusal := by
  have hothers : ∀ m ∈ s.snapshot.metrics, m.id.isEmpty = false → ∃ u, m.validate = .ok u := by
    intro m hm hid
    rcases mem_snapshot.1 hm with ⟨k, x, hk, rfl⟩ | ⟨k, n, hk, rfl⟩
    · exact ⟨_, Metric.validate_gauge hid (h k x hk)⟩
    · exact ⟨_, Metric.validate_counter n hid⟩
  have hempty : ∃ m ∈ s.snapshot.metrics, m.id.isEmpty = true := by
    rcases hids with hgauge | hcounter
    · obtain ⟨x, hx⟩ := Option.ne_none_iff_exists'.1 hgauge
      exact ⟨.gauge "" x, mem_snapshot.2 (Or.inl ⟨_, _, hx, rfl⟩), rfl⟩
    · obtain ⟨n, hn⟩ := Option.ne_none_iff_exists'.1 hcounter
      exact ⟨.counter "" n, mem_snapshot.2 (Or.inr ⟨_, _, hn, rfl⟩), rfl⟩
  unfold loadBytes
  rw [decode_snapshotBytes h]
  simp only
  rw [Batch.validate, Batch.validateFrom_emptyId hothers hempty, Nat.zero_add]
  rfl

/-! ## What calls lead to -/

/-- What every call keeps: finite gauges, and the place of the file. -/
structure Sound (path : String) (s : FileStore) : Prop where
  finite : s.Finite
  path : s.path = path

variable {path : String}

theorem Sound.applyDelta (h : s.Sound path) {d : Delta} (hd : d.Finite)
    (happly : s.applyDelta d = .ok s') : s'.Sound path := by
  unfold FileStore.applyDelta at happly
  split at happly
  · rw [← Except.ok.inj happly]
    refine ⟨?_, h.path⟩
    intro k x hx
    rw [Table.get?_setAll, Option.or_eq_some_iff] at hx
    rcases hx with hx | ⟨-, hx⟩
    · exact hd k x hx
    · exact h.finite k x hx
  · exact absurd happly (by simp)

theorem Sound.applyAll (h : s.Sound path) {us : List Update} (hus : ∀ u ∈ us, u.Finite)
    (happly : s.applyAll us = .ok s') : s'.Sound path := by
  unfold FileStore.applyAll at happly
  split at happly
  · next d hd => exact h.applyDelta (Delta.ofUpdates_finite hus hd) happly
  · exact absurd happly (by simp)

theorem Sound.apply (h : s.Sound path) {u : Update} (hu : u.Finite) {m : Metric}
    (happly : s.apply u = .ok (m, s')) : s'.Sound path := by
  unfold FileStore.apply at happly
  cases hs : u.sample with
  | gauge x =>
    rw [hs] at happly
    rw [← (Prod.mk.inj (Except.ok.inj happly)).2]
    refine ⟨?_, h.path⟩
    intro k y hy
    rw [Table.get?_set] at hy
    split at hy
    · rw [← Option.some.inj hy]
      exact hu x hs
    · exact h.finite k y hy
  | counter delta =>
    rw [hs] at happly
    simp only at happly
    split at happly
    · rw [← (Prod.mk.inj (Except.ok.inj happly)).2]
      exact ⟨h.finite, h.path⟩
    · exact absurd happly (by simp)

theorem Sound.loadFrom (h : s.Sound path) {fs : Files} (hload : s.loadFrom fs = .ok s') :
    s'.Sound path := by
  unfold FileStore.loadFrom loadBytes at hload
  split at hload
  · exact absurd hload (by simp)
  · split at hload
    · exact absurd hload (by simp)
    · split at hload
      · exact absurd hload (by simp)
      · next us hus => exact h.applyAll (Batch.finite_of_validateFrom hus) hload

/-- An operation that may replace the store keeps what both stores have. -/
theorem Sound.replace {p : State} (h : p.1.Sound path) {r : Except StoreError FileStore}
    (hr : ∀ s', r = .ok s' → s'.Sound path) : (replace p r).2.1.Sound path := by
  cases r with
  | ok s' => exact hr s' rfl
  | error e => exact h

theorem Sound.writeGauge {p : State} (h : p.1.Sound path) (key : String) (x : Binary64) :
    (operations.writeGauge key x p).2.1.Sound path := by
  apply h.replace
  intro s' hs'
  cases hw : p.1.gauges.writeGauge key x with
  | error e =>
    rw [hw] at hs'
    exact absurd hs' (by simp [Except.map])
  | ok t =>
    obtain ⟨hx, rfl⟩ := (Table.writeGauge_ok_iff _ _ _ _).1 hw
    rw [hw] at hs'
    rw [← Except.ok.inj hs']
    refine ⟨?_, h.path⟩
    intro k y hy
    rw [Table.get?_set] at hy
    split at hy
    · rw [← Option.some.inj hy]
      exact hx
    · exact h.finite k y hy

theorem Sound.writeCounter {p : State} (h : p.1.Sound path) (key : String) (delta : Int64) :
    (operations.writeCounter key delta p).2.1.Sound path := by
  apply h.replace
  intro s' hs'
  cases hw : p.1.counters.writeCounter key delta with
  | error e =>
    rw [hw] at hs'
    exact absurd hs' (by simp [Except.map])
  | ok t =>
    rw [hw] at hs'
    rw [← Except.ok.inj hs']
    exact ⟨h.finite, h.path⟩

/-- **Every call keeps the gauges finite and the file in its place.** -/
theorem Sound.perform {p : State} (h : p.1.Sound path) (call : Store.Call) :
    (operations.perform call p).2.1.Sound path := by
  have hdata : ∀ m, (operations.writeData m p).2.1.Sound path := by
    intro m
    show (writeData m p).2.1.Sound path
    unfold writeData
    split
    · exact h
    · next u hu =>
      split
      · exact h
      · next written s' hs' => exact h.apply (Metric.finite_of_validate hu) hs'
  have hbatch : ∀ b, (operations.writeBatch b p).2.1.Sound path := by
    intro b
    show (writeBatch b p).2.1.Sound path
    unfold writeBatch
    split
    · exact h
    · next us hus =>
      split
      · exact h
      · next s' hs' => exact h.applyAll (Batch.finite_of_validateFrom hus) hs'
  have hdump : (operations.dump p).2.1.Sound path := by
    simp only [operations]
    split <;> exact h
  exact Store.perform_keeps (P := fun p : State => p.1.Sound path) h hdata hbatch (fun _ => h)
    (fun _ => h) (fun key => h.writeGauge key) (fun key => h.writeCounter key) hdump
    (h.replace fun s' hs' => h.loadFrom hs') h h call

/-- The states of a store for a file, after any calls.  What lies in the
files may change between any two of them. -/
inductive Reached (path : String) (sync : Bool) : State → Prop
  | created (fs : Files) : Reached path sync (create path sync, fs)
  | called {p : State} (call : Store.Call) (h : Reached path sync p) :
      Reached path sync (operations.perform call p).2
  | disturbed {p : State} (fs : Files) (h : Reached path sync p) : Reached path sync (p.1, fs)

variable {sync : Bool}

theorem Reached.sound {p : State} (h : Reached path sync p) : p.1.Sound path := by
  induction h with
  | created fs => exact ⟨fun k x hx => absurd hx (by simp [create]), rfl⟩
  | called call _ ih => exact ih.perform call
  | disturbed fs _ ih => exact ih

/-! ## Dumping and loading -/

/-- A file that was replaced by the snapshot holds it. -/
theorem read_dump {fs fs' : Files} (h : s.dump fs = .ok fs') :
    fs'.read s.path = .ok s.snapshotBytes := by
  unfold dump at h
  split at h
  · next hfs => exact Files.read_write _ _ _ _ (Except.ok.inj h ▸ hfs)
  · exact absurd h (by simp)

/-- A dump that succeeds leaves the snapshot in the file. -/
theorem read_of_dump {p p' : State} (h : operations.perform .dump p = (.ok .nothing, p')) :
    p'.1 = p.1 ∧ p'.2.read p.1.path = .ok p.1.snapshotBytes := by
  have hstep : operations.perform .dump p =
      Store.wrap (fun _ => .nothing) (operations.dump p) := rfl
  rw [hstep] at h
  unfold Store.wrap at h
  simp only [operations] at h
  cases hd : p.1.dump p.2 with
  | error e =>
    rw [hd] at h
    exact absurd h (by simp [Except.map])
  | ok fs =>
    rw [hd] at h
    obtain ⟨-, rfl⟩ := Prod.mk.inj h
    exact ⟨rfl, read_dump hd⟩

/-- Loading applies what the file holds. -/
theorem perform_load {p : State} {content : List UInt8} (h : p.2.read p.1.path = .ok content) :
    operations.perform .load p =
      Store.wrap (fun _ => .nothing) (replace p (p.1.loadBytes content)) := by
  show Store.wrap (fun _ => .nothing) (replace p (p.1.loadFrom p.2)) = _
  unfold loadFrom
  rw [h]

/-- **What was dumped is loaded as it was, if no id is empty**, and a new
store for the same file then has exactly the same tables.  If some id is
empty, the file that was dumped is refused, and nothing of it is applied. -/
theorem load_of_dump {p p' : State} (hp : Reached path sync p)
    (hdump : operations.perform .dump p = (.ok .nothing, p')) (sync' : Bool) :
    operations.perform .load (create path sync', p'.2) =
      if p.1.HasEmptyId then (.error p.1.refusal, create path sync', p'.2)
      else (.ok .nothing, ⟨p.1.gauges, p.1.counters, path, sync'⟩, p'.2) := by
  have hsound := hp.sound
  obtain ⟨-, hread⟩ := read_of_dump hdump
  rw [hsound.path] at hread
  rw [perform_load (p := (create path sync', p'.2)) hread]
  split
  · next hids =>
    rw [loadBytes_refused hsound.finite hids]
    rfl
  · next hids =>
    rw [loadBytes_snapshot hsound.finite hids]
    rfl

/-! ## One counter, with a name and without -/

/-- A new store after one write to its counters. -/
def countedOnce (key : String) : State :=
  (operations.perform (.writeCounter key 1) (create "m.json" false, .empty)).2

theorem countedOnce_eq (key : String) :
    countedOnce key = (⟨∅, (∅ : Table Int64).set key 1, "m.json", false⟩, .empty) := by
  have hadd : (∅ : Table Int64).add key 1 = .ok (1, (∅ : Table Int64).set key 1) :=
    (Table.add_ok_iff _ _ _ _ _).2 ⟨by simp [Table.total], rfl⟩
  simp only [countedOnce, Store.perform, Store.wrap, operations, create, Table.writeCounter, hadd,
    Except.map, replace]

theorem countedOnce_reached (key : String) : Reached "m.json" false (countedOnce key) :=
  (Reached.created .empty).called (.writeCounter key 1)

/-- Such a store can be dumped. -/
theorem countedOnce_dump (key : String) :
    ∃ p', operations.perform .dump (countedOnce key) = (.ok .nothing, p') := by
  obtain ⟨fs, hfs⟩ := Files.writable_empty (countedOnce key).1.snapshotBytes
  refine ⟨((countedOnce key).1, fs), ?_⟩
  rw [countedOnce_eq] at hfs ⊢
  simp only [Store.perform, Store.wrap, operations, dump, hfs, Except.map]

/-- A counter with a name is loaded as it was dumped. -/
theorem named_counter_loaded :
    ∃ p', operations.perform .dump (countedOnce "c") = (.ok .nothing, p') ∧
      operations.perform .load (create "m.json" true, p'.2) =
        (.ok .nothing, ⟨∅, (∅ : Table Int64).set "c" 1, "m.json", true⟩, p'.2) := by
  obtain ⟨p', hdump⟩ := countedOnce_dump "c"
  have hids : ¬ (countedOnce "c").1.HasEmptyId := by
    rw [countedOnce_eq]
    simp [HasEmptyId, Table.get?_set]
  have hload := load_of_dump (countedOnce_reached "c") hdump true
  rw [if_neg hids, countedOnce_eq] at hload
  exact ⟨p', hdump, hload⟩

/-- **A counter with the empty id is dumped, and then refused.** -/
theorem emptyId_dumped_not_loaded :
    ∃ p p', Reached "m.json" false p ∧ operations.perform .dump p = (.ok .nothing, p') ∧
      operations.perform .load (create "m.json" false, p'.2) =
        (.error (.validation (.entry 0 .emptyId)), create "m.json" false, p'.2) := by
  obtain ⟨p', hdump⟩ := countedOnce_dump ""
  refine ⟨countedOnce "", p', countedOnce_reached "", hdump, ?_⟩
  obtain ⟨-, hread⟩ := read_of_dump hdump
  rw [countedOnce_eq] at hread
  have hids : (⟨∅, (∅ : Table Int64).set "" 1, "m.json", false⟩ : FileStore).HasEmptyId := by
    simp [HasEmptyId, Table.get?_set]
  have hfinite : (⟨∅, (∅ : Table Int64).set "" 1, "m.json", false⟩ : FileStore).Finite :=
    fun k x hx => absurd hx (by simp)
  have hrefusal : (⟨∅, (∅ : Table Int64).set "" 1, "m.json", false⟩ : FileStore).refusal =
      .validation (.entry 0 .emptyId) := by
    have hnone : (∅ : Table Binary64).toList = [] :=
      Table.toList_of_isEmpty Std.ExtTreeMap.isEmpty_empty
    simp [refusal, snapshot, hnone, Table.toList_single, Metric.counter]
  rw [perform_load (p := (create "m.json" false, p'.2)) hread, loadBytes_refused hfinite hids,
    hrefusal]
  rfl

end FileStore

end Meterbank
