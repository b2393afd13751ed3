/-
  Meterbank.Proofs.Store.Canonical — a snapshot shows the tables, and no more.

  The rows of a table lie in an order that depends on how the table was
  written.  A snapshot sorts them by the bytes of their ids.  There is one
  list of the rows of a table whose ids increase, so nothing is left of
  the order in which the rows lay: stores with the same tables are dumped
  to the same bytes.

  Main results:
    * `Listed.unique` — a table is listed in one way.
    * `listed_sortRows` — sorting finds it, wherever the rows lie.
    * `snapshotOf_eq` — so a snapshot is that of the tables.
    * `snapshot_canonical` — what is in it, and that it is the same for
      stores with the same tables.
-/
import Meterbank.Proofs.Text.ByteOrder
import Meterbank.Store.Listing
import Meterbank.Proofs.Store.Snapshots

namespace Meterbank

variable {α : Type}

namespace Table

/-! ## Listing a table -/

/-- The rows list the table: its ids in the order of their bytes, each
with its value, and nothing else. -/
structure Listed (t : Table α) (rows : List (String × α)) : Prop where
  increasing : rows.Pairwise fun a b => Text.bytes a.1 < Text.bytes b.1
  mem_iff : ∀ k v, (k, v) ∈ rows ↔ t.get? k = some v

variable {t : Table α} {rows rows' : List (String × α)}

/-- No id is listed twice. -/
theorem Listed.nodup_names (h : t.Listed rows) : (rows.map Prod.fst).Nodup := by
  rw [List.Nodup, List.pairwise_map]
  apply h.increasing.imp
  intro a b hab heq
  rw [heq] at hab
  exact List.lt_irrefl _ hab

theorem Listed.nodup (h : t.Listed rows) : rows.Nodup := .of_map _ h.nodup_names

/-- **A table is listed in one way.** -/
theorem Listed.unique (h : t.Listed rows) (h' : t.Listed rows') : rows = rows' := by
  have hperm : rows.Perm rows' := by
    rw [List.perm_ext_iff_of_nodup h.nodup h'.nodup]
    rintro ⟨k, v⟩
    rw [h.mem_iff, h'.mem_iff]
  apply hperm.eq_of_pairwise _ h.increasing h'.increasing
  intro a b _ _ hab hba
  exact absurd hba (List.lt_asymm hab)

/-- A table lists itself. -/
theorem listed_toList (t : Table α) : t.Listed t.toList where
  increasing := Std.ExtTreeMap.ordered_keys_toList.imp fun h => (Text.compare_eq_lt_iff_bytes _ _).1 h
  mem_iff := t.mem_toList_iff

/-- **Sorting lists a table, wherever its rows lie.** -/
theorem listed_sortRows (l : t.Layout) : t.Listed (sortRows l.rows) := by
  have hperm := sortRows_perm l.rows
  have hnodup : ((sortRows l.rows).map Prod.fst).Nodup :=
    (hperm.map Prod.fst).nodup_iff.2 l.nodup_names
  refine ⟨?_, fun k v => by rw [hperm.mem_iff, l.mem_rows_iff]⟩
  rw [List.Nodup, List.pairwise_map] at hnodup
  refine List.Pairwise.imp₂ ?_ (pairwise_sortRows l.rows) hnodup
  intro a b hle hne
  -- Sorting allows equal ids beside each other, but no id has two rows.
  have hab : a.1 ≤ b.1 := not_lt.1 fun hba => hle ((Text.bytes_lt_iff _ _).2 hba)
  exact (Text.bytes_lt_iff _ _).2 (lt_of_le_of_ne hab hne)

/-- Sorted rows are the rows of the table in its own order. -/
theorem sortRows_rows (l : t.Layout) : sortRows l.rows = t.toList :=
  (listed_sortRows l).unique (listed_toList t)

end Table

namespace FileStore

variable {s s' : FileStore}

/-! ## Snapshots -/

/-- **A snapshot does not depend on how the rows of the tables lie.** -/
theorem snapshotOf_eq (gauges : s.gauges.Layout) (counters : s.counters.Layout) :
    snapshotOf gauges.rows counters.rows = s.snapshot := by
  unfold snapshotOf snapshot
  rw [Table.sortRows_rows, Table.sortRows_rows]

/-- Nor does a dump. -/
theorem dumpOf_eq (gauges : s.gauges.Layout) (counters : s.counters.Layout) (fs : Files) :
    s.dumpOf gauges counters fs = s.dump fs := by
  unfold dumpOf
  rw [snapshotOf_eq]
  rfl

/-- The batch shows the tables of the store: all gauges, then all counters,
each kind listed in the order of the ids, and every metric once. -/
structure ShownBy (s : FileStore) (b : Batch) : Prop where
  listed : ∃ gauges counters, s.gauges.Listed gauges ∧ s.counters.Listed counters ∧
    b.metrics = gauges.map (fun row => Metric.gauge row.1 row.2)
      ++ counters.map (fun row => Metric.counter row.1 row.2)
  nodup : b.metrics.Nodup
  mem_iff : ∀ m, m ∈ b.metrics ↔ (∃ k x, s.gauges.get? k = some x ∧ m = .gauge k x) ∨
    ∃ k n, s.counters.get? k = some n ∧ m = .counter k n

/-- A gauge is not the counter of the same id, so an id may be of both kinds. -/
theorem nodup_snapshot (s : FileStore) : s.snapshot.metrics.Nodup := by
  have hgauges : (s.gauges.toList.map fun row => Metric.gauge row.1 row.2).Nodup := by
    apply s.gauges.listed_toList.nodup.map
    rintro ⟨k, x⟩ ⟨k', x'⟩ h
    simpa [Metric.gauge] using h
  have hcounters : (s.counters.toList.map fun row => Metric.counter row.1 row.2).Nodup := by
    apply s.counters.listed_toList.nodup.map
    rintro ⟨k, n⟩ ⟨k', n'⟩ h
    simpa [Metric.counter] using h
  apply hgauges.append hcounters
  intro m hgauge hcounter
  obtain ⟨row, -, rfl⟩ := List.mem_map.1 hgauge
  obtain ⟨row', -, h⟩ := List.mem_map.1 hcounter
  exact Metric.gauge_ne_counter _ _ _ _ h.symm

/-- **The snapshot of a store shows its tables.** -/
theorem shownBy_snapshot (s : FileStore) : s.ShownBy s.snapshot where
  listed := ⟨_, _, s.gauges.listed_toList, s.counters.listed_toList, rfl⟩
  nodup := s.nodup_snapshot
  mem_iff _ := mem_snapshot

/-- Stores with the same tables have the same snapshot. -/
theorem snapshot_congr (hgauges : ∀ k, s.gauges.get? k = s'.gauges.get? k)
    (hcounters : ∀ k, s.counters.get? k = s'.counters.get? k) : s.snapshot = s'.snapshot := by
  unfold snapshot
  rw [Table.ext_get? hgauges, Table.ext_get? hcounters]

/-- **A snapshot is complete, and the same for the same tables.**  It lists
every gauge once and then every counter once, each kind in the order of
the bytes of the ids, and nothing else, in whatever order the rows of the
tables lie.  Two stores with the same tables are dumped to the same bytes,
however they came to have them and wherever their files are; into the same
file they do the same. -/
theorem snapshot_canonical :
    (∀ (s : FileStore) (gauges : s.gauges.Layout) (counters : s.counters.Layout),
      s.ShownBy (snapshotOf gauges.rows counters.rows) ∧
        ∀ fs, s.dumpOf gauges counters fs = s.dump fs) ∧
    ∀ (s s' : FileStore) (gauges : s.gauges.Layout) (counters : s.counters.Layout)
      (gauges' : s'.gauges.Layout) (counters' : s'.counters.Layout),
      (∀ k, s.gauges.get? k = s'.gauges.get? k) →
      (∀ k, s.counters.get? k = s'.counters.get? k) →
        snapshotOf gauges.rows counters.rows = snapshotOf gauges'.rows counters'.rows ∧
        (∀ fs fs' files files', s.dumpOf gauges counters fs = .ok files →
          s'.dumpOf gauges' counters' fs' = .ok files' →
            ∃ content, files.read s.path = .ok content ∧ files'.read s'.path = .ok content) ∧
        (s.path = s'.path → ∀ fs,
          s.dumpOf gauges counters fs = s'.dumpOf gauges' counters' fs) := by
  refine ⟨fun s gauges counters => ⟨?_, dumpOf_eq gauges counters⟩, ?_⟩
  · rw [snapshotOf_eq]
    exact s.shownBy_snapshot
  · intro s s' gauges counters gauges' counters' hgauges hcounters
    have hsame := snapshot_congr hgauges hcounters
    simp only [snapshotOf_eq, dumpOf_eq]
    refine ⟨hsame, ?_, ?_⟩
    · intro fs fs' files files' hdump hdump'
      refine ⟨_, read_dump hdump, ?_⟩
      rw [snapshotBytes, hsame]
      exact read_dump hdump'
    · intro hpath fs
      simp only [dump, snapshotBytes, hsame, hpath]

/-! ## Two stores that were written in different orders -/

/-- A new store after writes to the gauges and the counters of two names. -/
def writtenInOrder (first second : String) : State :=
  (operations.performAll
    [.writeGauge first ⟨0⟩, .writeCounter second 1, .writeGauge second ⟨0⟩, .writeCounter first 1]
    (create "m.json" false, .empty)).2

theorem writtenInOrder_eq {first second : String} (h : first ≠ second) :
    writtenInOrder first second =
      (⟨((∅ : Table Binary64).set first ⟨0⟩).set second ⟨0⟩,
        ((∅ : Table Int64).set second 1).set first 1, "m.json", false⟩, .empty) := by
  have hfinite : (⟨0⟩ : Binary64).isFinite = true := by decide
  have hfirst : (∅ : Table Int64).add second 1 = .ok (1, (∅ : Table Int64).set second 1) :=
    (Table.add_ok_iff _ _ _ _ _).2 ⟨by simp [Table.total], rfl⟩
  have hsecond : ((∅ : Table Int64).set second 1).add first 1 =
      .ok (1, ((∅ : Table Int64).set second 1).set first 1) :=
    (Table.add_ok_iff _ _ _ _ _).2 ⟨by simp [Table.total, Table.get?_set, h.symm], rfl⟩
  simp only [writtenInOrder, Store.performAll, Store.perform, Store.wrap, operations, create,
    Table.writeGauge, checkGauge, hfinite, Table.writeCounter, hfirst, hsecond, Except.map, replace,
    if_true]

/-- The file of such a store can be written. -/
theorem dump_new (s : FileStore) (h : s.path = "m.json") : ∃ files, s.dump .empty = .ok files := by
  obtain ⟨files, hwrite⟩ := Files.writable_empty s.snapshotBytes
  unfold dump
  rw [h, hwrite]
  exact ⟨files, rfl⟩

/-- Two names written in one order and in the other are dumped alike, also
if the rows lie the other way round. -/
theorem snapshot_of_other_order :
    ∃ files files' content,
      (writtenInOrder "a" "b").1.dumpOf (.ordered _) (.reversed _) .empty = .ok files ∧
      (writtenInOrder "b" "a").1.dumpOf (.reversed _) (.ordered _) .empty = .ok files' ∧
      files.read "m.json" = .ok content ∧ files'.read "m.json" = .ok content := by
  obtain ⟨files, hfiles⟩ := dump_new (writtenInOrder "a" "b").1 (by
    rw [writtenInOrder_eq (by decide)])
  obtain ⟨files', hfiles'⟩ := dump_new (writtenInOrder "b" "a").1 (by
    rw [writtenInOrder_eq (by decide)])
  have hgauges : ∀ k, (writtenInOrder "a" "b").1.gauges.get? k =
      (writtenInOrder "b" "a").1.gauges.get? k := by
    intro k
    rw [writtenInOrder_eq (by decide), writtenInOrder_eq (by decide)]
    simp only [Table.get?_set]
    by_cases ha : "a" = k <;> by_cases hb : "b" = k <;> simp [ha, hb]
  have hcounters : ∀ k, (writtenInOrder "a" "b").1.counters.get? k =
      (writtenInOrder "b" "a").1.counters.get? k := by
    intro k
    rw [writtenInOrder_eq (by decide), writtenInOrder_eq (by decide)]
    simp only [Table.get?_set]
    by_cases ha : "a" = k <;> by_cases hb : "b" = k <;> simp [ha, hb]
  obtain ⟨-, hread, -⟩ := snapshot_canonical.2 _ _ (.ordered _) (.reversed _) (.reversed _)
    (.ordered _) hgauges hcounters
  rw [← dumpOf_eq (.ordered _) (.reversed _)] at hfiles
  rw [← dumpOf_eq (.reversed _) (.ordered _)] at hfiles'
  obtain ⟨content, hcontent, hcontent'⟩ := hread _ _ _ _ hfiles hfiles'
  refine ⟨files, files', content, hfiles, hfiles', ?_, ?_⟩
  · rw [writtenInOrder_eq (by decide)] at hcontent
    exact hcontent
  · rw [writtenInOrder_eq (by decide)] at hcontent'
    exact hcontent'

end FileStore

end Meterbank
