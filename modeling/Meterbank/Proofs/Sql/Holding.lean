/-
  Meterbank.Proofs.Sql.Holding — relations that hold a table.

  A relation that only this library has written to has a text for each
  key, no key twice, and no bound; then it holds a table, that is, it says
  of each name what the table says.  Writing many rows in one statement
  acts row by row, so it comes to writing or adding them to the table.

  Main results:
    * `Holds.upsertRows` — many gauge rows overlay the table.
    * `Holds.accumulateRows` — many counter rows add to the table, and a
      row is left alone exactly when some total leaves its range.
    * `Holds.rows_perm` — the rows are the entries of the table.
-/
import Mathlib.Data.List.Nodup
import Mathlib.Data.List.Perm.Basic
import Meterbank.Proofs.Contents
import Meterbank.Sql.Relation

namespace Meterbank.Sql.Relation

open Meterbank.Number

variable {α : Type} {cell : α → Cell} {r : Relation} {t : Table α}

/-! ## Plain relations -/

/-- A relation as this library writes it. -/
structure Plain (r : Relation) : Prop where
  bound : r.bound = none
  texts : ∀ row ∈ r.rows, ∃ key, row.key = .text key
  nodup : (r.rows.map Row.key).Nodup

theorem plain_empty : Plain empty where
  bound := rfl
  texts row hrow := absurd hrow (by simp [empty])
  nodup := by simp [empty]

theorem keys_putRow (key : String) (value : Cell) (rows : List Row) :
    (putRow key value rows).map Row.key =
      if .text key ∈ rows.map Row.key then rows.map Row.key
      else rows.map Row.key ++ [.text key] := by
  induction rows with
  | nil => simp [putRow]
  | cons row rows ih =>
    unfold putRow
    by_cases hr : row.key = .text key
    · simp [hr]
    · rw [if_neg hr, List.map_cons, ih]
      simp only [List.map_cons]
      have hne : ¬ (Key.text key = row.key) := fun h => hr h.symm
      by_cases hm : Key.text key ∈ rows.map Row.key
      · rw [if_pos hm, if_pos (List.mem_cons_of_mem _ hm)]
      · rw [if_neg hm, if_neg, List.cons_append]
        rw [List.mem_cons, not_or]
        exact ⟨hne, hm⟩

/-- A relation stays plain when a key is given a value. -/
theorem Plain.put (h : Plain r) (key : String) (value : Cell) : Plain (r.put key value) where
  bound := h.bound
  texts := by
    intro row hrow
    have hkey : row.key ∈ (putRow key value r.rows).map Row.key := List.mem_map_of_mem hrow
    rw [keys_putRow] at hkey
    have hold : row.key ∈ r.rows.map Row.key → ∃ k, row.key = .text k := by
      intro hmem
      obtain ⟨old, hold, heq⟩ := List.mem_map.1 hmem
      obtain ⟨k, hk⟩ := h.texts old hold
      exact ⟨k, by rw [← heq, hk]⟩
    split at hkey
    · exact hold hkey
    · rcases List.mem_append.1 hkey with hmem | hmem
      · exact hold hmem
      · exact ⟨key, List.mem_singleton.1 hmem⟩
  nodup := by
    show ((putRow key value r.rows).map Row.key).Nodup
    rw [keys_putRow]
    split
    · exact h.nodup
    · next hm =>
      refine List.nodup_append.2 ⟨h.nodup, by simp, ?_⟩
      intro a ha b hb heq
      rw [List.mem_singleton.1 hb] at heq
      rw [heq] at ha
      exact hm ha

/-! ## What a relation holds -/

/-- A relation says of each name what the table says. -/
structure Holds (cell : α → Cell) (r : Relation) (t : Table α) : Prop where
  plain : Plain r
  find : ∀ k, r.find? k = (t.get? k).map cell

theorem holds_empty (cell : α → Cell) : Holds cell empty ∅ where
  plain := plain_empty
  find k := by
    rw [Table.get?_empty]
    rfl

/-- Giving a key a value sets it in the table. -/
theorem Holds.put (h : Holds cell r t) (key : String) (value : α) :
    Holds cell (r.put key (cell value)) (t.set key value) where
  plain := h.plain.put key _
  find k := by
    rw [find?_put, Table.get?_set, h.find k]
    by_cases hk : key = k
    · rw [if_pos hk, if_pos hk, Option.map_some]
    · rw [if_neg hk, if_neg hk]

theorem mem_rows_iff (h : Plain r) (key : String) (value : Cell) :
    (⟨.text key, value⟩ : Row) ∈ r.rows ↔ r.find? key = some value := by
  have hnodup := h.nodup
  unfold find?
  generalize r.rows = rows at hnodup ⊢
  induction rows with
  | nil => simp
  | cons row rows ih =>
    rw [List.map_cons, List.nodup_cons] at hnodup
    by_cases hr : row.key = .text key
    · rw [List.find?_cons_of_pos (by simpa using hr), List.mem_cons]
      -- The first row with the key is the only one.
      have hnot : (⟨.text key, value⟩ : Row) ∉ rows := by
        intro hmem
        have hkey : Key.text key ∈ rows.map Row.key := List.mem_map.2 ⟨_, hmem, rfl⟩
        rw [← hr] at hkey
        exact hnodup.1 hkey
      obtain ⟨k, v⟩ := row
      simp only at hr
      subst hr
      simp [hnot, eq_comm]
    · rw [List.find?_cons_of_neg (by simpa using hr), List.mem_cons]
      have hne : (⟨.text key, value⟩ : Row) ≠ row := by
        intro heq
        rw [← heq] at hr
        exact hr rfl
      rw [or_iff_right hne]
      exact ih hnodup.2

/-- The row of an entry of a table. -/
def rowOf (cell : α → Cell) (entry : String × α) : Row := ⟨.text entry.1, cell entry.2⟩

theorem rowOf_injective (hcell : Function.Injective cell) : Function.Injective (rowOf cell) := by
  rintro ⟨k₁, v₁⟩ ⟨k₂, v₂⟩ heq
  simp only [rowOf, Row.mk.injEq, Key.text.injEq] at heq
  rw [heq.1, hcell heq.2]

/-- **The rows are the entries of the table, in some order.** -/
theorem Holds.rows_perm (h : Holds cell r t) (hcell : Function.Injective cell) :
    r.rows.Perm (t.toList.map (rowOf cell)) := by
  have hrows : r.rows.Nodup := List.Nodup.of_map _ h.plain.nodup
  have hentries : (t.toList.map (rowOf cell)).Nodup :=
    List.Nodup.map (rowOf_injective hcell) (List.Nodup.of_map _ t.nodup_names)
  -- Neither has a row twice, so it is enough that they have the same ones.
  rw [List.perm_ext_iff_of_nodup hrows hentries]
  intro row
  constructor
  · intro hrow
    obtain ⟨key, hkey⟩ := h.plain.texts row hrow
    obtain ⟨k, v⟩ := row
    simp only at hkey
    subst hkey
    have hfind := (mem_rows_iff h.plain key v).1 hrow
    rw [h.find key] at hfind
    obtain ⟨value, hvalue, hv⟩ := Option.map_eq_some_iff.1 hfind
    exact List.mem_map.2 ⟨(key, value), (t.mem_toList_iff key value).2 hvalue, by rw [← hv, rowOf]⟩
  · intro hrow
    obtain ⟨⟨key, value⟩, hmem, hrow'⟩ := List.mem_map.1 hrow
    rw [← hrow', rowOf, mem_rows_iff h.plain, h.find key, (t.mem_toList_iff key value).1 hmem]
    rfl

/-- The rows are entries that say what the table says. -/
theorem Holds.entries (h : Holds cell r t) (hcell : Function.Injective cell) :
    ∃ entries, r.rows = entries.map (rowOf cell) ∧ ∀ k, Table.lastOf? entries k = t.get? k := by
  have hcomp := congrFun (congrFun (List.eq_map_comp_perm (rowOf cell)) r.rows) t.toList
  obtain ⟨entries, hrows, hentries⟩ := hcomp.mpr (h.rows_perm hcell)
  exact ⟨entries, hrows, Table.lastOf?_of_perm hentries⟩

/-! ## Gauges -/

/-- A finite value is stored without the sign of a zero. -/
theorem asGauge_real {x : Binary64} (h : x.isFinite = true) :
    (Cell.real x).asGauge = .real x.unsignedZero := by
  have hn : x.isNaN = false := by
    rw [Binary64.isFinite_iff_magnitude] at h
    simp only [Binary64.isNaN, decide_eq_false_iff_not]
    omega
  simp [Cell.asGauge, realAsGauge, hn]

variable {g : Table Binary64}

theorem Holds.upsert (h : Holds .real r g) {x : Binary64} (hx : x.isFinite = true) (key : String) :
    ∃ r', r.upsert key x = .ok r' ∧ Holds .real r' (g.set key x.unsignedZero) := by
  refine ⟨r.put key (.real x.unsignedZero), ?_, h.put key x.unsignedZero⟩
  unfold Relation.upsert
  simp only [asGauge_real hx]
  rw [allow_of_no_bound _ r _ h.plain.bound (by simp)]

/-- Rows of gauges as they are stored. -/
def storedRows (rows : List (String × Binary64)) : List (String × Binary64) :=
  rows.map fun row => (row.1, row.2.unsignedZero)

/-- **Many gauge rows overlay the table, the last one for a key winning.** -/
theorem Holds.upsertRows (h : Holds .real r g) {rows : List (String × Binary64)}
    (hx : ∀ row ∈ rows, row.2.isFinite = true) :
    ∃ r', r.upsertRows rows = .ok r' ∧ Holds .real r' (g.setRows (storedRows rows)) := by
  induction rows generalizing r g with
  | nil => exact ⟨r, rfl, h⟩
  | cons row rows ih =>
    rw [List.forall_mem_cons] at hx
    obtain ⟨r₁, h₁, hold₁⟩ := h.upsert hx.1 row.1
    obtain ⟨r₂, h₂, hold₂⟩ := ih hold₁ hx.2
    refine ⟨r₂, ?_, hold₂⟩
    rw [Relation.upsertRows, h₁]
    exact h₂

/-! ## Counters -/

variable {c : Table Int64}

/-- Adding to one key: the total is stored, or it would leave its range
and the row is left alone. -/
theorem Holds.accumulate (h : Holds .integer r c) (key : String) (delta : Int64) :
    r.accumulate key delta =
      .ok ((Total.add? (c.total key) delta).map fun total =>
        (total, r.put key (.integer total))) := by
  cases hv : c.get? key with
  | some n =>
    have hfind : r.find? key = some (.integer n) := by rw [h.find key, hv, Option.map_some]
    have htotal : c.total key = n := by rw [Table.total, hv, Option.getD_some]
    rw [accumulate_stored r key n delta h.plain.bound hfind, htotal]
  | none =>
    have hfind : r.find? key = none := by rw [h.find key, hv, Option.map_none]
    have hsum : Total.add? (c.total key) delta = some delta := by
      rw [Total.add?_eq_some_iff, Table.total, hv, Option.getD_none]
      simp
    rw [accumulate_new r key delta h.plain.bound hfind, hsum, Option.map_some]

/-- **Many counter rows add to the table.**  If no total leaves its range,
no row is left alone; if some total does, one is. -/
theorem Holds.accumulateRows (h : Holds .integer r c) {rows : List (String × Int64)}
    (hn : (rows.map Prod.fst).Nodup) :
    ∃ skipped r', r.accumulateRows rows = .ok (skipped, r') ∧
      match c.newTotals rows with
      | .ok totals => skipped = 0 ∧ Holds .integer r' (c.setRows totals)
      | .error _ => skipped ≠ 0 := by
  induction rows generalizing r c with
  | nil => exact ⟨0, r, rfl, rfl, h⟩
  | cons row rows ih =>
    obtain ⟨key, delta⟩ := row
    rw [List.map_cons, List.nodup_cons] at hn
    rw [Relation.accumulateRows, h.accumulate key delta, Table.newTotals]
    unfold checkedTotal
    cases hsum : Total.add? (c.total key) delta with
    | none =>
      -- The row is left alone; the others do not make up for it.
      obtain ⟨skipped, r', hrows, -⟩ := ih h hn.2
      refine ⟨skipped + 1, r', ?_, Nat.succ_ne_zero _⟩
      simp only [Option.map_none]
      rw [hrows]
      rfl
    | some total =>
      obtain ⟨skipped, r', hrows, hmatch⟩ := ih (h.put key total) hn.2
      refine ⟨skipped, r', hrows, ?_⟩
      rw [Table.newTotals_set hn.1] at hmatch
      simp only
      cases hrest : c.newTotals rows with
      | error e | ok totals =>
        rw [hrest] at hmatch
        exact hmatch

end Meterbank.Sql.Relation
