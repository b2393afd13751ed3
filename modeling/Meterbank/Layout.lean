/-
  Meterbank.Layout — the rows of a table in the order in which they lie.

  A table is a map, and the rows of a map lie in memory in an order that
  depends on what was written before, and on nothing a caller knows.
  What goes through the rows of a table is given them in such an order,
  and must come to the same for each.

  Main results:
    * `lastOf?_rows` — a name has one value, wherever its row lies.
    * `pairwise_sortRows` — sorting puts the rows in one order.
-/
import Meterbank.Proofs.Contents
import Meterbank.Text.Utf8

namespace Meterbank

variable {α : Type}

namespace Table

/-- The rows of a table, in some order. -/
structure Layout (t : Table α) where
  rows : List (String × α)
  perm : rows.Perm t.toList

namespace Layout

variable {t : Table α}

/-- A table whose rows lie in the order of their names. -/
def ordered (t : Table α) : t.Layout := ⟨t.toList, .refl _⟩

/-- A table whose rows lie the other way round. -/
def reversed (t : Table α) : t.Layout := ⟨t.toList.reverse, t.toList.reverse_perm⟩

theorem mem_rows_iff (l : t.Layout) (k : String) (v : α) : (k, v) ∈ l.rows ↔ t.get? k = some v := by
  rw [l.perm.mem_iff, mem_toList_iff]

theorem nodup_names (l : t.Layout) : (l.rows.map Prod.fst).Nodup :=
  (l.perm.map Prod.fst).nodup_iff.2 t.nodup_names

/-- **A name has one value, wherever its row lies.** -/
theorem lastOf?_rows (l : t.Layout) (k : String) : lastOf? l.rows k = t.get? k :=
  lastOf?_of_perm l.perm k

end Layout

end Table

/-- Rows sorted by the bytes of their names. -/
def sortRows (rows : List (String × α)) : List (String × α) :=
  rows.mergeSort fun a b => decide (Text.bytes a.1 ≤ Text.bytes b.1)

theorem sortRows_perm (rows : List (String × α)) : (sortRows rows).Perm rows :=
  List.mergeSort_perm _ _

/-- **Sorted rows are in the order of the bytes of their names.** -/
theorem pairwise_sortRows (rows : List (String × α)) :
    (sortRows rows).Pairwise fun a b => Text.bytes a.1 ≤ Text.bytes b.1 := by
  have hle : (sortRows rows).Pairwise fun a b => decide (Text.bytes a.1 ≤ Text.bytes b.1) = true := by
    refine List.pairwise_mergeSort (fun a b c hab hbc => ?_) (fun a b => ?_) rows
    · exact decide_eq_true (List.le_trans (of_decide_eq_true hab) (of_decide_eq_true hbc))
    · simpa using List.le_total (Text.bytes a.1) (Text.bytes b.1)
  exact hle.imp of_decide_eq_true

end Meterbank
