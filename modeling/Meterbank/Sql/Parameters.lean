/-
  Meterbank.Sql.Parameters — numbered parameters of statements of many rows.

  A statement of many rows names its parameters by number, two for a row,
  and is given the keys and values in a list.  What it writes are the rows
  that the numbers find in that list.

  Main result:
    * `rowsWritten_parameters` — a statement for as many rows as it is
      given writes those rows, in their order.
-/
import Mathlib.Data.List.Range

namespace Meterbank.Sql

/-- What is put in the place of a parameter. -/
inductive Parameter (α : Type) where
  | key (s : String)
  | value (a : α)
  deriving DecidableEq, Repr

/-- The numbers of the two parameters of each of so many rows. -/
def marks (rows : Nat) : List (Nat × Nat) :=
  (List.range rows).map fun i => (i * 2 + 1, i * 2 + 2)

/-- The text for so many rows, which names the parameters. -/
def valuesClause (rows : Nat) : String :=
  String.intercalate "," ((marks rows).map fun mark => s!"(?{mark.1},?{mark.2})")

example : valuesClause 3 = "(?1,?2),(?3,?4),(?5,?6)" := by decide +kernel

section

variable {α : Type}

/-- The parameters of rows, in the order in which they are given. -/
def parameters : List (String × α) → List (Parameter α)
  | [] => []
  | (key, value) :: rows => .key key :: .value value :: parameters rows

/-- The parameter with a number.  The first one has the number one. -/
def parameter? (given : List (Parameter α)) : Nat → Option (Parameter α)
  | 0 => none
  | n + 1 => given[n]?

/-- The row of two numbers, if they are those of a key and of a value. -/
def rowAt (given : List (Parameter α)) (mark : Nat × Nat) : Option (String × α) :=
  match parameter? given mark.1, parameter? given mark.2 with
  | some (.key key), some (.value value) => some (key, value)
  | _, _ => none

/-- The rows that a statement with such numbers writes. -/
def rowsWritten (marks : List (Nat × Nat)) (given : List (Parameter α)) :
    Option (List (String × α)) :=
  marks.mapM (rowAt given)

/-- The numbers of a first row are one and two, and those of the others
are two more than without it. -/
theorem marks_succ (n : Nat) :
    marks (n + 1) = (1, 2) :: (marks n).map fun mark => (mark.1 + 2, mark.2 + 2) := by
  unfold marks
  rw [List.range_succ_eq_map, List.map_cons, List.map_map, List.map_map]
  congr 1
  apply List.map_congr_left
  intro i _
  show ((i + 1) * 2 + 1, (i + 1) * 2 + 2) = (i * 2 + 1 + 2, i * 2 + 2 + 2)
  rw [Nat.succ_mul]

/-- Numbers start at one. -/
theorem marks_pos {n : Nat} {mark : Nat × Nat} (h : mark ∈ marks n) : 0 < mark.1 ∧ 0 < mark.2 := by
  obtain ⟨i, -, rfl⟩ := List.mem_map.1 h
  exact ⟨Nat.succ_pos _, Nat.succ_pos _⟩

/-- A row behind another one is found two numbers later. -/
theorem rowAt_cons (row : String × α) (rows : List (String × α)) {mark : Nat × Nat}
    (h : 0 < mark.1 ∧ 0 < mark.2) :
    rowAt (parameters (row :: rows)) (mark.1 + 2, mark.2 + 2) = rowAt (parameters rows) mark := by
  obtain ⟨i, j⟩ := mark
  obtain ⟨i, rfl⟩ := Nat.exists_eq_succ_of_ne_zero h.1.ne'
  obtain ⟨j, rfl⟩ := Nat.exists_eq_succ_of_ne_zero h.2.ne'
  rfl

/-- Rows behind another one are found two numbers later. -/
theorem rowsWritten_cons (row : String × α) (rows : List (String × α)) {marks : List (Nat × Nat)}
    (h : ∀ mark ∈ marks, 0 < mark.1 ∧ 0 < mark.2) :
    rowsWritten (marks.map fun mark => (mark.1 + 2, mark.2 + 2)) (parameters (row :: rows)) =
      rowsWritten marks (parameters rows) := by
  unfold rowsWritten
  induction marks with
  | nil => rfl
  | cons mark marks ih =>
    rw [List.forall_mem_cons] at h
    rw [List.map_cons, List.mapM_cons, List.mapM_cons, rowAt_cons row rows h.1, ih h.2]

/-- **A statement for as many rows as it is given writes those rows.** -/
theorem rowsWritten_parameters (rows : List (String × α)) :
    rowsWritten (marks rows.length) (parameters rows) = some rows := by
  induction rows with
  | nil => rfl
  | cons row rows ih =>
    have hrest := rowsWritten_cons row rows fun mark (hmark : mark ∈ marks rows.length) => marks_pos hmark
    rw [ih] at hrest
    unfold rowsWritten at hrest ⊢
    rw [List.length_cons, marks_succ, List.mapM_cons, hrest]
    rfl

end

end Meterbank.Sql
