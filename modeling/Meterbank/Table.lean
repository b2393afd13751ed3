/-
  Meterbank.Table — named numbers.

  A table maps names to values and is ordered by name.  Gauges replace a
  value, counters add to it; both can be done for many names at once, and
  then either all of them are written or none.

  Main results:
    * `get?_set`, `get?_setRows` — what a table holds after writing.
    * `add_ok_iff` — adding gives the exact sum or is refused.
-/
import Meterbank.Metric.Basic
import Std.Data.ExtTreeMap

namespace Meterbank

/-! ## Tables -/

/-- A map from names to values, ordered by name. -/
abbrev Table (α : Type) := Std.ExtTreeMap String α compare

namespace Table

variable {α : Type}

/-- The value of a name, if it has one. -/
def get? (t : Table α) (key : String) : Option α := t[key]?

/-- Gives a name a value. -/
def set (t : Table α) (key : String) (value : α) : Table α := t.insert key value

/-- **Writing a name changes that name and no other.** -/
theorem get?_set (t : Table α) (key k : String) (value : α) :
    (t.set key value).get? k = if key = k then some value else t.get? k := by
  unfold get? set
  rw [Std.ExtTreeMap.getElem?_insert]
  simp only [Std.compare_eq_iff_eq]

/-- Gives every name of a list its value, from the left. -/
def setRows (t : Table α) (rows : List (String × α)) : Table α :=
  rows.foldl (fun t row => t.set row.1 row.2) t

/-- Gives every name of another table its value there. -/
def setAll (t values : Table α) : Table α := t.setRows values.toList

/-- The value a list of rows gives a name: that of the last row for it. -/
def lastOf? (rows : List (String × α)) (k : String) : Option α :=
  rows.foldl (fun found row => if row.1 = k then some row.2 else found) none

theorem foldl_lastOf (rows : List (String × α)) (k : String) (start : Option α) :
    rows.foldl (fun found row => if row.1 = k then some row.2 else found) start =
      (lastOf? rows k).or start := by
  unfold lastOf?
  induction rows generalizing start with
  | nil => rfl
  | cons row rows ih =>
    simp only [List.foldl_cons]
    rw [ih, ih (if row.1 = k then some row.2 else none)]
    by_cases h : row.1 = k
    · cases rows.foldl (fun found row => if row.1 = k then some row.2 else found) none <;> simp [h]
    · cases rows.foldl (fun found row => if row.1 = k then some row.2 else found) none <;> simp [h]

/-- **After writing rows a name has the value of its last row, or what it had.** -/
theorem get?_setRows (t : Table α) (rows : List (String × α)) (k : String) :
    (t.setRows rows).get? k = (lastOf? rows k).or (t.get? k) := by
  rw [← foldl_lastOf]
  unfold setRows
  induction rows generalizing t with
  | nil => rfl
  | cons row rows ih =>
    simp only [List.foldl_cons]
    rw [ih, get?_set]

/-! ## Reading by name -/

/-- The first of the names a table does not hold. -/
def firstMissing (t : Table α) (keys : List String) : Option String :=
  keys.find? fun key => (t.get? key).isNone

/-- Refuses to go on unless the table holds all the names. -/
def ensurePresent (kind : Kind) (keys : List String) (t : Table α) : Except StoreError Unit :=
  match t.firstMissing keys with
  | some key => .error (.notFound kind key)
  | none => .ok ()

/-- The part of a table that belongs to the names. -/
def restrict (t : Table α) (keys : List String) : Table α :=
  keys.foldl (fun found key =>
    match t.get? key with
    | some value => found.set key value
    | none => found) ∅

/-- The part of a table that belongs to the names, all of which must be
there.  No names at all ask for the whole table. -/
def select (kind : Kind) (t : Table α) (keys : List String) : Except StoreError (Table α) :=
  if keys.isEmpty then .ok t
  else
    match ensurePresent kind keys (t.restrict keys) with
    | .ok _ => .ok (t.restrict keys)
    | .error e => .error e

/-! ## Counters -/

/-- The total of a name; names without one start from zero. -/
def total (t : Table Int64) (key : String) : Int64 := (t.get? key).getD 0

/-- Adds to the total of a name and gives the new total. -/
def add (t : Table Int64) (key : String) (delta : Int64) :
    Except StoreError (Int64 × Table Int64) :=
  match checkedTotal key (t.total key) delta with
  | .ok next => .ok (next, t.set key next)
  | .error e => .error e

/-- **A total that was added to is the exact sum.** -/
theorem add_ok_iff (t t' : Table Int64) (key : String) (delta next : Int64) :
    t.add key delta = .ok (next, t') ↔
      next.toInt = (t.total key).toInt + delta.toInt ∧ t' = t.set key next := by
  rw [← checkedTotal_eq_ok_iff key]
  unfold add
  constructor
  · intro h
    split at h
    · next n hn =>
      simp only [Except.ok.injEq, Prod.mk.injEq] at h
      exact ⟨by rw [hn, h.1], by rw [← h.2, h.1]⟩
    · exact absurd h (by simp)
  · rintro ⟨h, rfl⟩
    simp [h]

/-- The new totals of the rows, all of which must be in the range. -/
def newTotals (t : Table Int64) : List (String × Int64) → Except StoreError (List (String × Int64))
  | [] => .ok []
  | (key, delta) :: rows =>
    match checkedTotal key (t.total key) delta with
    | .error e => .error e
    | .ok next =>
      match newTotals t rows with
      | .error e => .error e
      | .ok rest => .ok ((key, next) :: rest)

/-- Adds every delta of another table, or none of them if a total would
leave the range. -/
def addAll (t deltas : Table Int64) : Except StoreError (Table Int64) :=
  match t.newTotals deltas.toList with
  | .ok rows => .ok (t.setRows rows)
  | .error e => .error e

end Table

end Meterbank
