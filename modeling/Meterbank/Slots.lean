/-
  Meterbank.Slots — folding in place.

  A delta that grows in place has a slot for each of its counters.  A
  counter update first finds its slot, or makes one that holds zero, and
  only then checks the sum; if the sum leaves the range the update is
  refused, and the slot is not taken away again.  But a slot that was just
  made holds zero, and whatever is added to zero is in the range.  So a
  refused update has not made its slot, and leaves nothing behind.

  Main results:
    * `fold_eq` — folding in place is folding, or leaves what was there.
    * `applyAll_accepted` — going on after refusals folds the updates that
      are accepted.
-/
import Meterbank.Delta

namespace Meterbank

/-! ## Slots -/

namespace Table

/-- The table with a slot for a name.  A new slot holds zero. -/
def slotted (t : Table Int64) (key : String) : Table Int64 :=
  match t.get? key with
  | some _ => t
  | none => t.set key 0

/-- A slot does not change what a name comes to. -/
theorem total_slotted (t : Table Int64) (key : String) :
    (t.slotted key).total key = t.total key := by
  unfold slotted total
  cases h : t.get? key with
  | some n => simp only [h]
  | none => simp only [get?_set, if_true, Option.getD_some, Option.getD_none]

/-- What is written to a slot is there as if the slot had always been. -/
theorem slotted_set (t : Table Int64) (key : String) (n : Int64) :
    (t.slotted key).set key n = t.set key n := by
  unfold slotted
  cases h : t.get? key with
  | some m => rfl
  | none =>
    refine Std.ExtTreeMap.ext_getElem? fun {k} => ?_
    show ((t.set key 0).set key n).get? k = (t.set key n).get? k
    rw [get?_set, get?_set, get?_set]
    split <;> rfl

/-- A sum is refused only if the name had a slot. -/
theorem slotted_of_refused {t : Table Int64} {key : String} {delta : Int64} {e : StoreError}
    (h : checkedTotal key (t.total key) delta = .error e) : t.slotted key = t := by
  unfold slotted
  cases hslot : t.get? key with
  | some n => rfl
  | none =>
    -- What is added to nothing is in the range.
    have hzero : checkedTotal key (t.total key) delta = .ok delta := by
      rw [checkedTotal_eq_ok_iff, total, hslot, Option.getD_none, Int64.toInt_zero,
        Int.zero_add]
    rw [hzero] at h
    exact absurd h (by simp)

end Table

namespace Delta

/-! ## One update -/

/-- Folds one more update in place.  Gives the answer, and what is left. -/
def fold (d : Delta) (u : Update) : Except StoreError Unit × Delta :=
  match u.sample with
  | .gauge x => (.ok (), { d with gauges := d.gauges.set u.id x })
  | .counter delta =>
    -- The slot is made before the sum is checked.
    let counters := d.counters.slotted u.id
    match checkedTotal u.id (counters.total u.id) delta with
    | .ok next => (.ok (), { d with counters := counters.set u.id next })
    | .error e => (.error e, { d with counters })

/-- **Folding in place is folding, or leaves what was there.** -/
theorem fold_eq (d : Delta) (u : Update) :
    d.fold u =
      match d.apply u with
      | .ok e => (.ok (), e)
      | .error err => (.error err, d) := by
  unfold fold apply
  cases u.sample with
  | gauge x => rfl
  | counter delta =>
    simp only [Table.total_slotted, Table.slotted_set]
    unfold Table.add
    cases h : checkedTotal u.id (d.counters.total u.id) delta with
    | ok next => rfl
    | error e => simp only [Table.slotted_of_refused h]

/-! ## Many updates -/

/-- Folds updates in place, going on after those that are refused.  Gives
all answers, and what is left. -/
def foldAll (d : Delta) : List Update → List (Except StoreError Unit) × Delta
  | [] => ([], d)
  | u :: us =>
    let rest := (d.fold u).2.foldAll us
    ((d.fold u).1 :: rest.1, rest.2)

/-- The updates that were accepted, by the answers. -/
def accepted (us : List Update) (answers : List (Except StoreError Unit)) : List Update :=
  ((us.zip answers).filter fun row => row.2.isOk).map Prod.fst

/-- **Going on after refusals folds the updates that are accepted**, and
none of them is refused then. -/
theorem applyAll_accepted (d : Delta) (us : List Update) :
    d.applyAll (accepted us (d.foldAll us).1) = .ok (d.foldAll us).2 := by
  induction us generalizing d with
  | nil => rfl
  | cons u us ih =>
    have hfold := d.fold_eq u
    have hrest := ih (d.fold u).2
    unfold foldAll
    cases hu : d.apply u with
    | ok e =>
      rw [hu] at hfold
      rw [hfold] at hrest ⊢
      show d.applyAll (u :: accepted us (e.foldAll us).1) = _
      rw [applyAll, hu]
      exact hrest
    | error err =>
      rw [hu] at hfold
      rw [hfold] at hrest ⊢
      exact hrest

end Delta

end Meterbank
