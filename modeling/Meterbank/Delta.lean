/-
  Meterbank.Delta — what a list of updates comes to.

  Updates are folded before they are applied: of a gauge only the last
  value remains, of a counter the sum of its deltas.  A fold whose sum
  leaves the 64-bit range on the way is refused.  Folded updates can be
  merged further, all or nothing.

  Main results:
    * `apply_eq_error_iff` — only a total out of the range is refused.
    * `ofUpdates_cons` — updates are folded one by one, from the left.
-/
import Meterbank.Table

namespace Meterbank

open Meterbank.Number

/-- Folded updates: last values of gauges, sums of counters. -/
structure Delta where
  gauges : Table Binary64
  counters : Table Int64

namespace Delta

/-- No updates. -/
def empty : Delta := ⟨∅, ∅⟩

/-- Whether there is nothing to apply. -/
def isEmpty (d : Delta) : Bool := d.gauges.isEmpty && d.counters.isEmpty

/-- How many metrics are touched. -/
def size (d : Delta) : Nat := d.gauges.size + d.counters.size

/-! ## Folding -/

/-- Folds one more update. -/
def apply (d : Delta) (u : Update) : Except StoreError Delta :=
  match u.sample with
  | .gauge x => .ok { d with gauges := d.gauges.set u.id x }
  | .counter delta =>
    match d.counters.add u.id delta with
    | .ok (_, counters) => .ok { d with counters }
    | .error e => .error e

/-- An update is refused exactly for the total of a counter. -/
theorem apply_eq_error_iff (d : Delta) (u : Update) (e : StoreError) :
    d.apply u = .error e ↔ ∃ delta, u.sample = .counter delta ∧
      inRange64 ((d.counters.total u.id).toInt + delta.toInt) = false ∧
        e = .validation (.overflow u.id (d.counters.total u.id) delta) := by
  unfold apply
  cases u.sample with
  | gauge x => simp
  | counter delta =>
    simp only [Sample.counter.injEq, exists_eq_left', ← checkedTotal_eq_error_iff]
    unfold Table.add
    cases checkedTotal u.id (d.counters.total u.id) delta <;> simp

/-- Folds updates from the left. -/
def applyAll (d : Delta) : List Update → Except StoreError Delta
  | [] => .ok d
  | u :: us =>
    match d.apply u with
    | .ok d => applyAll d us
    | .error e => .error e

/-- The fold of a list of updates. -/
def ofUpdates (us : List Update) : Except StoreError Delta := empty.applyAll us

/-- **Updates are folded one by one.** -/
theorem ofUpdates_cons (d d' : Delta) (u : Update) (us : List Update) :
    d.applyAll (u :: us) = .ok d' ↔ ∃ e, d.apply u = .ok e ∧ e.applyAll us = .ok d' := by
  rw [applyAll]
  split <;> next h => simp [h]

/-! ## Merging -/

/-- Merges the counters of another delta, all or nothing. -/
def mergeCounters (d e : Delta) : Except StoreError Delta :=
  match d.counters.addAll e.counters with
  | .ok counters => .ok { d with counters }
  | .error e => .error e

/-- Merges the gauges of another delta, which cannot fail. -/
def mergeGauges (d e : Delta) : Delta := { d with gauges := d.gauges.setAll e.gauges }

/-- Merges another delta.  Counters come first, as only they can refuse,
so a refusal leaves nothing behind. -/
def merge (d e : Delta) : Except StoreError Delta :=
  match d.mergeCounters e with
  | .ok d => .ok (d.mergeGauges e)
  | .error err => .error err

end Delta

end Meterbank
