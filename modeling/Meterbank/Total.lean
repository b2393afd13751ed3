/-
  Meterbank.Total — counter totals: signed 64-bit integers that never wrap.

  A counter holds the sum of all deltas written to it.  A sum that would
  leave the 64-bit range is refused, so a total is always the exact sum.

  Main result:
    * `add?_eq_some_iff` — adding succeeds exactly when the exact sum is
      in the range, and then the total is that sum.
-/
import Meterbank.Number.IntegerText

namespace Meterbank

open Meterbank.Number

namespace Total

/-- The sum of a total and a delta, unless it leaves the range. -/
def add? (total delta : Int64) : Option Int64 :=
  if inRange64 (total.toInt + delta.toInt) then some (Int64.ofInt (total.toInt + delta.toInt))
  else none

/-- **A total is the exact sum, or there is none.** -/
theorem add?_eq_some_iff (total delta next : Int64) :
    add? total delta = some next ↔ next.toInt = total.toInt + delta.toInt := by
  unfold add?
  constructor
  · intro h
    split at h
    · next hr =>
      injection h with h
      rw [← h]; exact toInt_ofInt_of_inRange hr
    · exact absurd h (by simp)
  · intro h
    have hr := inRange64_toInt next
    rw [h] at hr
    simp only [hr, if_true, Option.some.injEq]
    apply Int64.toInt_inj.1
    rw [toInt_ofInt_of_inRange hr, h]

/-- Adding fails exactly when the exact sum leaves the range. -/
theorem add?_eq_none_iff (total delta : Int64) :
    add? total delta = none ↔ inRange64 (total.toInt + delta.toInt) = false := by
  simp only [add?]
  split
  · next h => simp [h]
  · next h => simpa using h

end Total

end Meterbank
