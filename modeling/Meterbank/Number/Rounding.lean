/-
  Meterbank.Number.Rounding — from decimals to the nearest binary value.

  A decimal text names the number `digits * 10 ^ exponent`; the value
  stored is the binary one nearest to it, the even one of two that are
  equally near, and infinity from half a unit above the largest finite
  value on.  All of it is exact arithmetic on natural numbers.

  Main result:
    * `divHalfEven_exact` — an exact quotient is not changed by rounding.
-/
import Meterbank.Number.Binary64

namespace Meterbank.Number

/-! ## Rounding a quotient -/

/-- `num / den` to the nearest integer, the even one when both are equally near. -/
def divHalfEven (num den : Nat) : Nat :=
  let q := num / den
  let r := num % den
  if 2 * r > den || (2 * r == den && q % 2 == 1) then q + 1 else q

/-- **An exact quotient is kept.** -/
theorem divHalfEven_exact (k den : Nat) (h : 0 < den) : divHalfEven (k * den) den = k := by
  simp only [divHalfEven, Nat.mul_div_cancel k h, Nat.mul_mod_left, Nat.mul_zero]
  have h1 : ¬ (0 > den) := by omega
  have h2 : (0 == den) = false := by
    simp only [beq_eq_false_iff_ne, ne_eq]; omega
  simp [h1, h2]

/-- The integer part of the binary logarithm of `num / den`, for positive
`num` and `den`. -/
def floorLog2 (num den : Nat) : Int :=
  let guess : Int := (Nat.log2 num : Int) - (Nat.log2 den : Int)
  -- the quotient lies strictly between 2 ^ (guess - 1) and 2 ^ (guess + 1)
  let reached : Bool :=
    if 0 ≤ guess then decide (den <<< guess.toNat ≤ num)
    else decide (den ≤ num <<< (-guess).toNat)
  if reached then guess else guess - 1

/-- The magnitude bits of the binary value nearest to `num / den`; at
least `Binary64.infinityMagnitude` if that is beyond the finite ones. -/
def quotientMagnitude (num den : Nat) : Nat :=
  if num = 0 then 0
  else
    let power : Int := max (floorLog2 num den - 52) (-1074)
    let significand :=
      if 0 ≤ power then divHalfEven num (den <<< power.toNat)
      else divHalfEven (num <<< (-power).toNat) den
    (power + 1074).toNat <<< 52 + significand

/-! ## Decimals -/

/-- The number of decimal digits of a number; zero has none. -/
def digitCount (n : Nat) : Nat :=
  if n = 0 then 0 else (Nat.toDigits 10 n).length

/-- The magnitude bits of the binary value nearest to `digits * 10 ^ exponent`.
No power is formed for numbers that are certainly too large or too small. -/
def decimalMagnitude (digits : Nat) (exponent : Int) : Nat :=
  if digits = 0 then 0
  else
    let leading : Int := (digitCount digits : Int) + exponent
    if leading > 310 then Binary64.infinityMagnitude
    else if leading < -330 then 0
    else if 0 ≤ exponent then
      min (quotientMagnitude (digits * Nat.pow 10 exponent.toNat) 1) Binary64.infinityMagnitude
    else
      min (quotientMagnitude digits (Nat.pow 10 (-exponent).toNat)) Binary64.infinityMagnitude

/-- The binary value nearest to `± digits * 10 ^ exponent`. -/
def nearest (negative : Bool) (digits : Nat) (exponent : Int) : Binary64 :=
  Binary64.ofParts negative (decimalMagnitude digits exponent)

end Meterbank.Number
