/-
  Meterbank.Number.Stepwise — decimals scaled step by step.

  A database reads a decimal text faster than exactly: it keeps about
  nineteen digits, and then multiplies by powers of ten, a hundred, ten
  or one at a time, with 64 significant bits after each step.  The result
  is often the nearest value, and else a neighbour of it.
-/
import Meterbank.Number.Rounding

namespace Meterbank.Number

/-! ## Sixty-four significant bits -/

/-- The number `significand * 2 ^ power`. -/
structure Wide where
  significand : Nat
  power : Int
  deriving DecidableEq, Inhabited, Repr

namespace Wide

/-- The number nearest to `num / den * 2 ^ power` with 64 significant bits. -/
def round (num den : Nat) (power : Int) : Wide :=
  if num = 0 then ⟨0, 0⟩
  else
    let shift : Int := floorLog2 num den - 63
    let significand :=
      if 0 ≤ shift then divHalfEven num (den <<< shift.toNat)
      else divHalfEven (num <<< (-shift).toNat) den
    ⟨significand, shift + power⟩

/-- A natural number as it is. -/
def ofNat (n : Nat) : Wide := ⟨n, 0⟩

/-- The product, to 64 significant bits. -/
def mul (x y : Wide) : Wide := round (x.significand * y.significand) 1 (x.power + y.power)

/-- A power of ten, to 64 significant bits. -/
def powerOfTen (k : Int) : Wide :=
  if 0 ≤ k then round (Nat.pow 10 k.toNat) 1 0 else round 1 (Nat.pow 10 (-k).toNat) 0

/-- The product with a power of ten, in steps of a hundred powers, ten
powers and one power, as many of each as fit. -/
def scale (x : Wide) (exponent : Int) : Wide :=
  let steps := exponent.natAbs
  let unit : Int := if 0 ≤ exponent then 1 else -1
  let x := Nat.repeat (·.mul (powerOfTen (100 * unit))) (steps / 100) x
  let x := Nat.repeat (·.mul (powerOfTen (10 * unit))) (steps % 100 / 10) x
  Nat.repeat (·.mul (powerOfTen unit)) (steps % 10) x

/-- The largest finite magnitude as a number. -/
def largest : Nat := (1 <<< 53 - 1) <<< 971

/-- The magnitude bits of the nearest value; infinity for all numbers
above the largest finite one.  No power is formed for numbers that are
certainly too large or too small. -/
def magnitude (x : Wide) : Nat :=
  if x.significand = 0 then 0
  else
    let leading : Int := (Nat.log2 x.significand : Int) + x.power
    if leading > 1100 then Binary64.infinityMagnitude
    else if leading < -1200 then 0
    else if 0 ≤ x.power then
      if largest < x.significand <<< x.power.toNat then Binary64.infinityMagnitude
      else quotientMagnitude (x.significand <<< x.power.toNat) 1
    else if largest <<< (-x.power).toNat < x.significand then Binary64.infinityMagnitude
    else quotientMagnitude x.significand (1 <<< (-x.power).toNat)

end Wide

/-! ## Keeping digits -/

/-- From here on no further digit is kept. -/
def digitLimit : Nat := 1844674407370955160

/-- Digits in front of the point: the number they make, and how many were
not kept. -/
def keepWhole (digits : List Nat) : Nat × Nat :=
  digits.foldl (fun (n, left) d => if n < digitLimit then (10 * n + d, left) else (n, left + 1))
    (0, 0)

/-- Digits behind the point, onto a number: the number, and how many were
kept. -/
def keepFraction (n : Nat) (digits : List Nat) : Nat × Nat :=
  digits.foldl (fun (n, kept) d => if n < digitLimit then (10 * n + d, kept + 1) else (n, kept))
    (n, 0)

/-- Moves tens from an exponent into a number, as long as it stays short. -/
def absorb : Nat → Nat → Nat × Nat
  | n, 0 => (n, 0)
  | n, exponent + 1 => if n ≤ digitLimit then absorb (10 * n) exponent else (n, exponent + 1)

/-- Moves tens from a number into a negative exponent, as long as it has
any. -/
def release : Nat → Nat → Nat × Nat
  | n, 0 => (n, 0)
  | n, below + 1 => if n % 10 = 0 then release (n / 10) below else (n, below + 1)

/-- The value of a decimal, read step by step. -/
def stepwise (negative : Bool) (whole fraction : List Nat) (exponent : Int) : Binary64 :=
  let (n, left) := keepWhole whole
  let (n, kept) := keepFraction n fraction
  let exponent : Int := exponent + left - kept
  Binary64.ofParts negative <|
    if n = 0 then 0
    else if 0 ≤ exponent then
      let (n, exponent) := absorb n exponent.toNat
      ((Wide.ofNat n).scale exponent).magnitude
    else
      let (n, below) := release n exponent.natAbs
      ((Wide.ofNat n).scale (-(below : Int))).magnitude

end Meterbank.Number
