/-
  Meterbank.Number.Binary64 — gauge values: 64-bit binary floating point.

  A value is its 64 bits: a sign, eleven exponent bits, fifty-two fraction
  bits.  Keeping the bits makes equality decidable and exact — two zeros
  and all the NaNs stay apart — and the value of a finite one is the
  integer `significand` times a power of two, so every question about
  size and rounding is one about natural numbers.

  Main results:
    * `isFinite_iff_magnitude` — finite means that the exponent field is
      not all ones.
    * `ofParts_parts` — a value is put together from its sign and its
      magnitude.
-/

namespace Meterbank

/-! ## The bits -/

/-- A 64-bit floating-point value, given by its bits. -/
structure Binary64 where
  /-- Sign bit, exponent field and fraction field, from the top. -/
  bits : UInt64
  deriving DecidableEq, Inhabited, Repr

namespace Binary64

/-- Where the magnitudes of infinity and of the NaNs begin. -/
def infinityMagnitude : Nat := 2047 <<< 52

/-- All bits but the sign. -/
def magnitude (x : Binary64) : Nat := x.bits.toNat % (1 <<< 63)

/-- Whether the sign bit is set. -/
def isNegative (x : Binary64) : Bool := decide (1 <<< 63 ≤ x.bits.toNat)

/-- The value with this sign and these magnitude bits. -/
def ofParts (negative : Bool) (magnitude : Nat) : Binary64 :=
  ⟨UInt64.ofNat ((if negative then 1 <<< 63 else 0) + magnitude)⟩

/-- Neither an infinity nor a NaN. -/
def isFinite (x : Binary64) : Bool := decide (x.magnitude < infinityMagnitude)

/-- Not a number. -/
def isNaN (x : Binary64) : Bool := decide (infinityMagnitude < x.magnitude)

/-- Positive zero. -/
def zero : Binary64 := ⟨0⟩

/-- Either of the two zeros. -/
def isZero (x : Binary64) : Bool := x.magnitude == 0

/-- **A value is finite iff its magnitude lies below that of infinity.** -/
theorem isFinite_iff_magnitude (x : Binary64) :
    x.isFinite = true ↔ x.magnitude < infinityMagnitude := by
  simp [isFinite]

theorem toNat_lt (x : Binary64) : x.bits.toNat < UInt64.size := x.bits.toNat_lt

theorem ofParts_bits (negative : Bool) (m : Nat) (h : m < 1 <<< 63) :
    (ofParts negative m).bits.toNat = (if negative then 1 <<< 63 else 0) + m := by
  cases negative with
  | false | true =>
    simp [ofParts, UInt64.toNat_ofNat']
    omega

/-- **Every value is put together from its own sign and magnitude.** -/
theorem ofParts_parts (x : Binary64) : ofParts x.isNegative x.magnitude = x := by
  have hx := x.toNat_lt
  have hm : x.magnitude < 1 <<< 63 := Nat.mod_lt _ (by decide)
  have h : (ofParts x.isNegative x.magnitude).bits = x.bits := by
    apply UInt64.toNat_inj.1
    rw [ofParts_bits _ _ hm, isNegative, magnitude]
    simp only [Nat.reduceShiftLeft, UInt64.size] at hx ⊢
    by_cases hn : 9223372036854775808 ≤ x.bits.toNat
    · simp only [hn, decide_true, if_true]; omega
    · simp only [hn, decide_false, Bool.false_eq_true, if_false]; omega
  exact congrArg Binary64.mk h

/-! ## The number a finite value stands for -/

/-- The exponent field. -/
def exponentField (x : Binary64) : Nat := x.magnitude / (1 <<< 52)

/-- The integer part of the value's form `significand * 2 ^ power`. -/
def significand (x : Binary64) : Nat :=
  if x.exponentField = 0 then x.magnitude else x.magnitude % (1 <<< 52) + 1 <<< 52

/-- The exponent of the value's form `significand * 2 ^ power`. -/
def power (x : Binary64) : Int :=
  if x.exponentField = 0 then -1074 else (x.exponentField : Int) - 1075

/-- Compares a finite value with a quotient of integers: whether
`significand * 2 ^ power < num / den` for the unsigned value. -/
def magnitudeCompare (x : Binary64) (num den : Nat) : Ordering :=
  if 0 ≤ x.power then compare (x.significand <<< x.power.toNat * den) num
  else compare (x.significand * den) (num <<< (-x.power).toNat)

/-- The integer a finite value equals, if it equals one. -/
def toInt? (x : Binary64) : Option Int :=
  let sign : Int := if x.isNegative then -1 else 1
  if ! x.isFinite then none
  else if 0 ≤ x.power then some (sign * (x.significand <<< x.power.toNat : Nat))
  else
    let unit := 1 <<< (-x.power).toNat
    if x.significand % unit = 0 then some (sign * (x.significand / unit : Nat)) else none

/-- Whether two values are the same number.  The two zeros are; a NaN is
not even the same number as itself. -/
def sameNumber (x y : Binary64) : Bool :=
  ! x.isNaN && ! y.isNaN && (x == y || (x.isZero && y.isZero))

/-- Zero without its sign; every other value as it is. -/
def unsignedZero (x : Binary64) : Binary64 := if x.isZero then zero else x

/-- A value's order key: equal keys are equal numbers, and a smaller
number has a smaller key. -/
def orderKey (x : Binary64) : Int :=
  if x.isNegative then -(x.magnitude : Int) else x.magnitude

/-- Whether one number is less than another; never, if one is a NaN. -/
def less (x y : Binary64) : Bool :=
  ! x.isNaN && ! y.isNaN && decide (x.orderKey < y.orderKey)

/-! ## Text of the values that are not finite -/

/-- The text of an infinity or a NaN in messages.  Finite values have
texts of their own elsewhere. -/
def nonFiniteText (x : Binary64) : String :=
  if x.isNaN then "NaN" else if x.isNegative then "-inf" else "inf"

end Binary64

end Meterbank
