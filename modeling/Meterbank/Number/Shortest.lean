/-
  Meterbank.Number.Shortest — the fewest digits that read back.

  A gauge value is written with as few digits as can be without losing
  it: of all decimals that round to the value, one with the fewest
  significant digits, of those the nearest to the value, and of two
  equally near the one whose last digit is even.

  The digits are found by trying one digit, two digits, and so on.  On
  the grid of decimals with so many digits only the two neighbours of
  the value can be nearest to it, and each is tried by reading it back.
  Seventeen digits always suffice; the exact expansion, which always
  reads back too, stands at the end so that the search is total.

  Main result:
    * `shortest_readsBack_or_exact` — the digits found read back, or they
      are the exact expansion.
-/
import Meterbank.Number.Rounding

namespace Meterbank.Number

/-! ## Decimals -/

/-- A decimal `digits * 10 ^ exponent`. -/
structure Decimal where
  /-- The significant digits, read as one number. -/
  digits : Nat
  /-- The power of ten they count. -/
  exponent : Int
  deriving DecidableEq, Inhabited, Repr

/-- Whether a decimal is rounded to the value's magnitude. -/
def Decimal.readsBack (d : Decimal) (x : Binary64) : Bool :=
  decimalMagnitude d.digits d.exponent == x.magnitude

/-- Drops up to so many zeros from the end of the digits. -/
def Decimal.dropZeros : Nat → Decimal → Decimal
  | 0, d => d
  | n + 1, d =>
    if d.digits ≠ 0 ∧ d.digits % 10 = 0 then
      Decimal.dropZeros n ⟨d.digits / 10, d.exponent + 1⟩
    else d

/-! ## The exact expansion -/

/-- A finite value's magnitude as a decimal, exactly. -/
def exactDecimal (x : Binary64) : Decimal :=
  if 0 ≤ x.power then ⟨x.significand <<< x.power.toNat, 0⟩
  else ⟨x.significand * Nat.pow 5 (-x.power).toNat, x.power⟩

/-! ## The search -/

/-- The two neighbours of an exact decimal on the grid of its multiples
of `10 ^ drop`, the nearer one first, an even one first if both are
equally near. -/
def neighbours (d : Decimal) (drop : Nat) : List Decimal :=
  let unit := Nat.pow 10 drop
  let low := d.digits / unit
  let rest := d.digits % unit
  let below : Decimal := ⟨low, d.exponent + drop⟩
  let above : Decimal := ⟨low + 1, d.exponent + drop⟩
  if 2 * rest < unit || (2 * rest == unit && low % 2 == 0) then [below, above] else [above, below]

/-- The first neighbour that reads back, on grids that get finer: the
grids drop `drop`, `drop - 1`, … digits of the exact expansion. -/
def firstReadBack (x : Binary64) (d : Decimal) : Nat → Option Decimal
  | 0 => none
  | drop + 1 =>
    match (neighbours d (drop + 1)).find? (·.readsBack x) with
    | some found => some found
    | none => firstReadBack x d drop

/-- The digits to write for a finite value's magnitude. -/
def shortest (x : Binary64) : Decimal :=
  let exact := exactDecimal x
  let found := (firstReadBack x exact (digitCount exact.digits)).getD exact
  found.dropZeros (digitCount found.digits)

/-- What the search finds reads back. -/
theorem firstReadBack_readsBack (x : Binary64) (d : Decimal) (n : Nat) (r : Decimal)
    (h : firstReadBack x d n = some r) : r.readsBack x = true := by
  induction n with
  | zero => simp [firstReadBack] at h
  | succ n ih =>
    unfold firstReadBack at h
    split at h
    · next found hf =>
      injection h with h
      subst h
      simpa using List.find?_some hf
    · exact ih h

/-- **Before zeros are dropped, the digits read back or are exact.** -/
theorem shortest_readsBack_or_exact (x : Binary64) :
    ((firstReadBack x (exactDecimal x) (digitCount (exactDecimal x).digits)).getD
        (exactDecimal x)).readsBack x = true ∨
      (firstReadBack x (exactDecimal x) (digitCount (exactDecimal x).digits)).getD
        (exactDecimal x) = exactDecimal x := by
  rcases h : firstReadBack x (exactDecimal x) (digitCount (exactDecimal x).digits) with _ | r
  · right; rfl
  · left; exact firstReadBack_readsBack x _ _ r h

end Meterbank.Number
