/-
  Meterbank.Number.IntegerText — reading a 64-bit integer from text.

  The grammar is an optional sign and one or more ASCII digits, with
  nothing before or after.  The text is read from the left, so of a bad
  character and a number that leaves the 64-bit range the one that comes
  first is reported.

  Main result:
    * `scanDigits_ok_inRange` — a number that was read lies in the range.
-/
import Meterbank.Number.FloatText

namespace Meterbank.Number

/-! ## The range -/

/-- Whether an integer is a signed 64-bit one. -/
def inRange64 (n : Int) : Bool := decide (Int64.minValue.toInt ≤ n ∧ n ≤ Int64.maxValue.toInt)

/-- **Exactly the integers of the range are their own 64-bit value.** -/
theorem toInt_ofInt_of_inRange {n : Int} (h : inRange64 n = true) : (Int64.ofInt n).toInt = n := by
  simp only [inRange64, decide_eq_true_eq] at h
  exact Int64.toInt_ofInt_of_le h.1 (Int.lt_of_le_sub_one h.2)

theorem inRange64_toInt (x : Int64) : inRange64 x.toInt = true := by
  have h1 := x.le_toInt
  have h2 := x.toInt_lt
  simp only [inRange64, decide_eq_true_eq]
  exact ⟨h1, Int.le_sub_one_of_lt h2⟩

/-! ## Reading -/

/-- Why a text is not a 64-bit integer. -/
inductive IntegerTextError where
  /-- There is no text. -/
  | empty
  /-- A character is no digit, or a sign stands alone. -/
  | invalidDigit
  /-- The number is above the range. -/
  | tooLarge
  /-- The number is below the range. -/
  | tooSmall
  deriving DecidableEq, Repr

/-- The wording of a refusal. -/
def IntegerTextError.message : IntegerTextError → String
  | .empty => "cannot parse integer from empty string"
  | .invalidDigit => "invalid digit found in string"
  | .tooLarge => "number too large to fit in target type"
  | .tooSmall => "number too small to fit in target type"

/-- The number with one more digit, away from zero. -/
def appendDigit (negative : Bool) (soFar : Int) (c : Char) : Int :=
  let digit : Int := (c.toNat - '0'.toNat : Nat)
  10 * soFar + (if negative then -digit else digit)

/-- Reads digits from the left onto the number read so far. -/
def scanDigits (negative : Bool) (soFar : Int) : List Char → Except IntegerTextError Int
  | [] => .ok soFar
  | c :: cs =>
    if ! c.isDigit then .error .invalidDigit
    else if ! inRange64 (appendDigit negative soFar c) then
      .error (if negative then .tooSmall else .tooLarge)
    else scanDigits negative (appendDigit negative soFar c) cs

/-- The integer a text names. -/
def readInteger (cs : List Char) : Except IntegerTextError Int64 :=
  if cs.isEmpty then .error .empty
  else
    let (negative, digits) := splitSign cs
    if digits.isEmpty then .error .invalidDigit
    else (scanDigits negative 0 digits).map Int64.ofInt

/-- **A number that was read lies in the range.** -/
theorem scanDigits_ok_inRange (negative : Bool) (cs : List Char) (soFar n : Int)
    (hs : inRange64 soFar = true) (h : scanDigits negative soFar cs = .ok n) :
    inRange64 n = true := by
  induction cs generalizing soFar with
  | nil =>
    simp only [scanDigits, Except.ok.injEq] at h
    rw [← h]; exact hs
  | cons c cs ih =>
    unfold scanDigits at h
    split at h
    · exact absurd h (by simp)
    · split at h
      · exact absurd h (by simp)
      · next hr => exact ih _ (by simpa using hr) h

/-! ## Writing -/

/-- The decimal text of an integer, with a sign only if it is negative. -/
def integerDigits (n : Int) : List Char :=
  if n < 0 then '-' :: Nat.toDigits 10 n.natAbs else Nat.toDigits 10 n.natAbs

/-- The decimal text of an integer. -/
def integerText (n : Int) : String := String.ofList (integerDigits n)

end Meterbank.Number
