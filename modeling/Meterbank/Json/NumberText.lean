/-
  Meterbank.Json.NumberText — numbers as JSON documents show them.

  A float is written with the fewest digits that read back.  With the
  decimal point before digit `k + 1` the notation is positional for
  `-5 < k ≤ 16`, always with a digit on both sides of the point, and
  scientific otherwise, with a sign on the exponent in either direction.
  Values JSON cannot express are `null`.
-/
import Meterbank.Number.Shortest
import Meterbank.Number.IntegerText

namespace Meterbank.Json

open Meterbank.Number

/-! ## Layout of digits -/

/-- So many zeros. -/
def zeros (n : Nat) : List Char := List.replicate n '0'

/-- Digits with the point after the first `point` of them; digits the
positional notation needs but does not have are zeros. -/
def positional (digits : List Char) (point : Int) : List Char :=
  if point ≤ 0 then
    ['0', '.'] ++ zeros (-point).toNat ++ digits
  else if digits.length ≤ point.toNat then
    digits ++ zeros (point.toNat - digits.length) ++ ['.', '0']
  else
    digits.take point.toNat ++ '.' :: digits.drop point.toNat

/-- Digits with the point after the first, and the power of ten that makes up for it. -/
def scientific (digits : List Char) (point : Int) : List Char :=
  let fraction := digits.drop 1
  let mantissa := digits.take 1 ++ (if fraction.isEmpty then [] else '.' :: fraction)
  let power := point - 1
  mantissa ++ 'e' :: (if power < 0 then '-' else '+') :: Nat.toDigits 10 power.natAbs

/-- A decimal in the notation its size calls for. -/
def decimalChars (d : Decimal) : List Char :=
  let digits := Nat.toDigits 10 d.digits
  let point : Int := (digits.length : Int) + d.exponent
  if -5 < point ∧ point ≤ 16 then positional digits point else scientific digits point

/-! ## Values -/

/-- The text of a float. -/
def floatChars (x : Binary64) : List Char :=
  if ! x.isFinite then ['n', 'u', 'l', 'l']
  else
    let unsigned := if x.isZero then ['0', '.', '0'] else decimalChars (shortest x)
    if x.isNegative then '-' :: unsigned else unsigned

/-- The text of a float, as a string. -/
def floatText (x : Binary64) : String := String.ofList (floatChars x)

end Meterbank.Json
