/-
  Meterbank.Json.Numeral — reading a number.

  The grammar is the usual one: no leading zeros, a digit on both sides
  of a point, digits in the exponent.  A number without point and
  exponent is an integer if it fits into 64 bits, signed or unsigned;
  minus zero and everything else are floats, rounded to the nearest
  value.  A number beyond the floats is an error.
-/
import Meterbank.Json.Cursor

namespace Meterbank.Json

open Meterbank.Number

/-- A number in a document. -/
inductive Numeral where
  | integer (n : Int)
  | float (x : Binary64)
  deriving DecidableEq, Repr

namespace Numeral

/-! ## Parts -/

/-- The digits a document starts with, and what follows. -/
def spanDigits (cs : Bytes) : Bytes × Bytes := (cs.takeWhile isDigitByte, cs.dropWhile isDigitByte)

/-- The largest exponent that is told apart from larger ones. -/
def maxExponent : Nat := 1 <<< 31 - 1

/-- Reads exponent digits up to the first that makes the exponent too
large to be told apart; `none` if there is one. -/
def scanExponent (soFar : Nat) : Bytes → Option Nat × Bytes
  | [] => (some soFar, [])
  | b :: r =>
    if isDigitByte b then
      let next := 10 * soFar + (b.toNat - 0x30)
      if maxExponent < next then (none, r) else scanExponent next r
    else (some soFar, b :: r)

/-- A float, unless it is beyond the finite ones. -/
def finish (negative : Bool) (digits : Nat) (exponent : Int) (rest : Bytes) : Step Numeral :=
  let x := nearest negative digits exponent
  if x.isFinite then .ok (.float x, rest) else stopHere .numberOutOfRange rest

/-- Reads the exponent part, if there is one, of the float
`digits * 10 ^ (-places)`. -/
def readExponentPart (negative : Bool) (digits places : Nat) (cs : Bytes) : Step Numeral :=
  match cs with
  | b :: r =>
    if b = 0x65 ∨ b = 0x45 then
      let (down, r) :=
        match r with
        | s :: r' => if s = 0x2D then (true, r') else if s = 0x2B then (false, r') else (false, r)
        | [] => (false, [])
      match r with
      | [] => stopHere .endInValue []
      | d :: r =>
        if ! isDigitByte d then stopHere .numberInvalid r
        else
          match scanExponent (d.toNat - 0x30) r with
          | (some e, r) =>
            finish negative digits ((if down then -(e : Int) else e) - (places : Int)) r
          | (none, r) =>
            if digits ≠ 0 ∧ down = false then stopHere .numberOutOfRange r
            else .ok (.float (Binary64.ofParts negative 0), r.dropWhile isDigitByte)
    else finish negative digits (-(places : Int)) (b :: r)
  | [] => finish negative digits (-(places : Int)) []

/-- An integer as it is kept: floats take over beyond 64 bits and for minus zero. -/
def ofWhole (negative : Bool) (n : Nat) (rest : Bytes) : Step Numeral :=
  if negative then
    if n = 0 ∨ 1 <<< 63 < n then finish true n 0 rest else .ok (.integer (-(n : Int)), rest)
  else if n < UInt64.size then .ok (.integer n, rest)
  else finish false n 0 rest

/-- Reads what may follow the whole digits of a number. -/
def readTail (negative : Bool) (whole : Nat) (cs : Bytes) : Step Numeral :=
  match cs with
  | b :: r =>
    if b = 0x2E then
      let (fraction, after) := spanDigits r
      if fraction.isEmpty then
        match after with
        | [] => stopAtNext .endInValue []
        | after => stopAtNext .numberInvalid after
      else
        readExponentPart negative (digitsNumber whole fraction) fraction.length after
    else if b = 0x65 ∨ b = 0x45 then readExponentPart negative whole 0 (b :: r)
    else ofWhole negative whole (b :: r)
  | [] => ofWhole negative whole []

/-! ## Whole numbers -/

/-- Reads a number whose sign, if any, has been read. -/
def readNumeral (negative : Bool) (cs : Bytes) : Step Numeral :=
  match cs with
  | [] => stopHere .endInValue []
  | b :: r =>
    if b = 0x30 then
      match r with
      | d :: _ => if isDigitByte d then stopAtNext .numberInvalid r else readTail negative 0 r
      | [] => readTail negative 0 []
    else if isDigitByte b then
      let (digits, rest) := spanDigits r
      readTail negative (digitsNumber (b.toNat - 0x30) digits) rest
    else stopHere .numberInvalid r

/-- How a message names a number of the wrong type. -/
def found : Numeral → Found
  | .integer n => .integer n
  | .float x => .float x

end Numeral

end Meterbank.Json
