/-
  Meterbank.Number.FloatText — reading a floating-point number from text.

  The grammar is

      number  ::= sign? (digits ('.' digits?)? | '.' digits) exponent?
      exponent ::= ('e' | 'E') sign? digits
      special ::= sign? ('inf' | 'infinity' | 'nan')       in any case

  with nothing before or after.  A number is rounded to the nearest
  binary value, which may be an infinity.
-/
import Meterbank.Number.Rounding

namespace Meterbank.Number

/-! ## Runs of digits -/

/-- The ASCII digits a text starts with, and what follows them. -/
def splitDigits (cs : List Char) : List Char × List Char :=
  (cs.takeWhile Char.isDigit, cs.dropWhile Char.isDigit)

/-- The number written by digits. -/
def digitsValue (cs : List Char) : Nat := Nat.ofDigitChars 10 cs 0

/-- An optional sign and what follows it. -/
def splitSign : List Char → Bool × List Char
  | '-' :: cs => (true, cs)
  | '+' :: cs => (false, cs)
  | cs => (false, cs)

/-! ## Decimals -/

/-- The exponent part of a decimal, which must reach the end of the text. -/
def readExponent : List Char → Option Int
  | [] => some 0
  | c :: cs =>
    if c = 'e' ∨ c = 'E' then
      let (negative, ds) := splitSign cs
      let (digits, rest) := splitDigits ds
      if digits.isEmpty || ! rest.isEmpty then none
      else some (if negative then -(digitsValue digits : Int) else digitsValue digits)
    else none

/-- An unsigned decimal that fills the text, as digits and a power of ten. -/
def readUnsigned (cs : List Char) : Option (Nat × Int) :=
  let (whole, rest) := splitDigits cs
  let (fraction, rest) :=
    match rest with
    | '.' :: r => splitDigits r
    | r => ([], r)
  if whole.isEmpty && fraction.isEmpty then none
  else (readExponent rest).map fun e =>
    (digitsValue (whole ++ fraction), e - (fraction.length : Int))

/-! ## All texts -/

/-- Why a text is not a floating-point number. -/
inductive FloatTextError where
  /-- There is no text. -/
  | empty
  /-- The text is not in the grammar. -/
  | invalid
  deriving DecidableEq, Repr

/-- The wording of a refusal. -/
def FloatTextError.message : FloatTextError → String
  | .empty => "cannot parse float from empty string"
  | .invalid => "invalid float literal"

/-- The infinities and NaN, spelt in any case. -/
def readSpecial (negative : Bool) (cs : List Char) : Option Binary64 :=
  let word := cs.map Char.toLower
  if word = ['i', 'n', 'f'] ∨ word = ['i', 'n', 'f', 'i', 'n', 'i', 't', 'y'] then
    some (Binary64.ofParts negative Binary64.infinityMagnitude)
  else if word = ['n', 'a', 'n'] then
    some (Binary64.ofParts negative (Binary64.infinityMagnitude + 1 <<< 51))
  else none

/-- The value a text names. -/
def readFloat (cs : List Char) : Except FloatTextError Binary64 :=
  if cs.isEmpty then .error .empty
  else
    let (negative, body) := splitSign cs
    match readUnsigned body with
    | some (digits, exponent) => .ok (nearest negative digits exponent)
    | none =>
      match readSpecial negative body with
      | some x => .ok x
      | none => .error .invalid

end Meterbank.Number
