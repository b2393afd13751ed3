/-
  Meterbank.Sql.Cell — what a database keeps in one field.

  A cell holds an integer, a real, a text, bytes, or nothing, whatever
  the type of its column.  The column's type only changes what is put in:
  a counter column turns texts that are numbers, and reals that are
  integers, into integers; a gauge column turns numbers into reals.

  Main result:
    * `plus_integer` — integers add exactly or not at all.
-/
import Meterbank.Error
import Meterbank.Number.Stepwise
import Meterbank.Total
import Meterbank.Text.Utf8

namespace Meterbank.Sql

open Meterbank.Number

/-! ## Cells -/

/-- The content of a field. -/
inductive Cell where
  | null
  | integer (n : Int64)
  | real (x : Binary64)
  | text (s : String)
  | blob (bytes : List UInt8)
  deriving DecidableEq, Inhabited, Repr

/-- The storage class of a cell. -/
def Cell.storageClass : Cell → CellClass
  | .null => .null
  | .integer _ => .integer
  | .real _ => .real
  | .text _ => .text
  | .blob _ => .blob

/-! ## Numbers in texts -/

/-- The blanks that may surround a number. -/
def isAsciiBlank (c : Char) : Bool := c == ' ' || decide (9 ≤ c.toNat ∧ c.toNat ≤ 13)

/-- How much of a text is a number. -/
inductive NumberForm where
  /-- All of it, without point and exponent. -/
  | integer
  /-- All of it, with a point or an exponent. -/
  | real
  /-- A start without point and exponent, maybe empty. -/
  | integerStart
  /-- A start with a point or a whole exponent. -/
  | realStart
  deriving DecidableEq, Repr

/-- The number that a text is or starts with. -/
structure NumberScan where
  form : NumberForm
  /-- The number as a real. -/
  value : Binary64
  /-- The integer in front of any point or exponent. -/
  whole : Int
  deriving Repr

/-- The values of digits. -/
def digitValues (cs : List Char) : List Nat := cs.map fun c => c.toNat - '0'.toNat

/-- From here on an exponent no longer grows. -/
def exponentLimit : Nat := 10000

/-- The value of the digits of an exponent. -/
def exponentValue (digits : List Nat) : Nat :=
  digits.foldl (fun e d => if e < exponentLimit then 10 * e + d else exponentLimit) 0

/-- The exponent after its letter: whether it has digits, its value, and
the rest. -/
def scanExponent (cs : List Char) : Bool × Int × List Char :=
  let (negative, cs) := splitSign cs
  let (digits, rest) := splitDigits cs
  let size : Int := exponentValue (digitValues digits)
  (! digits.isEmpty, if negative then -size else size, rest)

/-- Looks for a number at the start of a text. -/
def scanNumber (cs : List Char) : NumberScan :=
  let (negative, cs) := splitSign (cs.dropWhile isAsciiBlank)
  let (whole, rest) := splitDigits cs
  let (point, fraction, rest) :=
    match rest with
    | '.' :: r => let (f, r) := splitDigits r; (true, f, r)
    | r => (false, [], r)
  let (letter, valid, exponent, rest) :=
    match rest with
    | c :: r =>
      if c = 'e' ∨ c = 'E' then
        let (valid, e, r) := scanExponent r
        (true, valid, e, r)
      else (false, true, 0, c :: r)
    | [] => (false, true, 0, [])
  let complete := (rest.dropWhile isAsciiBlank).isEmpty
  let some? := ! (whole.isEmpty && fraction.isEmpty)
  let form : NumberForm :=
    if complete && some? && valid then (if point || letter then .real else .integer)
    else if some? && ((point && letter) || ((point || letter) && valid)) then .realStart
    else .integerStart
  { form
    value := stepwise negative (digitValues whole) (digitValues fraction)
      (if valid then exponent else 0)
    whole := if negative then -(digitsValue whole : Int) else digitsValue whole }

/-! ## Entering a column -/

/-- The integer a real is, if it lies within the 64-bit range and not on
its ends. -/
def integralReal (x : Binary64) : Option Int64 :=
  match x.toInt? with
  | some n => if Int64.minValue.toInt < n ∧ n < Int64.maxValue.toInt then some (Int64.ofInt n) else none
  | none => none

/-- A real in a counter column: an integer if it is one. -/
def realAsCounter (x : Binary64) : Cell :=
  match integralReal x with
  | some n => .integer n
  | none => if x.isNaN then .null else .real x

/-- A cell as it enters a counter column. -/
def Cell.asCounter : Cell → Cell
  | .real x => realAsCounter x
  | .text s =>
    let scan := scanNumber s.toList
    match scan.form with
    | .integer =>
      if inRange64 scan.whole then .integer (Int64.ofInt scan.whole) else realAsCounter scan.value
    | .real => realAsCounter scan.value
    | _ => .text s
  | c => c

/-- A real in a gauge column: a NaN is nothing, and a zero has no sign. -/
def realAsGauge (x : Binary64) : Cell :=
  if x.isNaN then .null else .real x.unsignedZero

/-- A cell as it enters a gauge column. -/
def Cell.asGauge : Cell → Cell
  | .real x => realAsGauge x
  | .integer n => .real (nearest (decide (n.toInt < 0)) n.toInt.natAbs 0)
  | .text s =>
    let scan := scanNumber s.toList
    match scan.form with
    | .integer | .real => realAsGauge scan.value
    | _ => .text s
  | c => c

/-! ## Sums -/

/-- A cell as a summand: an integer, or nothing if it counts as a real.
Texts and bytes count as the number they start with. -/
def Cell.asSummand : Cell → Option Int64
  | .integer n => some n
  | .null => none
  | .real _ => none
  | .text s => ofScan (scanNumber s.toList)
  | .blob bytes => ofScan (scanNumber (bytes.map fun b => Char.ofNat b.toNat))
where
  /-- The integer a scan found, if it is one of 64 bits. -/
  ofScan (scan : NumberScan) : Option Int64 :=
    match scan.form with
    | .integer | .integerStart =>
      if inRange64 scan.whole then some (Int64.ofInt scan.whole) else none
    | _ => none

/-- The sum of a cell and a delta, if it is an integer. -/
def Cell.plus (c : Cell) (delta : Int64) : Option Int64 :=
  match c.asSummand with
  | some n => Total.add? n delta
  | none => none

/-- **Integers add exactly or not at all.** -/
theorem plus_integer (n delta : Int64) : (Cell.integer n).plus delta = Total.add? n delta := rfl

/-! ## Comparison with a bound -/

/-- A number that values can be held below. -/
inductive Bound where
  | integer (n : Int64)
  | real (x : Binary64)
  deriving DecidableEq, Inhabited, Repr

/-- The bound that the decimal `mantissa * 10 ^ -places` is written for:
an integer of 64 bits if it has no places, or else a real. -/
def Bound.ofDecimal (mantissa : Int) (places : Nat) : Bound :=
  if places = 0 ∧ inRange64 mantissa then .integer (Int64.ofInt mantissa)
  else
    .real (stepwise (decide (mantissa < 0)) (digitValues (Nat.toDigits 10 mantissa.natAbs)) []
      (-(places : Int)))

/-- Whether a real lies below an integer. -/
def realBelow (x : Binary64) (n : Int) : Bool :=
  let size := x.magnitudeCompare n.natAbs 1
  if x.isNegative && ! x.isZero then decide (0 ≤ n) || size == .gt
  else decide (0 < n) && size == .lt

/-- Whether a real lies above an integer, which is whether its opposite
lies below. -/
def realAbove (x : Binary64) (n : Int) : Bool :=
  realBelow (Binary64.ofParts (! x.isNegative) x.magnitude) (-n)

/-- Whether a cell lies below a bound; texts and bytes never do, and
nothing is not held to lie above. -/
def Cell.below : Cell → Bound → Bool
  | .null, _ => true
  | .integer n, .integer bound => decide (n.toInt < bound.toInt)
  | .integer n, .real bound => realAbove bound n.toInt
  | .real x, .integer bound => realBelow x bound.toInt
  | .real x, .real bound => x.less bound
  | .text _, _ => false
  | .blob _, _ => false

end Meterbank.Sql
