/-
  Meterbank.Toml.Scalar — numbers, dates and truth values of a configuration.

  Integers have 64 bits and come in four bases; digits may be grouped by
  underscores between them.  Floats and dates are only recognised: their
  form is checked, and that a date exists, but no setting has such a value.
-/
import Meterbank.Toml.Value
import Meterbank.Toml.Lexeme
import Meterbank.Number.IntegerText

namespace Meterbank.Toml

open Meterbank.Number

/-! ## Digits -/

/-- Reads digits that may be grouped by single underscores between them. -/
def groupedDigits (isDigit : Char → Bool) : Chars → Option (Chars × Chars)
  | c :: '_' :: d :: r =>
    if isDigit c then
      if isDigit d then (groupedDigits isDigit (d :: r)).map fun (ds, r) => (c :: ds, r) else none
    else none
  | c :: r =>
    if isDigit c then
      match r with
      | d :: r' =>
        if isDigit d then (groupedDigits isDigit (d :: r')).map fun (ds, r) => (c :: ds, r)
        else if d = '_' then none
        else some ([c], d :: r')
      | [] => some ([c], [])
    else none
  | [] => none

/-- The value of a digit in a base up to sixteen. -/
def digitIn (base : Nat) (c : Char) : Option Nat :=
  let n :=
    if c.isDigit then c.toNat - '0'.toNat
    else if 'a' ≤ c ∧ c ≤ 'f' then c.toNat - 'a'.toNat + 10
    else if 'A' ≤ c ∧ c ≤ 'F' then c.toNat - 'A'.toNat + 10
    else base
  if n < base then some n else none

/-- The number written by digits in a base. -/
def numberIn (base : Nat) (ds : Chars) : Nat :=
  ds.foldl (fun n c => base * n + (digitIn base c).getD 0) 0

/-- An integer, unless it leaves the 64-bit range. -/
def integerValue (n : Int) : Option Value :=
  if inRange64 n then some (.integer (Int64.ofInt n)) else none

/-! ## Numbers -/

/-- Reads the digits of an integer in a base that is not ten. -/
def basedInteger (base : Nat) (cs : Chars) : Option (Value × Chars) :=
  (groupedDigits (fun c => (digitIn base c).isSome) cs).bind fun (ds, r) =>
    (integerValue (numberIn base ds)).map fun v => (v, r)

/-- Reads decimal digits without leading zeros. -/
def wholeDigits : Chars → Option (Chars × Chars)
  | '0' :: r => some (['0'], r)
  | cs => groupedDigits Char.isDigit cs

/-- Reads an exponent, if there is one.  The outer option is failure. -/
def exponentPart (cs : Chars) : Option (Option Int × Chars) :=
  match cs with
  | c :: r =>
    if c = 'e' ∨ c = 'E' then
      let (negative, r) := splitSign r
      (groupedDigits Char.isDigit r).map fun (ds, r) =>
        (some (if negative then -(digitsValue ds : Int) else digitsValue ds), r)
    else some (none, c :: r)
  | [] => some (none, [])

/-- A float, unless it is above the finite ones. -/
def floatValue (negative : Bool) (digits : Nat) (exponent : Int) : Option Value :=
  if negative || (nearest false digits exponent).isFinite then some .float else none

/-- Reads a decimal number whose sign has been read. -/
def decimalNumber (negative : Bool) (cs : Chars) : Option (Value × Chars) :=
  (wholeDigits cs).bind fun (whole, r) =>
    match r with
    | '.' :: r =>
      (groupedDigits Char.isDigit r).bind fun (fraction, r) =>
        (exponentPart r).bind fun (e, r) =>
          (floatValue negative (digitsValue (whole ++ fraction))
            (e.getD 0 - (fraction.length : Int))).map fun v => (v, r)
    | r =>
      (exponentPart r).bind fun (e, r) =>
        match e with
        | some e => (floatValue negative (digitsValue whole) e).map fun v => (v, r)
        | none =>
          let n : Int := digitsValue whole
          (integerValue (if negative then -n else n)).map fun v => (v, r)

/-- Reads a word. -/
def word (w : Chars) (v : Value) (cs : Chars) : Option (Value × Chars) :=
  if w.isPrefixOf cs then some (v, cs.drop w.length) else none

/-- Reads an infinity or not-a-number without sign. -/
def specialFloat (cs : Chars) : Option (Value × Chars) :=
  (word ['i', 'n', 'f'] .float cs).or (word ['n', 'a', 'n'] .float cs)

/-- Reads a number. -/
def number : Chars → Option (Value × Chars)
  | '0' :: 'x' :: r => basedInteger 16 r
  | '0' :: 'o' :: r => basedInteger 8 r
  | '0' :: 'b' :: r => basedInteger 2 r
  | cs =>
    let (negative, body) := splitSign cs
    match specialFloat body with
    | some found => some found
    | none => decimalNumber negative body

/-! ## Dates and times -/

/-- Reads exactly so many digits. -/
def fixedDigits (n : Nat) (cs : Chars) : Option (Nat × Chars) :=
  let ds := cs.take n
  if ds.length = n ∧ ds.all Char.isDigit = true then some (digitsValue ds, cs.drop n) else none

/-- Reads one given character. -/
def expect (c : Char) : Chars → Option Chars
  | d :: r => if d = c then some r else none
  | [] => none

/-- The digits a text starts with, and what follows them. -/
def digitRun (cs : Chars) : Chars × Chars := splitDigits cs

/-- Whether a year has a twenty-ninth of February. -/
def isLeap (year : Nat) : Bool :=
  (year % 4 == 0 && year % 100 != 0) || year % 400 == 0

/-- The number of days of a month; none for what is no month. -/
def daysIn (year month : Nat) : Nat :=
  match month with
  | 1 | 3 | 5 | 7 | 8 | 10 | 12 => 31
  | 4 | 6 | 9 | 11 => 30
  | 2 => if isLeap year then 29 else 28
  | _ => 0

/-- Reads a date that exists. -/
def date (cs : Chars) : Option Chars := do
  let (year, cs) ← fixedDigits 4 cs
  let cs ← expect '-' cs
  let (month, cs) ← fixedDigits 2 cs
  let cs ← expect '-' cs
  let (day, cs) ← fixedDigits 2 cs
  if 1 ≤ day ∧ day ≤ daysIn year month then some cs else none

/-- Reads hours and minutes. -/
def hourMinute (cs : Chars) : Option Chars := do
  let (hour, cs) ← fixedDigits 2 cs
  let cs ← expect ':' cs
  let (minute, cs) ← fixedDigits 2 cs
  if hour ≤ 23 ∧ minute ≤ 59 then some cs else none

/-- Reads a time of day with seconds and, if they are there, fractions. -/
def timeOfDay (cs : Chars) : Option Chars := do
  let cs ← hourMinute cs
  let cs ← expect ':' cs
  let (second, cs) ← fixedDigits 2 cs
  if 60 < second then none
  else
    match cs with
    | '.' :: r =>
      let (fraction, r) := digitRun r
      if fraction.isEmpty then none else some r
    | cs => some cs

/-- Reads the distance from universal time, if it is there. -/
def zone : Chars → Option Chars
  | 'Z' :: r => some r
  | 'z' :: r => some r
  | '+' :: r => hourMinute r
  | '-' :: r => hourMinute r
  | cs => some cs

/-- Reads a date, a time of day, or both. -/
def moment (cs : Chars) : Option (Value × Chars) :=
  match date cs with
  | some r =>
    match r with
    | d :: after =>
      if d = 'T' ∨ d = 't' ∨ d = ' ' then
        match timeOfDay after with
        | some r => (zone r).map fun r => (.moment, r)
        | none => some (.moment, r)
      else some (.moment, r)
    | [] => some (.moment, [])
  | none => (timeOfDay cs).map fun r => (.moment, r)

/-! ## All scalars -/

/-- Whether a text starts like a date or a time of day. -/
def startsMoment (cs : Chars) : Bool :=
  let run := (digitRun cs).1.length
  match cs.drop run with
  | '-' :: _ => run == 4
  | ':' :: _ => run == 2
  | _ => false

/-- Reads a value that is neither a list nor a table. -/
def scalar (cs : Chars) : Option (Value × Chars) :=
  match cs with
  | '"' :: _ => (quotedText cs).map fun (s, r) => (.text s, r)
  | '\'' :: _ => (quotedText cs).map fun (s, r) => (.text s, r)
  | 't' :: _ => word ['t', 'r', 'u', 'e'] (.boolean true) cs
  | 'f' :: _ => word ['f', 'a', 'l', 's', 'e'] (.boolean false) cs
  | _ => if startsMoment cs then moment cs else number cs

end Meterbank.Toml
