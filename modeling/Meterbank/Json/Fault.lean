/-
  Meterbank.Json.Fault — why a JSON document is refused, and where.

  A fault is a cause and a position: the line, counted from one, and the
  number of bytes of that line that had been read.
-/
import Meterbank.Json.NumberText
import Meterbank.Text.Quoted

namespace Meterbank.Json

open Meterbank.Text Meterbank.Number

/-! ## What was found -/

/-- A value of the wrong kind, as a message names it. -/
inductive Found where
  | null
  | boolean (b : Bool)
  | integer (n : Int)
  | float (x : Binary64)
  | text (s : String)
  | sequence
  | map
  deriving DecidableEq, Repr

/-- The naming of a value of the wrong kind. -/
def Found.message : Found → String
  | .null => "null"
  | .boolean b => "boolean `" ++ (if b then "true" else "false") ++ "`"
  | .integer n => "integer `" ++ integerText n ++ "`"
  | .float x => "floating point `" ++ floatText x ++ "`"
  | .text s => "string " ++ quoted s
  | .sequence => "sequence"
  | .map => "map"

/-! ## What was expected -/

/-- What a place in a document must hold. -/
inductive Expected where
  | text
  | integer64
  | float64
  | metric
  | batch
  | sequence
  deriving DecidableEq, Repr

/-- The naming of what a place must hold. -/
def Expected.message : Expected → String
  | .text => "a string"
  | .integer64 => "i64"
  | .float64 => "f64"
  | .metric => "struct Metric"
  | .batch => "struct MetricBatch"
  | .sequence => "a sequence"

/-! ## Causes -/

/-- What is wrong with a document. -/
inductive Cause where
  | endInValue
  | endInList
  | endInObject
  | endInString
  | colonExpected
  | listSeparatorExpected
  | objectSeparatorExpected
  | identExpected
  | valueExpected
  | keyNotText
  | trailingComma
  | trailingCharacters
  | numberInvalid
  | numberOutOfRange
  | escapeInvalid
  | codePointInvalid
  | controlCharacter
  | surrogateAlone
  | surrogatePairBroken
  | fieldMissing (name : String)
  | fieldRepeated (name : String)
  | wrongType (found : Found) (expected : Expected)
  | wrongValue (found : Found) (expected : Expected)
  | tooFewElements (count : Nat) (expected : Expected) (of : Nat)
  deriving DecidableEq, Repr

/-- The wording of a cause. -/
def Cause.message : Cause → String
  | .endInValue => "EOF while parsing a value"
  | .endInList => "EOF while parsing a list"
  | .endInObject => "EOF while parsing an object"
  | .endInString => "EOF while parsing a string"
  | .colonExpected => "expected `:`"
  | .listSeparatorExpected => "expected `,` or `]`"
  | .objectSeparatorExpected => "expected `,` or `\x7d`"
  | .identExpected => "expected ident"
  | .valueExpected => "expected value"
  | .keyNotText => "key must be a string"
  | .trailingComma => "trailing comma"
  | .trailingCharacters => "trailing characters"
  | .numberInvalid => "invalid number"
  | .numberOutOfRange => "number out of range"
  | .escapeInvalid => "invalid escape"
  | .codePointInvalid => "invalid unicode code point"
  | .controlCharacter =>
    "control character (\\u0000-\\u001F) found while parsing a string"
  | .surrogateAlone => "lone leading surrogate in hex escape"
  | .surrogatePairBroken => "unexpected end of hex escape"
  | .fieldMissing name => "missing field `" ++ name ++ "`"
  | .fieldRepeated name => "duplicate field `" ++ name ++ "`"
  | .wrongType found expected =>
    "invalid type: " ++ found.message ++ ", expected " ++ expected.message
  | .wrongValue found expected =>
    "invalid value: " ++ found.message ++ ", expected " ++ expected.message
  | .tooFewElements count expected size =>
    "invalid length " ++ toString count ++ ", expected " ++ expected.message ++ " with "
      ++ toString size ++ " elements"

/-! ## Faults -/

/-- A cause and the position up to which the document had been read. -/
structure Fault where
  cause : Cause
  /-- The line, counted from one. -/
  line : Nat
  /-- The bytes of the line that had been read. -/
  column : Nat
  deriving DecidableEq, Repr

/-- The position of a fault, in words. -/
def Fault.place (f : Fault) : String :=
  " at line " ++ toString f.line ++ " column " ++ toString f.column

/-- The wording of a fault. -/
def Fault.message (f : Fault) : String := f.cause.message ++ f.place

end Meterbank.Json
