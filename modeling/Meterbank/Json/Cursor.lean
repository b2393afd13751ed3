/-
  Meterbank.Json.Cursor — reading a document byte by byte.

  A reader takes the bytes that are still to be read and gives a value
  and the bytes after it, or it stops.  Where it stopped is told by how
  many bytes were left, so readers need not count; the line and column
  are worked out once, at the end, from the whole document.
-/
import Meterbank.Json.Fault
import Meterbank.Text.Utf8

namespace Meterbank.Json

/-! ## Bytes -/

/-- The bytes of a document, or what is left of them. -/
abbrev Bytes := List UInt8

/-- The blanks that may stand between the parts of a document. -/
def isBlankByte (b : UInt8) : Bool := b == 0x20 || b == 0x0A || b == 0x09 || b == 0x0D

/-- What follows the blanks. -/
def skipBlanks (cs : Bytes) : Bytes := cs.dropWhile isBlankByte

/-- What does not start with a blank is left alone. -/
theorem skipBlanks_cons (b : UInt8) (r : Bytes) (h : isBlankByte b = false) :
    skipBlanks (b :: r) = b :: r := by
  simp [skipBlanks, h]

/-- Whether a byte is an ASCII digit. -/
def isDigitByte (b : UInt8) : Bool := decide (0x30 ≤ b ∧ b ≤ 0x39)

/-- The number written by digits, read onto the number so far. -/
def digitsNumber (soFar : Nat) (ds : Bytes) : Nat :=
  ds.foldl (fun n b => 10 * n + (b.toNat - 0x30)) soFar

/-! ## Stops -/

/-- Why a reader stopped, and what it had not read. -/
structure Stop where
  cause : Cause
  /-- How many bytes lie after the place of the fault; `none` while that
  is left to the reader of the enclosing value. -/
  place : Option Nat
  /-- What was left to read. -/
  rest : Bytes
  deriving Repr

/-- What a reader gives: a value and the rest, or a stop. -/
abbrev Step (α : Type) := Except Stop (α × Bytes)

/-- A fault at the last byte that was read. -/
def stopHere {α : Type} (cause : Cause) (rest : Bytes) : Step α :=
  .error ⟨cause, some rest.length, rest⟩

/-- A fault at the next byte, or at the end if there is none. -/
def stopAtNext {α : Type} (cause : Cause) (rest : Bytes) : Step α :=
  .error ⟨cause, some (rest.length - 1), rest⟩

/-- A fault whose place is where the enclosing value is left. -/
def stopLater {α : Type} (cause : Cause) (rest : Bytes) : Step α :=
  .error ⟨cause, none, rest⟩

/-- The first `n` bytes of a document as a position. -/
def position (document : Bytes) (n : Nat) : Nat × Nat :=
  let before := document.take n
  (before.count 0x0A + 1, (before.reverse.takeWhile (· != 0x0A)).length)

/-- The fault of a reader that stopped within a document. -/
def Stop.toFault (s : Stop) (document : Bytes) : Fault :=
  let p := position document (document.length - s.place.getD s.rest.length)
  ⟨s.cause, p.1, p.2⟩

/-! ## Words -/

/-- Reads the rest of a word whose first letter has been read. -/
def readWord : Bytes → Bytes → Step Unit
  | [], cs => .ok ((), cs)
  | _ :: _, [] => stopHere .endInValue []
  | w :: ws, c :: cs => if c = w then readWord ws cs else stopHere .identExpected cs

end Meterbank.Json
