/-
  Meterbank.Json.Skip — passing over a value that is not wanted.

  Fields a structure does not know may hold anything.  Their values are
  passed over with a stack of the lists and objects that are open, so
  nesting has no limit; the form of the value is checked, the content of
  its texts is not.
-/
import Meterbank.Json.StringText

namespace Meterbank.Json

/-! ## Numbers -/

/-- Passes over digits. -/
def skipDigits (cs : Bytes) : Bytes := cs.dropWhile isDigitByte

/-- Passes over an exponent whose letter has been read. -/
def skipExponent (cs : Bytes) : Step Unit :=
  let cs :=
    match cs with
    | s :: r => if s = 0x2B ∨ s = 0x2D then r else s :: r
    | [] => []
  match cs with
  | d :: r => if isDigitByte d then .ok ((), skipDigits r) else stopHere .numberInvalid r
  | [] => stopHere .numberInvalid []

/-- Passes over what may follow the whole digits of a number. -/
def skipTail (cs : Bytes) : Step Unit :=
  match cs with
  | b :: r =>
    if b = 0x2E then
      match r with
      | d :: _ =>
        if isDigitByte d then
          match skipDigits r with
          | e :: r' => if e = 0x65 ∨ e = 0x45 then skipExponent r' else .ok ((), e :: r')
          | [] => .ok ((), [])
        else stopAtNext .numberInvalid r
      | [] => stopAtNext .numberInvalid []
    else if b = 0x65 ∨ b = 0x45 then skipExponent r
    else .ok ((), b :: r)
  | [] => .ok ((), [])

/-- Passes over a number whose sign, if any, has been read. -/
def skipNumeral (cs : Bytes) : Step Unit :=
  match cs with
  | [] => stopHere .numberInvalid []
  | b :: r =>
    if b = 0x30 then
      match r with
      | d :: _ => if isDigitByte d then stopAtNext .numberInvalid r else skipTail r
      | [] => .ok ((), [])
    else if isDigitByte b then skipTail (skipDigits r)
    else stopHere .numberInvalid r

/-! ## Values -/

/-- A list or object that is open. -/
inductive Frame where
  | list
  | object
  deriving DecidableEq, Repr

/-- The byte that closes a frame. -/
def Frame.closing : Frame → UInt8
  | .list => 0x5D
  | .object => 0x7D

/-- Passes over a key and the colon after it, with the blanks around them. -/
def skipKey (cs : Bytes) : Step Unit :=
  match skipBlanks cs with
  | [] => stopAtNext .endInObject []
  | b :: r =>
    if b ≠ 0x22 then stopAtNext .keyNotText (b :: r)
    else
      match skipText r with
      | .error s => .error s
      | .ok (_, r) =>
        match skipBlanks r with
        | [] => stopAtNext .endInObject []
        | c :: r => if c = 0x3A then .ok ((), r) else stopAtNext .colonExpected (c :: r)

/-- Passes over the first byte of a value: all of a plain value, or the
bracket that opens a frame. -/
def skipHead (cs : Bytes) : Step (Option Frame) :=
  match skipBlanks cs with
  | [] => stopAtNext .endInValue []
  | b :: r =>
    let plain (s : Step Unit) : Step (Option Frame) := s.map fun p => (none, p.2)
    if b = 0x6E then plain (readWord [0x75, 0x6C, 0x6C] r)
    else if b = 0x74 then plain (readWord [0x72, 0x75, 0x65] r)
    else if b = 0x66 then plain (readWord [0x61, 0x6C, 0x73, 0x65] r)
    else if b = 0x2D then plain (skipNumeral r)
    else if isDigitByte b then plain (skipNumeral (b :: r))
    else if b = 0x22 then plain (skipText r)
    else if b = 0x5B then .ok (some .list, r)
    else if b = 0x7B then .ok (some .object, r)
    else stopAtNext .valueExpected (b :: r)

/-- Closes frames as far as their closing bytes follow.  Gives the frames
still open, with the innermost first, once a value of it has to follow. -/
def closeFrames (comma : Bool) (frame : Frame) (outer : List Frame) (cs : Bytes) :
    Step (List Frame) :=
  match skipBlanks cs with
  | [] => stopAtNext (match frame with | .list => .endInList | .object => .endInObject) []
  | b :: r =>
    if b = 0x2C ∧ comma = true then .ok (frame :: outer, r)
    else if b = frame.closing then
      match outer with
      | [] => .ok ([], r)
      | next :: outer => closeFrames true next outer r
    else if comma then
      stopAtNext
        (match frame with | .list => .listSeparatorExpected | .object => .objectSeparatorExpected)
        (b :: r)
    else .ok (frame :: outer, b :: r)

/-- Passes over a value inside open frames, and on to the end of the
outermost.  Every round takes a byte off the budget. -/
def skipWithin : Nat → List Frame → Bytes → Step Unit
  | 0, _, cs => stopAtNext .endInValue cs
  | n + 1, frames, cs =>
    match skipHead cs with
    | .error s => .error s
    | .ok (opened, r) =>
      let ended : Step (List Frame) :=
        match opened, frames with
        | some frame, frames => closeFrames false frame frames r
        | none, [] => .ok ([], r)
        | none, frame :: outer => closeFrames true frame outer r
      match ended with
      | .error s => .error s
      | .ok ([], r) => .ok ((), r)
      | .ok (.list :: outer, r) => skipWithin n (.list :: outer) r
      | .ok (.object :: outer, r) =>
        match skipKey r with
        | .error s => .error s
        | .ok (_, r) => skipWithin n (.object :: outer) r

/-- Passes over a value that is no longer than the budget. -/
def skipValue (budget : Nat) (cs : Bytes) : Step Unit := skipWithin budget [] cs

end Meterbank.Json
