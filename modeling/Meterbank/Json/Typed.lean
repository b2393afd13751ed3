/-
  Meterbank.Json.Typed — reading values of a known type.

  A reader for a type looks at the first byte and either reads the value
  or names what it found instead.  Structures are read from an object,
  field by field, or from a list, in the order of their fields.

  Main result:
    * `enclose_ok` — a structure that was read and closed is given as it is.
-/
import Meterbank.Json.Numeral
import Meterbank.Json.StringText

namespace Meterbank.Json

open Meterbank.Number

/-! ## Values of the wrong type -/

/-- Reads a value only to name it, as something else was expected. -/
def refuseType {α : Type} (expected : Expected) (b : UInt8) (r : Bytes) : Step α :=
  let named (found : Found) (rest : Bytes) : Step α := stopHere (.wrongType found expected) rest
  let word (ws : Bytes) (found : Found) : Step α :=
    match readWord ws r with
    | .error s => .error s
    | .ok (_, rest) => named found rest
  let number (negative : Bool) (cs : Bytes) : Step α :=
    match Numeral.readNumeral negative cs with
    | .error s => .error s
    | .ok (n, rest) => named n.found rest
  if b = 0x6E then word [0x75, 0x6C, 0x6C] .null
  else if b = 0x74 then word [0x72, 0x75, 0x65] (.boolean true)
  else if b = 0x66 then word [0x61, 0x6C, 0x73, 0x65] (.boolean false)
  else if b = 0x2D then number true r
  else if isDigitByte b then number false (b :: r)
  else if b = 0x22 then
    match readText r with
    | .error s => .error s
    | .ok (s, rest) => named (.text s) rest
  else if b = 0x5B then named .sequence (b :: r)
  else if b = 0x7B then named .map (b :: r)
  else stopAtNext .valueExpected (b :: r)

/-! ## Plain values -/

/-- Reads a text. -/
def readString (cs : Bytes) : Step String :=
  match skipBlanks cs with
  | [] => stopAtNext .endInValue []
  | b :: r => if b = 0x22 then readText r else refuseType .text b r

/-- Reads a number, whatever it is. -/
def readNumber (expected : Expected) (cs : Bytes) : Step Numeral :=
  match skipBlanks cs with
  | [] => stopAtNext .endInValue []
  | b :: r =>
    if b = 0x2D then Numeral.readNumeral true r
    else if isDigitByte b then Numeral.readNumeral false (b :: r)
    else refuseType expected b r

/-- Reads a signed 64-bit integer.  Floats are not integers, even integral ones. -/
def readInt64 (cs : Bytes) : Step Int64 :=
  match readNumber .integer64 cs with
  | .error s => .error s
  | .ok (.float x, r) => stopHere (.wrongType (.float x) .integer64) r
  | .ok (.integer n, r) =>
    if inRange64 n then .ok (Int64.ofInt n, r)
    else stopHere (.wrongValue (.integer n) .integer64) r

/-- Reads a float.  Integers are floats too, the nearest ones. -/
def readFloat64 (cs : Bytes) : Step Binary64 :=
  match readNumber .float64 cs with
  | .error s => .error s
  | .ok (.float x, r) => .ok (x, r)
  | .ok (.integer n, r) => .ok (nearest (decide (n < 0)) n.natAbs 0, r)

/-- Reads a value that may be absent, which `null` says. -/
def readOptional {α : Type} (value : Bytes → Step α) (cs : Bytes) : Step (Option α) :=
  let some? (cs : Bytes) : Step (Option α) := (value cs).map fun p => (some p.1, p.2)
  match skipBlanks cs with
  | [] => some? []
  | b :: r =>
    if b = 0x6E then (readWord [0x75, 0x6C, 0x6C] r).map fun p => (none, p.2)
    else some? (b :: r)

/-! ## Lists and objects -/

/-- Reads the end of a list. -/
def endList (cs : Bytes) : Step Unit :=
  match skipBlanks cs with
  | [] => stopAtNext .endInList []
  | b :: r =>
    if b = 0x5D then .ok ((), r)
    else if b = 0x2C then
      match skipBlanks r with
      | c :: r' =>
        if c = 0x5D then stopAtNext .trailingComma (c :: r')
        else stopAtNext .trailingCharacters (c :: r')
      | [] => stopAtNext .trailingCharacters []
    else stopAtNext .trailingCharacters (b :: r)

/-- Reads the end of an object. -/
def endObject (cs : Bytes) : Step Unit :=
  match skipBlanks cs with
  | [] => stopAtNext .endInObject []
  | b :: r =>
    if b = 0x7D then .ok ((), r)
    else if b = 0x2C then stopAtNext .trailingComma (b :: r)
    else stopAtNext .trailingCharacters (b :: r)

/-- The content of a structure and its end.  The end is read even if the
content is at fault, as a fault without a place is placed after it. -/
def enclose {α : Type} (content : Step α) (ending : Bytes → Step Unit) : Step α :=
  match content with
  | .ok (a, r) =>
    match ending r with
    | .ok (_, r) => .ok (a, r)
    | .error s => .error s
  | .error s =>
    match s.place with
    | some _ => .error s
    | none =>
      match ending s.rest with
      | .ok (_, r) => .error { s with place := some r.length, rest := r }
      | .error e => .error { s with place := some e.rest.length, rest := e.rest }

/-- **A structure that was read and closed is given as it is.** -/
theorem enclose_ok {α : Type} (a : α) (r r' : Bytes) (ending : Bytes → Step Unit)
    (h : ending r = .ok ((), r')) : enclose (.ok (a, r)) ending = .ok (a, r') := by
  simp [enclose, h]

/-- Reads up to the next element of a list, if there is one. -/
def nextElement (first : Bool) (cs : Bytes) : Step Bool :=
  match skipBlanks cs with
  | [] => stopAtNext .endInList []
  | b :: r =>
    if b = 0x5D then .ok (false, b :: r)
    else if first then .ok (true, b :: r)
    else if b = 0x2C then
      match skipBlanks r with
      | [] => stopAtNext .endInValue []
      | c :: r' => if c = 0x5D then stopAtNext .trailingComma (c :: r') else .ok (true, c :: r')
    else stopAtNext .listSeparatorExpected (b :: r)

/-- Reads up to the next key of an object, if there is one, and past the
quote that opens it. -/
def nextKey (first : Bool) (cs : Bytes) : Step Bool :=
  match skipBlanks cs with
  | [] => stopAtNext .endInObject []
  | b :: r =>
    if b = 0x7D then .ok (false, b :: r)
    else if first then
      if b = 0x22 then .ok (true, r) else stopAtNext .keyNotText (b :: r)
    else if b = 0x2C then
      match skipBlanks r with
      | [] => stopAtNext .endInValue []
      | c :: r' =>
        if c = 0x22 then .ok (true, r')
        else if c = 0x7D then stopAtNext .trailingComma (c :: r')
        else stopAtNext .keyNotText (c :: r')
    else stopAtNext .objectSeparatorExpected (b :: r)

/-- Reads the colon between a key and its value. -/
def readColon (cs : Bytes) : Step Unit :=
  match skipBlanks cs with
  | [] => stopAtNext .endInObject []
  | b :: r => if b = 0x3A then .ok ((), r) else stopAtNext .colonExpected (b :: r)

/-- Reads elements up to the end of a list, which is not read. -/
def readElements {α : Type} (element : Bytes → Step α) :
    Nat → Bool → List α → Bytes → Step (List α)
  | 0, _, done, cs => .ok (done.reverse, cs)
  | n + 1, first, done, cs =>
    match nextElement first cs with
    | .error s => .error s
    | .ok (false, r) => .ok (done.reverse, r)
    | .ok (true, r) =>
      match element r with
      | .error s => .error s
      | .ok (a, r) => readElements element n false (a :: done) r

/-- Reads a list of values that is no longer than the budget. -/
def readList {α : Type} (budget : Nat) (element : Bytes → Step α) (cs : Bytes) :
    Step (List α) :=
  match skipBlanks cs with
  | [] => stopAtNext .endInValue []
  | b :: r =>
    if b = 0x5B then enclose (readElements element budget true [] r) endList
    else refuseType .sequence b r

/-- Reads a structure, from the content of an object or of a list. -/
def readStructure {α : Type} (expected : Expected) (fields elements : Bytes → Step α)
    (cs : Bytes) : Step α :=
  match skipBlanks cs with
  | [] => stopAtNext .endInValue []
  | b :: r =>
    if b = 0x5B then enclose (elements r) endList
    else if b = 0x7B then enclose (fields r) endObject
    else refuseType expected b r

/-- Reads a whole document: one value and nothing after it.  The value may
be as long as the document. -/
def readDocument {α : Type} (value : Nat → Bytes → Step α) (document : Bytes) : Except Fault α :=
  match value (document.length + 1) document with
  | .error s => .error (s.toFault document)
  | .ok (a, r) =>
    match skipBlanks r with
    | [] => .ok a
    | r =>
      .error (Stop.toFault ⟨.trailingCharacters, some (r.length - 1), r⟩ document)

end Meterbank.Json
