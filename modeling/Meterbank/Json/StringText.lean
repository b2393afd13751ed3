/-
  Meterbank.Json.StringText — texts in quotes, written and read.

  A text is written between quotes with the quote, the backslash and the
  controls below U+0020 escaped and everything else as it is.  Reading
  also accepts the other escapes of the format; the bytes that come out
  must be UTF-8, and the two halves of a character above U+FFFF must
  stand together.  Both readers go byte by byte and know at each byte
  whether they are in an escape, and where in it.

  Main results:
    * `escape_plain` — a character that needs no escape is written as it is.
    * `utf8Encode_ascii` — below U+0080 a code point is its own byte.
-/
import Meterbank.Json.Cursor

namespace Meterbank.Json

open Meterbank.Text

/-! ## Writing -/

/-- The hexadecimal digit of a number below sixteen. -/
def hexDigit (n : Nat) : Char := Nat.digitChar n

/-- A character as it is written between quotes. -/
def escape (c : Char) : List Char :=
  if c = '"' then ['\\', '"']
  else if c = '\\' then ['\\', '\\']
  else if c = '\n' then ['\\', 'n']
  else if c = '\r' then ['\\', 'r']
  else if c = '\t' then ['\\', 't']
  else if c = '\x08' then ['\\', 'b']
  else if c = '\x0c' then ['\\', 'f']
  else if c.toNat < 0x20 then
    ['\\', 'u', '0', '0', hexDigit (c.toNat / 16), hexDigit (c.toNat % 16)]
  else [c]

/-- **A character that needs no escape is written as it is.** -/
theorem escape_plain (c : Char) (hq : c ≠ '"') (hb : c ≠ '\\') (hc : 0x20 ≤ c.toNat) :
    escape c = [c] := by
  have control : ∀ d : Char, d.toNat < 0x20 → c ≠ d := by
    intro d hd h
    rw [h] at hc
    omega
  have hn := control '\n' (by decide)
  have hr := control '\r' (by decide)
  have ht := control '\t' (by decide)
  have h8 := control '\x08' (by decide)
  have hf := control '\x0c' (by decide)
  have hlt : ¬ c.toNat < 0x20 := by omega
  simp [escape, hq, hb, hn, hr, ht, h8, hf, hlt]

/-- A text in quotes. -/
def quoteChars (s : String) : List Char :=
  '"' :: s.toList.flatMap escape ++ ['"']

/-! ## Reading escapes -/

/-- The value of a hexadecimal digit. -/
def hexValue (b : UInt8) : Option Nat :=
  let n := b.toNat
  if 0x30 ≤ n ∧ n ≤ 0x39 then some (n - 0x30)
  else if 0x41 ≤ n ∧ n ≤ 0x46 then some (n - 0x41 + 10)
  else if 0x61 ≤ n ∧ n ≤ 0x66 then some (n - 0x61 + 10)
  else none

/-- The bytes of a code point. -/
def utf8Encode (n : Nat) : Bytes :=
  if n < 0x80 then [UInt8.ofNat n]
  else if n < 0x800 then
    [UInt8.ofNat (0xC0 + n / 64), UInt8.ofNat (0x80 + n % 64)]
  else if n < 0x10000 then
    [UInt8.ofNat (0xE0 + n / 4096), UInt8.ofNat (0x80 + n / 64 % 64), UInt8.ofNat (0x80 + n % 64)]
  else
    [UInt8.ofNat (0xF0 + n / 262144), UInt8.ofNat (0x80 + n / 4096 % 64),
      UInt8.ofNat (0x80 + n / 64 % 64), UInt8.ofNat (0x80 + n % 64)]

/-- Below U+0080 a code point is its own byte. -/
theorem utf8Encode_ascii (n : Nat) (h : n < 0x80) : utf8Encode n = [UInt8.ofNat n] := by
  simp [utf8Encode, h]

/-- The code point of a character above U+FFFF from its two halves. -/
def joinHalves (first second : Nat) : Nat :=
  (first - 0xD800) * 0x400 + (second - 0xDC00) + 0x10000

/-- The byte of an escape of one letter. -/
def letterEscape (b : UInt8) : Option UInt8 :=
  if b = 0x22 ∨ b = 0x5C ∨ b = 0x2F then some b
  else if b = 0x62 then some 0x08
  else if b = 0x66 then some 0x0C
  else if b = 0x6E then some 0x0A
  else if b = 0x72 then some 0x0D
  else if b = 0x74 then some 0x09
  else none

/-! ## Reading texts -/

/-- Where the reader of a text stands between two of its bytes. -/
inductive Scan where
  /-- Outside of any escape. -/
  | plain
  /-- After a backslash. -/
  | escape
  /-- Before a digit of a code point, with so many more to follow it.
  The value is lost if a byte before was no digit; a first half waits for
  its second. -/
  | digits (first : Option Nat) (more : Nat) (value : Option Nat)
  /-- After the first half of a character, before the next backslash. -/
  | halfRead (first : Nat)
  /-- Between that backslash and its letter. -/
  | halfEscape (first : Nat)
  deriving DecidableEq, Inhabited, Repr

namespace Scan

/-- What a code point stands for, once all its digits have been read. -/
def ofCodePoint (first : Option Nat) (n : Nat) : Except Cause (Bytes × Scan) :=
  match first with
  | some half =>
    if n < 0xDC00 ∨ 0xDFFF < n then .error .surrogateAlone
    else .ok (utf8Encode (joinHalves half n), .plain)
  | none =>
    if 0xDC00 ≤ n ∧ n ≤ 0xDFFF then .error .surrogateAlone
    else if n < 0xD800 ∨ 0xDBFF < n then .ok (utf8Encode n, .plain)
    else .ok ([], .halfRead n)

/-- The value of digits with one more digit, if all are digits. -/
def pushDigit (value : Option Nat) (b : UInt8) : Option Nat :=
  match value, hexValue b with
  | some v, some d => some (v * 16 + d)
  | _, _ => none

/-- Reads one byte: what it adds to the text, and where that leads. -/
def next (s : Scan) (b : UInt8) : Except Cause (Bytes × Scan) :=
  match s with
  | .plain =>
    if b = 0x5C then .ok ([], .escape)
    else if b < 0x20 then .error .controlCharacter
    else .ok ([b], .plain)
  | .escape =>
    match letterEscape b with
    | some c => .ok ([c], .plain)
    | none => if b = 0x75 then .ok ([], .digits none 3 (some 0)) else .error .escapeInvalid
  | .digits first (more + 1) value => .ok ([], .digits first more (pushDigit value b))
  | .digits first 0 value =>
    match pushDigit value b with
    | some n => ofCodePoint first n
    | none => .error .escapeInvalid
  | .halfRead first => if b = 0x5C then .ok ([], .halfEscape first) else .error .surrogatePairBroken
  | .halfEscape first =>
    if b = 0x75 then .ok ([], .digits (some first) 3 (some 0)) else .error .surrogatePairBroken

end Scan

/-- Reads up to the closing quote, onto the bytes so far, the last first. -/
def readBytes : Scan → Bytes → Bytes → Step Bytes
  | _, _, [] => stopHere .endInString []
  | s, done, b :: r =>
    if s = .plain ∧ b = 0x22 then .ok (done.reverse, r)
    else
      match s.next b with
      | .error cause => stopHere cause r
      | .ok (out, s) => readBytes s (out.reverse ++ done) r

/-- Whether a byte stands for itself in a text. -/
def isPlainByte (b : UInt8) : Bool := b != 0x22 && b != 0x5C && decide (0x20 ≤ b)

/-- Reads a text whose opening quote has been read.  If it is not UTF-8,
the fault is as far before the end of the text as the first byte that
belongs to no character is before the end of the bytes it stands for. -/
def readText (cs : Bytes) : Step String :=
  match readBytes .plain [] cs with
  | .error s => .error s
  | .ok (bytes, r) =>
    match ofBytes? bytes with
    | some s => .ok (s, r)
    | none =>
      .error ⟨.codePointInvalid, some (r.length + (bytes.length - wellFormedLength bytes)), r⟩

/-! ## Passing over texts -/

/-- Where one stands who passes over a text. -/
inductive Passing where
  | plain
  | escape
  /-- Before a digit of a code point, with so many more to follow it. -/
  | digits (more : Nat) (valid : Bool)
  deriving DecidableEq, Inhabited, Repr

/-- Passes over the rest of a text. -/
def skipFrom : Passing → Bytes → Step Unit
  | _, [] => stopHere .endInString []
  | .plain, b :: r =>
    if b = 0x22 then .ok ((), r)
    else if b = 0x5C then skipFrom .escape r
    else if b < 0x20 then stopHere .controlCharacter (b :: r)
    else skipFrom .plain r
  | .escape, b :: r =>
    match letterEscape b with
    | some _ => skipFrom .plain r
    | none => if b = 0x75 then skipFrom (.digits 3 true) r else stopHere .escapeInvalid r
  | .digits (more + 1) valid, b :: r => skipFrom (.digits more (valid && (hexValue b).isSome)) r
  | .digits 0 valid, b :: r =>
    if valid && (hexValue b).isSome then skipFrom .plain r else stopHere .escapeInvalid r

/-- Passes over a text whose opening quote has been read.  Its bytes need
not be UTF-8 and its code points need not be characters. -/
def skipText (cs : Bytes) : Step Unit := skipFrom .plain cs

end Meterbank.Json
