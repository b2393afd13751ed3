/-
  Meterbank.Text.Utf8 — texts as lists of bytes.

  Files and wire messages are bytes; names are texts.  A text is written
  as its UTF-8 bytes, and bytes are a text only if they are valid UTF-8.

  Main result:
    * `ofBytes?_bytes` — the bytes of a text read back as that text.
-/

namespace Meterbank.Text

/-- The UTF-8 bytes of a text. -/
def bytes (s : String) : List UInt8 :=
  s.toUTF8.data.toList

/-- The text with these UTF-8 bytes, if they are valid UTF-8. -/
def ofBytes? (bs : List UInt8) : Option String :=
  String.fromUTF8? ⟨bs.toArray⟩

/-- **The bytes of a text read back as that text.** -/
theorem ofBytes?_bytes (s : String) : ofBytes? (bytes s) = some s := by
  have h : (⟨(bytes s).toArray⟩ : ByteArray) = s.toByteArray := by
    simp [bytes]
  rw [ofBytes?, h, String.fromUTF8?]
  simp [s.isValidUTF8, String.fromUTF8]

/-! ## Where bytes stop being text -/

/-- The length of the character the bytes start with, if they do. -/
def characterLength (bs : List UInt8) : Option Nat :=
  [1, 2, 3, 4].find? fun n => n ≤ (bs.take n).length && (ofBytes? (bs.take n)).isSome

/-- How many of the first bytes are whole characters.  As many rounds as
there are bytes are enough. -/
def wellFormedLengthFuel : Nat → List UInt8 → Nat
  | 0, _ => 0
  | fuel + 1, bs =>
    match characterLength bs with
    | some n => n + wellFormedLengthFuel fuel (bs.drop n)
    | none => 0

/-- How many of the first bytes are whole characters. -/
def wellFormedLength (bs : List UInt8) : Nat := wellFormedLengthFuel bs.length bs

/-! ## Showing what may not be text -/

/-- How many bytes at the start could have been the start of a character,
if they are not the start of one that is whole; at least one. -/
def brokenLength : List UInt8 → Nat
  | b0 :: b1 :: rest =>
    let second :=
      if b0 = 0xe0 then 0xa0 ≤ b1 ∧ b1 ≤ 0xbf
      else if b0 = 0xed then 0x80 ≤ b1 ∧ b1 ≤ 0x9f
      else if b0 = 0xf0 then 0x90 ≤ b1 ∧ b1 ≤ 0xbf
      else if b0 = 0xf4 then 0x80 ≤ b1 ∧ b1 ≤ 0x8f
      else 0xe0 ≤ b0 ∧ b0 ≤ 0xf4 ∧ 0x80 ≤ b1 ∧ b1 ≤ 0xbf
    if ¬ second then 1
    else
      match rest with
      | b2 :: _ => if 0xf0 ≤ b0 ∧ 0x80 ≤ b2 ∧ b2 ≤ 0xbf then 3 else 2
      | [] => 2
  | _ => 1

/-- The characters in bytes, with a sign in place of what is none.  As
many rounds as there are bytes are enough. -/
def shownFuel : Nat → List UInt8 → List Char
  | 0, _ => []
  | _, [] => []
  | fuel + 1, bs =>
    match characterLength bs with
    | some n => ((ofBytes? (bs.take n)).getD "").toList ++ shownFuel fuel (bs.drop n)
    | none => Char.ofNat 0xfffd :: shownFuel fuel (bs.drop (brokenLength bs))

/-- Bytes as a text for people. -/
def shown (bs : List UInt8) : String := String.ofList (shownFuel bs.length bs)

end Meterbank.Text
