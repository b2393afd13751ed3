/-
  Meterbank.Proofs.Json.Encoding — characters as they stand in a document.

  A document is written as characters and read as bytes.  A character
  below U+0080 is one byte, so digits, signs and brackets are the bytes
  the readers look for; the bytes of any other character are none of them.

  Main results:
    * `bytes_ofList` — the bytes of a text are those of its characters.
    * `spanDigits_encode` — digits that were written are read as far as
      they go.
    * `isPlainByte_of_plain` — a character that needs no escape has no
      byte that looks like one.
-/
import Meterbank.Json.Numeral
import Meterbank.Json.StringText
import Meterbank.Proofs.Number.Digits

namespace Meterbank.Json

open Meterbank.Number

/-! ## Characters and bytes -/

/-- The bytes of characters. -/
def encode (cs : List Char) : Bytes := cs.flatMap String.utf8EncodeChar

@[simp]
theorem encode_nil : encode [] = [] := rfl

theorem encode_cons (c : Char) (cs : List Char) :
    encode (c :: cs) = String.utf8EncodeChar c ++ encode cs := List.flatMap_cons

@[simp]
theorem encode_append (cs ds : List Char) : encode (cs ++ ds) = encode cs ++ encode ds :=
  List.flatMap_append

/-- **The bytes of a text are those of its characters.** -/
theorem bytes_ofList (cs : List Char) : Text.bytes (String.ofList cs) = encode cs := by
  unfold Text.bytes encode
  rw [String.toUTF8_eq_toByteArray, String.toByteArray_ofList, List.utf8Encode]
  simp

theorem bytes_eq_encode (s : String) : Text.bytes s = encode s.toList := by
  rw [← bytes_ofList, String.ofList_toList]

/-- A character below U+0080 is one byte. -/
theorem utf8EncodeChar_ascii {c : Char} (h : c.toNat < 0x80) :
    String.utf8EncodeChar c = [UInt8.ofNat c.toNat] := by
  have hle : c.val.toNat ≤ 0x7f := Nat.lt_succ_iff.1 h
  unfold String.utf8EncodeChar
  simp only
  rw [if_pos hle]
  rfl

theorem encode_ascii {c : Char} (h : c.toNat < 0x80) (cs : List Char) :
    encode (c :: cs) = UInt8.ofNat c.toNat :: encode cs := by
  rw [encode_cons, utf8EncodeChar_ascii h]
  rfl

/-- The bytes of any other character are above U+007F. -/
theorem utf8EncodeChar_high {c : Char} (h : 0x80 ≤ c.toNat) :
    ∀ b ∈ String.utf8EncodeChar c, 0x80 ≤ b.toNat := by
  have hgt : ¬ c.val.toNat ≤ 0x7f := by
    have h' : 0x80 ≤ c.val.toNat := h
    omega
  intro b hb
  unfold String.utf8EncodeChar at hb
  simp only at hb
  rw [if_neg hgt] at hb
  -- Every byte has its top bit set, the first one and those that follow.
  split at hb
  · simp only [List.mem_cons, List.not_mem_nil, or_false] at hb
    rcases hb with rfl | rfl <;> rw [UInt8.toNat_ofNat'] <;> omega
  · split at hb
    · simp only [List.mem_cons, List.not_mem_nil, or_false] at hb
      rcases hb with rfl | rfl | rfl <;> rw [UInt8.toNat_ofNat'] <;> omega
    · simp only [List.mem_cons, List.not_mem_nil, or_false] at hb
      rcases hb with rfl | rfl | rfl | rfl <;> rw [UInt8.toNat_ofNat'] <;> omega

/-- **A character that needs no escape has no byte that looks like one.** -/
theorem isPlainByte_of_plain {c : Char} (hq : c ≠ '"') (hb : c ≠ '\\') (hc : 0x20 ≤ c.toNat) :
    ∀ b ∈ String.utf8EncodeChar c, isPlainByte b = true := by
  intro b hmem
  unfold isPlainByte
  simp only [Bool.and_eq_true, bne_iff_ne, ne_eq, decide_eq_true_eq, ← UInt8.toNat_inj,
    UInt8.le_iff_toNat_le]
  by_cases hascii : c.toNat < 0x80
  · rw [utf8EncodeChar_ascii hascii, List.mem_singleton] at hmem
    have hnat : b.toNat = c.toNat := by
      rw [hmem, UInt8.toNat_ofNat']
      omega
    have hq' : c.toNat ≠ 0x22 := fun h => hq (Char.toNat_inj.1 h)
    have hb' : c.toNat ≠ 0x5C := fun h => hb (Char.toNat_inj.1 h)
    rw [hnat]
    exact ⟨⟨hq', hb'⟩, hc⟩
  · have hhigh := utf8EncodeChar_high (by omega) b hmem
    refine ⟨⟨?_, ?_⟩, ?_⟩
    · show ¬ b.toNat = 0x22
      omega
    · show ¬ b.toNat = 0x5C
      omega
    · show 0x20 ≤ b.toNat
      omega

/-! ## Digits -/

theorem areDigits_zeros (n : Nat) : AreDigits (zeros n) := by
  intro c h
  rw [List.eq_of_mem_replicate h]
  rfl

/-- A digit is one byte. -/
theorem encode_digit {c : Char} (h : c.isDigit = true) (cs : List Char) :
    encode (c :: cs) = UInt8.ofNat c.toNat :: encode cs := by
  have hc := isDigit_iff.1 h
  exact encode_ascii (by omega) cs

theorem toNat_digit {c : Char} (h : c.isDigit = true) : (UInt8.ofNat c.toNat).toNat = c.toNat := by
  have hc := isDigit_iff.1 h
  rw [UInt8.toNat_ofNat']
  omega

theorem isDigitByte_iff {b : UInt8} : isDigitByte b = true ↔ 48 ≤ b.toNat ∧ b.toNat ≤ 57 := by
  unfold isDigitByte
  rw [decide_eq_true_eq, UInt8.le_iff_toNat_le, UInt8.le_iff_toNat_le]
  exact Iff.rfl

theorem isDigitByte_digit {c : Char} (h : c.isDigit = true) :
    isDigitByte (UInt8.ofNat c.toNat) = true := by
  rw [isDigitByte_iff, toNat_digit h]
  exact isDigit_iff.1 h

/-- There are as many bytes as digits. -/
theorem length_encode {cs : List Char} (h : AreDigits cs) : (encode cs).length = cs.length := by
  induction cs with
  | nil => rfl
  | cons c cs ih =>
    rw [encode_digit (h c (by simp)), List.length_cons, List.length_cons,
      ih fun d hd => h d (List.mem_cons_of_mem c hd)]

/-- The bytes of digits are read as the number of the digits. -/
theorem digitsNumber_encode {cs : List Char} (h : AreDigits cs) (soFar : Nat) :
    digitsNumber soFar (encode cs) = Nat.ofDigitChars 10 cs soFar := by
  induction cs generalizing soFar with
  | nil => simp [digitsNumber]
  | cons c cs ih =>
    have hc := h c (by simp)
    have hcs : AreDigits cs := fun d hd => h d (List.mem_cons_of_mem c hd)
    rw [encode_digit hc, Nat.ofDigitChars_cons, ← ih hcs]
    show digitsNumber (10 * soFar + ((UInt8.ofNat c.toNat).toNat - 0x30)) (encode cs) = _
    rw [toNat_digit hc]
    rfl

/-- What comes after digits, if it does not go on with one. -/
def StopsDigits (rest : Bytes) : Prop := ∀ b ∈ rest.head?, isDigitByte b = false

/-- **Digits that were written are read as far as they go.** -/
theorem spanDigits_encode {cs : List Char} (h : AreDigits cs) {rest : Bytes}
    (hrest : StopsDigits rest) : Numeral.spanDigits (encode cs ++ rest) = (encode cs, rest) := by
  unfold Numeral.spanDigits
  induction cs with
  | nil =>
    cases rest with
    | nil => rfl
    | cons b r =>
      have hb := hrest b (by simp)
      simp [hb]
  | cons c cs ih =>
    have hc := isDigitByte_digit (h c (by simp))
    have hcs := ih fun d hd => h d (List.mem_cons_of_mem c hd)
    rw [Prod.mk.injEq] at hcs
    rw [encode_digit (h c (by simp)), List.cons_append, List.takeWhile_cons_of_pos hc,
      List.dropWhile_cons_of_pos hc, hcs.1, hcs.2]

end Meterbank.Json
