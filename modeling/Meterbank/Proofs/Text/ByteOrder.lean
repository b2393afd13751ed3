/-
  Meterbank.Proofs.Text.ByteOrder — texts in the order of their bytes.

  Texts are ordered by their characters, one after the other.  What sorts
  names sorts their UTF-8 bytes.  The two orders are one: the more bytes a
  character has, the larger its first byte is, and of characters with the
  same number of bytes the bytes are digits, the most significant first.
  So the order of two texts is decided at the same place in both.

  Main results:
    * `utf8EncodeChar_append_lt` — the bytes of the smaller character come
      first, whatever follows.
    * `bytes_lt_iff` — texts are in the order of their bytes.
    * `compare_eq_lt_iff_bytes` — so tables are.
-/
import Mathlib.Data.String.Basic
import Meterbank.Proofs.Json.Encoding

namespace Meterbank.Text

open Meterbank.Json (encode encode_cons bytes_eq_encode)

/-! ## Digits of 64 -/

/-- The last digits of a number to the base 64, as bytes that continue a
character. -/
def continuation : Nat → Nat → List UInt8
  | 0, _ => []
  | n + 1, v => UInt8.ofNat (v / 64 ^ n % 64 + 128) :: continuation n v

/-- A first byte that is smaller decides. -/
theorem ofNat_cons_lt {a b : Nat} (h : a < b) (hb : b < 256) (r r' : List UInt8) :
    UInt8.ofNat a :: r < UInt8.ofNat b :: r' := by
  rw [List.cons_lt_cons_iff, UInt8.lt_iff_toNat_lt, UInt8.toNat_ofNat', UInt8.toNat_ofNat']
  omega

/-- Of numbers that agree before their last digits the smaller one comes
first. -/
theorem continuation_lt {v w : Nat} (hvw : v < w) (n : Nat) (h : v / 64 ^ n = w / 64 ^ n)
    (r r' : List UInt8) : continuation n v ++ r < continuation n w ++ r' := by
  induction n with
  | zero =>
    rw [Nat.pow_zero, Nat.div_one, Nat.div_one] at h
    omega
  | succ n ih =>
    have hle : v / 64 ^ n ≤ w / 64 ^ n := Nat.div_le_div_right (Nat.le_of_lt hvw)
    rw [Nat.pow_succ, ← Nat.div_div_eq_div_mul, ← Nat.div_div_eq_div_mul] at h
    -- The first digit decides, or it is the same and the rest decides.
    show UInt8.ofNat _ :: (continuation n v ++ r) < UInt8.ofNat _ :: (continuation n w ++ r')
    by_cases heq : v / 64 ^ n = w / 64 ^ n
    · rw [heq, List.cons_lt_cons_iff]
      exact .inr ⟨rfl, ih heq⟩
    · exact ofNat_cons_lt (by omega) (by omega) _ _

/-- The same of numbers behind a first byte that has their first digit. -/
theorem lead_lt {v w : Nat} (hvw : v < w) (n : Nat) {size mark : Nat} (hv : v / 64 ^ n < size)
    (hw : w / 64 ^ n < size) (hmark : size + mark ≤ 256) (r r' : List UInt8) :
    UInt8.ofNat (v / 64 ^ n % size + mark) :: (continuation n v ++ r) <
      UInt8.ofNat (w / 64 ^ n % size + mark) :: (continuation n w ++ r') := by
  have hle : v / 64 ^ n ≤ w / 64 ^ n := Nat.div_le_div_right (Nat.le_of_lt hvw)
  rw [Nat.mod_eq_of_lt hv, Nat.mod_eq_of_lt hw]
  by_cases heq : v / 64 ^ n = w / 64 ^ n
  · rw [heq, List.cons_lt_cons_iff]
    exact .inr ⟨rfl, continuation_lt hvw n heq r r'⟩
  · exact ofNat_cons_lt (by omega) (by omega) _ _

/-! ## Characters -/

/-- The bytes of a character: its number, or a first byte and digits. -/
theorem utf8EncodeChar_cases (c : Char) :
    (c.val.toNat ≤ 0x7f ∧ String.utf8EncodeChar c = [UInt8.ofNat c.val.toNat]) ∨
    (0x7f < c.val.toNat ∧ c.val.toNat ≤ 0x7ff ∧ String.utf8EncodeChar c =
      UInt8.ofNat (c.val.toNat / 64 ^ 1 % 32 + 192) :: continuation 1 c.val.toNat) ∨
    (0x7ff < c.val.toNat ∧ c.val.toNat ≤ 0xffff ∧ String.utf8EncodeChar c =
      UInt8.ofNat (c.val.toNat / 64 ^ 2 % 16 + 224) :: continuation 2 c.val.toNat) ∨
    (0xffff < c.val.toNat ∧ c.val.toNat ≤ 0x10ffff ∧ String.utf8EncodeChar c =
      UInt8.ofNat (c.val.toNat / 64 ^ 3 % 8 + 240) :: continuation 3 c.val.toNat) := by
  have hvalid : c.val.toNat ≤ 0x10ffff := by
    have h := c.valid
    unfold UInt32.isValidChar Nat.isValidChar at h
    omega
  have hdigits : (64 : Nat) ^ 0 = 1 ∧ (64 : Nat) ^ 1 = 64 ∧ (64 : Nat) ^ 2 = 4096 ∧
      (64 : Nat) ^ 3 = 262144 := by decide
  unfold String.utf8EncodeChar
  simp only [continuation, hdigits, Nat.div_one]
  by_cases h1 : c.val.toNat ≤ 0x7f
  · exact .inl ⟨h1, if_pos h1⟩
  · by_cases h2 : c.val.toNat ≤ 0x7ff
    · exact .inr (.inl ⟨by omega, h2, by rw [if_neg h1, if_pos h2]⟩)
    · by_cases h3 : c.val.toNat ≤ 0xffff
      · exact .inr (.inr (.inl ⟨by omega, h3, by rw [if_neg h1, if_neg h2, if_pos h3]⟩))
      · exact .inr (.inr (.inr ⟨by omega, hvalid, by rw [if_neg h1, if_neg h2, if_neg h3]⟩))

/-- **The bytes of the smaller character come first**, whatever follows. -/
theorem utf8EncodeChar_append_lt {c d : Char} (h : c < d) (r r' : List UInt8) :
    String.utf8EncodeChar c ++ r < String.utf8EncodeChar d ++ r' := by
  have hcd : c.val.toNat < d.val.toNat := h
  -- Characters of the same length are compared by their digits, others by their first bytes.
  rcases utf8EncodeChar_cases c with ⟨hc, ec⟩ | ⟨hc, hc', ec⟩ | ⟨hc, hc', ec⟩ | ⟨hc, hc', ec⟩ <;>
    rcases utf8EncodeChar_cases d with ⟨hd, ed⟩ | ⟨hd, hd', ed⟩ | ⟨hd, hd', ed⟩ | ⟨hd, hd', ed⟩ <;>
    rw [ec, ed] <;> simp only [List.cons_append]
  case inl.inl => exact ofNat_cons_lt hcd (by omega) _ _
  case inr.inl.inr.inl => exact lead_lt hcd 1 (by omega) (by omega) (by omega) r r'
  case inr.inr.inl.inr.inr.inl => exact lead_lt hcd 2 (by omega) (by omega) (by omega) r r'
  case inr.inr.inr.inr.inr.inr => exact lead_lt hcd 3 (by omega) (by omega) (by omega) r r'
  all_goals exact ofNat_cons_lt (by omega) (by omega) _ _

theorem utf8EncodeChar_ne_nil (c : Char) : String.utf8EncodeChar c ≠ [] := by
  rcases utf8EncodeChar_cases c with ⟨_, h⟩ | ⟨_, _, h⟩ | ⟨_, _, h⟩ | ⟨_, _, h⟩ <;> simp [h]

/-! ## Texts -/

theorem encode_lt {cs ds : List Char} (h : cs < ds) : encode cs < encode ds := by
  induction cs generalizing ds with
  | nil =>
    cases ds with
    | nil => exact absurd h (by simp)
    | cons d ds =>
      obtain ⟨b, bs, hb⟩ := List.exists_cons_of_ne_nil (utf8EncodeChar_ne_nil d)
      rw [encode_cons, hb]
      exact List.nil_lt_cons b _
  | cons c cs ih =>
    cases ds with
    | nil => exact absurd h (by simp)
    | cons d ds =>
      rw [encode_cons, encode_cons]
      rcases List.cons_lt_cons_iff.1 h with hcd | ⟨rfl, hrest⟩
      · exact utf8EncodeChar_append_lt hcd _ _
      · exact List.append_left_lt (ih hrest)

/-- **Texts are in the order of their bytes.** -/
theorem bytes_lt_iff (s t : String) : bytes s < bytes t ↔ s < t := by
  rw [bytes_eq_encode, bytes_eq_encode, String.lt_iff]
  constructor
  · intro h
    rcases lt_trichotomy s.toList t.toList with hlt | heq | hgt
    · exact hlt
    · rw [heq] at h
      exact absurd h (List.lt_irrefl _)
    · exact absurd h (List.lt_asymm (encode_lt hgt))
  · exact encode_lt

/-- **What is ordered by name is in the order of the names' bytes.** -/
theorem compare_eq_lt_iff_bytes (s t : String) : compare s t = .lt ↔ bytes s < bytes t := by
  rw [bytes_lt_iff]
  exact compare_lt_iff_lt

end Meterbank.Text
