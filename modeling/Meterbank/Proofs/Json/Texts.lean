/-
  Meterbank.Proofs.Json.Texts — texts that were written are read.

  Every character of a text is written as itself or as an escape, and the
  reader makes of it the bytes of the character again: of an escape of
  one letter, of the code point of a control, and of bytes that look like
  no escape.  So the reader finds the bytes of the text between the
  quotes, whatever the text is.

  Main results:
    * `readBytes_escape` — a character is read from what was written for it.
    * `readString_quoteChars` — a text is read as it was written.
-/
import Meterbank.Json.Typed
import Meterbank.Proofs.Json.Encoding

namespace Meterbank.Json

/-! ## One character -/

/-- Bytes that look like no escape are read as they are, whatever follows. -/
theorem readBytes_plainBytes {bs : Bytes} (h : ∀ b ∈ bs, isPlainByte b = true) (done rest : Bytes) :
    readBytes .plain done (bs ++ rest) = readBytes .plain (bs.reverse ++ done) rest := by
  induction bs generalizing done with
  | nil => rfl
  | cons b bs ih =>
    have hb := h b (by simp)
    unfold isPlainByte at hb
    simp only [Bool.and_eq_true, bne_iff_ne, ne_eq, decide_eq_true_eq] at hb
    obtain ⟨⟨hq, he⟩, hc⟩ := hb
    have hlt : ¬ b < 0x20 := by
      rw [UInt8.le_iff_toNat_le] at hc
      rw [UInt8.lt_iff_toNat_lt]
      omega
    have hnext := ih (fun c hc => h c (List.mem_cons_of_mem b hc)) (b :: done)
    rw [List.cons_append, List.reverse_cons, List.append_assoc]
    simp only [readBytes, hq, and_false, if_false, Scan.next, he, hlt]
    exact hnext

/-- An escape of one letter is read as the byte it stands for. -/
theorem readBytes_letter (letter : UInt8) {byte : UInt8} (h : letterEscape letter = some byte)
    (done rest : Bytes) :
    readBytes .plain done (0x5C :: letter :: rest) = readBytes .plain (byte :: done) rest := by
  simp [readBytes, Scan.next, h]

/-- The digits of a code point below U+0020 are read as its byte. -/
theorem readBytes_control {high low : UInt8} {n : Nat} (hhigh : hexValue high = some (n / 16))
    (hlow : hexValue low = some (n % 16)) (hn : n < 0x20) (done rest : Bytes) :
    readBytes .plain done (0x5C :: 0x75 :: 0x30 :: 0x30 :: high :: low :: rest) =
      readBytes .plain (UInt8.ofNat n :: done) rest := by
  have hzero : hexValue 0x30 = some 0 := by decide
  have hletter : letterEscape 0x75 = none := by decide
  have hvalue : n / 16 * 16 + n % 16 = n := by omega
  have hpoint : Scan.ofCodePoint none n = .ok ([UInt8.ofNat n], .plain) := by
    unfold Scan.ofCodePoint
    simp only
    rw [if_neg (by omega), if_pos (by omega), utf8Encode_ascii n (by omega)]
  simp [readBytes, Scan.next, hletter, Scan.pushDigit, hzero, hhigh, hlow, hvalue, hpoint]

/-- The digits in which a code point is written are those it is read from. -/
theorem hexValue_hexDigit : ∀ n < 16, hexValue (UInt8.ofNat (hexDigit n).toNat) = some n := by
  decide

theorem hexDigit_ascii : ∀ n < 16, (hexDigit n).toNat < 0x80 := by decide

/-- **A character is read from what was written for it.** -/
theorem readBytes_escape (c : Char) (done rest : Bytes) :
    readBytes .plain done (encode (escape c) ++ rest) =
      readBytes .plain ((String.utf8EncodeChar c).reverse ++ done) rest := by
  by_cases hquote : c = '"'
  · subst hquote
    exact readBytes_letter 0x22 (by decide) done rest
  by_cases hslash : c = '\\'
  · subst hslash
    exact readBytes_letter 0x5C (by decide) done rest
  by_cases hcontrol : 0x20 ≤ c.toNat
  · rw [escape_plain c hquote hslash hcontrol, encode_cons, encode_nil, List.append_nil]
    exact readBytes_plainBytes (isPlainByte_of_plain hquote hslash hcontrol) done rest
  by_cases hline : c = '\n'
  · subst hline
    exact readBytes_letter 0x6E (by decide) done rest
  by_cases hreturn : c = '\r'
  · subst hreturn
    exact readBytes_letter 0x72 (by decide) done rest
  by_cases htab : c = '\t'
  · subst htab
    exact readBytes_letter 0x74 (by decide) done rest
  by_cases hback : c = '\x08'
  · subst hback
    exact readBytes_letter 0x62 (by decide) done rest
  by_cases hfeed : c = '\x0c'
  · subst hfeed
    exact readBytes_letter 0x66 (by decide) done rest
  · -- Any other control is written by its code point.
    have hlt : c.toNat < 0x20 := by omega
    have hwritten : escape c =
        ['\\', 'u', '0', '0', hexDigit (c.toNat / 16), hexDigit (c.toNat % 16)] := by
      unfold escape
      rw [if_neg hquote, if_neg hslash, if_neg hline, if_neg hreturn, if_neg htab, if_neg hback,
        if_neg hfeed, if_pos hlt]
    have hbytes : encode (escape c) = 0x5C :: 0x75 :: 0x30 :: 0x30 ::
        UInt8.ofNat (hexDigit (c.toNat / 16)).toNat ::
          UInt8.ofNat (hexDigit (c.toNat % 16)).toNat :: [] := by
      have hpair : encode [hexDigit (c.toNat / 16), hexDigit (c.toNat % 16)] =
          [UInt8.ofNat (hexDigit (c.toNat / 16)).toNat,
            UInt8.ofNat (hexDigit (c.toNat % 16)).toNat] := by
        rw [encode_ascii (hexDigit_ascii _ (by omega)), encode_ascii (hexDigit_ascii _ (by omega))]
        rfl
      rw [hwritten]
      exact congrArg (fun bs => 0x5C :: 0x75 :: 0x30 :: 0x30 :: bs) hpair
    rw [hbytes, utf8EncodeChar_ascii (by omega)]
    exact readBytes_control (hexValue_hexDigit _ (by omega)) (hexValue_hexDigit _ (by omega)) hlt
      done rest

/-! ## Whole texts -/

/-- What stands between the quotes is read as the bytes of the characters. -/
theorem readBytes_flatMap_escape (cs : List Char) (done rest : Bytes) :
    readBytes .plain done (encode (cs.flatMap escape) ++ 0x22 :: rest) =
      .ok (done.reverse ++ encode cs, rest) := by
  induction cs generalizing done with
  | nil => simp [readBytes]
  | cons c cs ih =>
    rw [List.flatMap_cons, encode_append, List.append_assoc, readBytes_escape, ih, encode_cons,
      List.reverse_append, List.reverse_reverse, List.append_assoc]

/-- The bytes of a text in quotes. -/
theorem encode_quoteChars (s : String) (rest : Bytes) :
    encode (quoteChars s) ++ rest = 0x22 :: (encode (s.toList.flatMap escape) ++ 0x22 :: rest) := by
  unfold quoteChars
  rw [encode_append, List.append_assoc]
  rfl

/-- A text is read up to its closing quote. -/
theorem readText_quoted (s : String) (rest : Bytes) :
    readText (encode (s.toList.flatMap escape) ++ 0x22 :: rest) = .ok (s, rest) := by
  unfold readText
  rw [readBytes_flatMap_escape, List.reverse_nil, List.nil_append]
  simp only
  rw [← bytes_eq_encode, Text.ofBytes?_bytes]

/-- **A text is read as it was written.** -/
theorem readString_quoteChars (s : String) (rest : Bytes) :
    readString (encode (quoteChars s) ++ rest) = .ok (s, rest) := by
  unfold readString
  rw [encode_quoteChars, skipBlanks_cons _ _ (by decide)]
  simp only
  rw [if_pos trivial, readText_quoted]

end Meterbank.Json
