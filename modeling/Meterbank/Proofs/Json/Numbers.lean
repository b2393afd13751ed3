/-
  Meterbank.Proofs.Json.Numbers — numbers that were written are read.

  A number in a document ends where something follows that is no part of
  a number.  The digits of an integer are read as that integer.  A float
  is written with a point or an exponent, so it is never taken for an
  integer; wherever its notation puts the point, what is read is the same
  decimal, and that is rounded to the float it was written for.

  Main results:
    * `readInt64_integerDigits` — integers are read as they were written.
    * `readFloat64_floatChars` — and so are floats, bit by bit.
-/
import Meterbank.Json.Typed
import Meterbank.Proofs.Json.Encoding
import Meterbank.Proofs.Number.ReadBack

namespace Meterbank.Json

open Meterbank.Number

/-! ## Where a number ends -/

/-- What comes after a number, if it is no part of a number. -/
def StopsNumber (rest : Bytes) : Prop :=
  ∀ b ∈ rest.head?, isDigitByte b = false ∧ b ≠ 0x2E ∧ b ≠ 0x65 ∧ b ≠ 0x45

theorem StopsNumber.stopsDigits {rest : Bytes} (h : StopsNumber rest) : StopsDigits rest :=
  fun b hb => (h b hb).1

theorem stopsDigits_cons {b : UInt8} (h : isDigitByte b = false) (rest : Bytes) :
    StopsDigits (b :: rest) := by
  intro b' hb'
  rw [List.head?_cons, Option.mem_some_iff] at hb'
  rw [← hb']
  exact h

theorem stopsNumber_cons {b : UInt8}
    (h : isDigitByte b = false ∧ b ≠ 0x2E ∧ b ≠ 0x65 ∧ b ≠ 0x45) (rest : Bytes) :
    StopsNumber (b :: rest) := by
  intro b' hb'
  rw [List.head?_cons, Option.mem_some_iff] at hb'
  rw [← hb']
  exact h

namespace Numeral

variable {rest : Bytes}

/-! ## Parts of a number -/

/-- A zero stands alone before what follows it. -/
theorem readNumeral_zero (negative : Bool) (h : StopsDigits rest) :
    readNumeral negative (0x30 :: rest) = readTail negative 0 rest := by
  cases rest with
  | nil => rfl
  | cons b r =>
    have hb : isDigitByte b = false := h b (by simp)
    simp [readNumeral, hb]

/-- Digits that do not begin with a zero are read to their end. -/
theorem readNumeral_digits (negative : Bool) {c : Char} {cs : List Char} (h : AreDigits (c :: cs))
    (hzero : c ≠ '0') (hrest : StopsDigits rest) :
    readNumeral negative (encode (c :: cs) ++ rest) =
      readTail negative (Nat.ofDigitChars 10 (c :: cs) 0) rest := by
  have hc : c.isDigit = true := h c (by simp)
  have hcs : AreDigits cs := fun d hd => h d (List.mem_cons_of_mem c hd)
  have hfirst : UInt8.ofNat c.toNat ≠ 0x30 := by
    intro heq
    have hnat := congrArg UInt8.toNat heq
    rw [toNat_digit hc] at hnat
    exact hzero (Char.toNat_inj.1 hnat)
  have hnumber : digitsNumber ((UInt8.ofNat c.toNat).toNat - 0x30) (encode cs) =
      Nat.ofDigitChars 10 (c :: cs) 0 := by
    rw [digitsNumber_encode hcs, Nat.ofDigitChars_cons, toNat_digit hc]
    simp
  rw [encode_digit hc, List.cons_append]
  unfold readNumeral
  simp only
  rw [if_neg hfirst, if_pos (isDigitByte_digit hc), spanDigits_encode hcs hrest]
  simp only
  rw [hnumber]

/-- Digits after a point are read to their end. -/
theorem readTail_point (negative : Bool) (whole : ℕ) {cs : List Char} (h : AreDigits cs)
    (hne : cs ≠ []) (hrest : StopsDigits rest) :
    readTail negative whole (0x2E :: (encode cs ++ rest)) =
      readExponentPart negative (Nat.ofDigitChars 10 cs whole) cs.length rest := by
  have hlength := length_encode h
  have hsome : (encode cs).isEmpty = false := by
    rw [List.isEmpty_eq_false_iff, ← List.length_pos_iff, hlength, List.length_pos_iff]
    exact hne
  unfold readTail
  simp only [if_true, spanDigits_encode h hrest, hsome, Bool.false_eq_true, if_false, hlength,
    digitsNumber_encode h]

/-- Without an exponent the decimal ends. -/
theorem readExponentPart_none (negative : Bool) (digits places : ℕ) (h : StopsNumber rest) :
    readExponentPart negative digits places rest = finish negative digits (-(places : ℤ)) rest := by
  unfold readExponentPart
  cases rest with
  | nil => rfl
  | cons b r =>
    obtain ⟨-, -, hsmall, hlarge⟩ := h b (by simp)
    simp only
    rw [if_neg (by simp [hsmall, hlarge])]

/-- The digits of an exponent that is told apart are read to their end. -/
theorem scanExponent_encode {cs : List Char} (h : AreDigits cs) (hrest : StopsDigits rest)
    (soFar : ℕ) (hmax : Nat.ofDigitChars 10 cs soFar ≤ maxExponent) :
    scanExponent soFar (encode cs ++ rest) = (some (Nat.ofDigitChars 10 cs soFar), rest) := by
  induction cs generalizing soFar with
  | nil =>
    cases rest with
    | nil => simp [scanExponent]
    | cons b r =>
      have hb : isDigitByte b = false := hrest b (by simp)
      simp [scanExponent, hb]
  | cons c cs ih =>
    have hc : c.isDigit = true := h c (by simp)
    have hcs : AreDigits cs := fun d hd => h d (List.mem_cons_of_mem c hd)
    have hvalue : (UInt8.ofNat c.toNat).toNat - 0x30 = c.toNat - '0'.toNat := by
      rw [toNat_digit hc]
      rfl
    rw [Nat.ofDigitChars_cons] at hmax ⊢
    -- The number only grows, so no part of it is beyond the largest one.
    have hpart := le_ofDigitChars cs (10 * soFar + (c.toNat - '0'.toNat))
    rw [encode_digit hc, List.cons_append]
    unfold scanExponent
    simp only
    rw [if_pos (isDigitByte_digit hc), hvalue, if_neg (by omega)]
    exact ih hcs _ hmax

/-- An exponent with its sign is read to its end. -/
theorem readExponentPart_some (negative : Bool) (digits places k : ℕ) (down : Bool)
    (hk : k ≤ maxExponent) (h : StopsDigits rest) :
    readExponentPart negative digits places
        (0x65 :: (if down then 0x2D else 0x2B) :: (encode (Nat.toDigits 10 k) ++ rest)) =
      finish negative digits ((if down then -(k : ℤ) else k) - places) rest := by
  have hdigits := areDigits_toDigits k
  have hvalue : Nat.ofDigitChars 10 (Nat.toDigits 10 k) 0 = k := Nat.ofDigitChars_ten_toDigits
  obtain ⟨c, cs, hcs⟩ := List.exists_cons_of_ne_nil (Nat.toDigits_ne_nil (n := k) (b := 10))
  rw [hcs] at hdigits hvalue ⊢
  have hc : c.isDigit = true := hdigits c (by simp)
  have hrest : AreDigits cs := fun d hd => hdigits d (List.mem_cons_of_mem c hd)
  rw [Nat.ofDigitChars_cons, Nat.mul_zero, Nat.zero_add] at hvalue
  have hfirst : (UInt8.ofNat c.toNat).toNat - 0x30 = c.toNat - '0'.toNat := by
    rw [toNat_digit hc]
    rfl
  have hscan := scanExponent_encode hrest h (c.toNat - '0'.toNat) (by rw [hvalue]; exact hk)
  rw [hvalue] at hscan
  rw [encode_digit hc, List.cons_append]
  have hbyte := isDigitByte_digit hc
  generalize UInt8.ofNat c.toNat = b at hfirst hbyte
  rw [← hfirst] at hscan
  cases down <;> simp [readExponentPart, hbyte, hscan]

/-- What follows the digits of a whole number may be an exponent. -/
theorem readTail_exponent (negative : Bool) (whole : ℕ) (r : Bytes) :
    readTail negative whole (0x65 :: r) = readExponentPart negative whole 0 (0x65 :: r) := by
  simp [readTail]

/-! ## Whole numbers -/

/-- The digits of a number other than zero do not begin with a zero. -/
theorem toDigits_cons {n : ℕ} (hn : n ≠ 0) : ∃ c cs, Nat.toDigits 10 n = c :: cs ∧ c ≠ '0' := by
  induction n using Nat.strongRecOn with
  | ind n ih =>
    by_cases hsmall : n < 10
    · refine ⟨n.digitChar, [], Nat.toDigits_of_lt_base hsmall, ?_⟩
      intro h
      have hnat := congrArg Char.toNat h
      rw [Nat.toNat_digitChar_of_lt_ten hsmall] at hnat
      have hzero : '0'.toNat = 48 := rfl
      omega
    · obtain ⟨c, cs, hcs, hc⟩ := ih (n / 10) (by omega) (by omega)
      refine ⟨c, cs ++ [(n % 10).digitChar], ?_, hc⟩
      rw [Nat.toDigits_of_base_le (by decide) (by omega), hcs]
      rfl

/-- The digits of a number are read as that number. -/
theorem readNumeral_toDigits (negative : Bool) (n : ℕ) (h : StopsDigits rest) :
    readNumeral negative (encode (Nat.toDigits 10 n) ++ rest) = readTail negative n rest := by
  by_cases hn : n = 0
  · rw [hn]
    exact readNumeral_zero negative h
  · have hvalue : Nat.ofDigitChars 10 (Nat.toDigits 10 n) 0 = n := Nat.ofDigitChars_ten_toDigits
    have hdigits := areDigits_toDigits n
    obtain ⟨c, cs, hcs, hc⟩ := toDigits_cons hn
    rw [hcs] at hvalue hdigits ⊢
    rw [readNumeral_digits negative hdigits hc h, hvalue]

/-- A number that ends after its whole digits is an integer. -/
theorem readTail_whole (negative : Bool) (n : ℕ) (h : StopsNumber rest) :
    readTail negative n rest = ofWhole negative n rest := by
  cases rest with
  | nil => rfl
  | cons b r =>
    obtain ⟨-, hpoint, hsmall, hlarge⟩ := h b (by simp)
    simp [readTail, hpoint, hsmall, hlarge]

/-! ## Notations of a decimal -/

section

variable {c : Char} {cs : List Char} (hdigits : AreDigits (c :: cs)) (hc : c ≠ '0')
  (hrest : StopsNumber rest) (negative : Bool)

include hdigits hrest

/-- A zero before the point, and zeros after it. -/
theorem readNumeral_below (n : ℕ) :
    readNumeral negative (encode (['0', '.'] ++ zeros n ++ (c :: cs)) ++ rest) =
      finish negative (Nat.ofDigitChars 10 (c :: cs) 0) (-((n + (c :: cs).length : ℕ) : ℤ)) rest := by
  have hfraction : AreDigits (zeros n ++ (c :: cs)) := (areDigits_zeros n).append hdigits
  have hvalue : Nat.ofDigitChars 10 (zeros n ++ (c :: cs)) 0 = Nat.ofDigitChars 10 (c :: cs) 0 := by
    rw [Nat.ofDigitChars_append]
    unfold zeros
    rw [Nat.ofDigitChars_replicate_zero, Nat.mul_zero]
  have hlength : (zeros n ++ (c :: cs)).length = n + (c :: cs).length := by
    rw [List.length_append]
    unfold zeros
    rw [List.length_replicate]
  show readNumeral negative (0x30 :: 0x2E :: (encode (zeros n ++ (c :: cs)) ++ rest)) = _
  rw [readNumeral_zero negative (stopsDigits_cons (by decide) _),
    readTail_point negative 0 hfraction (by simp) hrest.stopsDigits,
    readExponentPart_none negative _ _ hrest, hvalue, hlength]

include hc

/-- The digits, zeros, and a zero after the point. -/
theorem readNumeral_above (n : ℕ) :
    readNumeral negative (encode ((c :: cs) ++ zeros n ++ ['.', '0']) ++ rest) =
      finish negative (10 * (Nat.ofDigitChars 10 (c :: cs) 0 * 10 ^ n)) (-1) rest := by
  have hwhole : AreDigits (c :: (cs ++ zeros n)) := hdigits.append (areDigits_zeros n)
  have hvalue : Nat.ofDigitChars 10 (c :: (cs ++ zeros n)) 0 =
      Nat.ofDigitChars 10 (c :: cs) 0 * 10 ^ n := by
    rw [← List.cons_append, Nat.ofDigitChars_append]
    unfold zeros
    rw [Nat.ofDigitChars_replicate_zero, Nat.mul_comm]
  have hfraction : AreDigits ['0'] := areDigits_zeros 1
  have hlast : Nat.ofDigitChars 10 ['0'] (Nat.ofDigitChars 10 (c :: cs) 0 * 10 ^ n) =
      10 * (Nat.ofDigitChars 10 (c :: cs) 0 * 10 ^ n) := by
    rw [Nat.ofDigitChars_cons, Nat.ofDigitChars_nil]
    rfl
  have hsplit : encode ((c :: cs) ++ zeros n ++ ['.', '0']) ++ rest =
      encode (c :: (cs ++ zeros n)) ++ (0x2E :: (encode ['0'] ++ rest)) := by
    rw [encode_append, List.append_assoc, List.cons_append]
    rfl
  rw [hsplit, readNumeral_digits negative hwhole hc (stopsDigits_cons (by decide) _),
    readTail_point negative _ hfraction (by simp) hrest.stopsDigits,
    readExponentPart_none negative _ _ hrest, hvalue, hlast]
  rfl

/-- Digits on both sides of the point. -/
theorem readNumeral_within {n : ℕ} (hpos : 0 < n) (hn : n < (c :: cs).length) :
    readNumeral negative (encode ((c :: cs).take n ++ '.' :: (c :: cs).drop n) ++ rest) =
      finish negative (Nat.ofDigitChars 10 (c :: cs) 0) (-(((c :: cs).length - n : ℕ) : ℤ)) rest := by
  obtain ⟨m, rfl⟩ : ∃ m, n = m + 1 := ⟨n - 1, by omega⟩
  have hwhole : AreDigits (c :: cs.take m) := hdigits.take (m + 1)
  have hfraction : AreDigits (cs.drop m) := hdigits.drop (m + 1)
  have hne : cs.drop m ≠ [] := by
    rw [← List.length_pos_iff, List.length_drop]
    rw [List.length_cons] at hn
    omega
  have hvalue : Nat.ofDigitChars 10 (cs.drop m) (Nat.ofDigitChars 10 (c :: cs.take m) 0) =
      Nat.ofDigitChars 10 (c :: cs) 0 := by
    rw [← Nat.ofDigitChars_append, List.cons_append, List.take_append_drop]
  have hlength : (cs.drop m).length = (c :: cs).length - (m + 1) := by
    rw [List.length_drop, List.length_cons]
    omega
  have hsplit : encode ((c :: cs).take (m + 1) ++ '.' :: (c :: cs).drop (m + 1)) ++ rest =
      encode (c :: cs.take m) ++ (0x2E :: (encode (cs.drop m) ++ rest)) := by
    rw [encode_append, List.append_assoc]
    rfl
  rw [hsplit, readNumeral_digits negative hwhole hc (stopsDigits_cons (by decide) _),
    readTail_point negative _ hfraction hne hrest.stopsDigits,
    readExponentPart_none negative _ _ hrest, hvalue, hlength]

/-- The point after the first digit, and an exponent. -/
theorem readNumeral_scientific {point : ℤ} (hpoint : (point - 1).natAbs ≤ maxExponent) :
    readNumeral negative (encode (scientific (c :: cs) point) ++ rest) =
      finish negative (Nat.ofDigitChars 10 (c :: cs) 0) (point - 1 - (cs.length : ℤ)) rest := by
  have hpower : (if point - 1 < 0 then -((point - 1).natAbs : ℤ) else (point - 1).natAbs) =
      point - 1 := by split <;> omega
  -- The exponent part, however the mantissa was written.
  have hexponent := fun digits places => readExponentPart_some negative digits places
    (point - 1).natAbs (decide (point - 1 < 0)) hpoint hrest.stopsDigits
  simp only [decide_eq_true_eq, hpower] at hexponent
  generalize htail : (0x65 :: (if point - 1 < 0 then (0x2D : UInt8) else 0x2B) ::
    (encode (Nat.toDigits 10 (point - 1).natAbs) ++ rest)) = tail at hexponent
  have hstops : StopsDigits tail := by
    rw [← htail]
    exact stopsDigits_cons (by decide) _
  have hencode : encode ('e' :: (if point - 1 < 0 then '-' else '+') ::
      Nat.toDigits 10 (point - 1).natAbs) ++ rest = tail := by
    rw [← htail]
    split <;> rfl
  have hsplit : encode (scientific (c :: cs) point) ++ rest =
      encode ([c] ++ (if cs.isEmpty then [] else '.' :: cs)) ++ tail := by
    rw [← hencode, ← List.append_assoc, ← encode_append]
    rfl
  have hfirst : AreDigits [c] := hdigits.take 1
  rw [hsplit]
  cases cs with
  | nil =>
    show readNumeral negative (encode [c] ++ tail) = _
    rw [readNumeral_digits negative hfirst hc hstops, ← htail, readTail_exponent, htail, hexponent]
    rfl
  | cons d ds =>
    have hfraction : AreDigits (d :: ds) := hdigits.drop 1
    have hsplit' : encode ([c] ++ (if (d :: ds).isEmpty then [] else '.' :: d :: ds)) ++ tail =
        encode [c] ++ (0x2E :: (encode (d :: ds) ++ tail)) := by
      rw [encode_append, List.append_assoc]
      rfl
    have hvalue : Nat.ofDigitChars 10 (d :: ds) (Nat.ofDigitChars 10 [c] 0) =
        Nat.ofDigitChars 10 (c :: d :: ds) 0 := by
      rw [← Nat.ofDigitChars_append]
      rfl
    rw [hsplit', readNumeral_digits negative hfirst hc (stopsDigits_cons (by decide) _),
      readTail_point negative _ hfraction (by simp) hstops, hexponent, hvalue]

end

/-- **A decimal is read as a decimal that is rounded alike**, wherever its
notation puts the point. -/
theorem readNumeral_decimalChars {d : Decimal} (hd : d.digits ≠ 0)
    (hlow : -330 ≤ (digitCount d.digits : ℤ) + d.exponent)
    (hhigh : (digitCount d.digits : ℤ) + d.exponent ≤ 310) (negative : Bool)
    (hrest : StopsNumber rest) :
    ∃ digits exponent, decimalMagnitude digits exponent = decimalMagnitude d.digits d.exponent ∧
      readNumeral negative (encode (decimalChars d) ++ rest) =
        finish negative digits exponent rest := by
  have hdigits := areDigits_toDigits d.digits
  have hvalue : Nat.ofDigitChars 10 (Nat.toDigits 10 d.digits) 0 = d.digits :=
    Nat.ofDigitChars_ten_toDigits
  have hcount : digitCount d.digits = (Nat.toDigits 10 d.digits).length := by
    unfold digitCount
    rw [if_neg hd]
  obtain ⟨c, cs, hcs, hc⟩ := toDigits_cons hd
  rw [hcount, hcs] at hlow hhigh
  rw [hcs] at hdigits hvalue
  unfold decimalChars
  simp only [hcs]
  generalize hpoint : ((c :: cs).length : ℤ) + d.exponent = point at hlow hhigh
  split
  · unfold positional
    split
    · -- A zero, the point, zeros, and the digits.
      have hexponent : -(((-point).toNat + (c :: cs).length : ℕ) : ℤ) = d.exponent := by omega
      refine ⟨d.digits, d.exponent, rfl, ?_⟩
      rw [readNumeral_below hdigits hrest negative (-point).toNat, hvalue, hexponent]
    · split
      · -- The digits, zeros, the point, and a zero.
        have hexponent : (-1 : ℤ) + 1 + ((point.toNat - (c :: cs).length : ℕ) : ℤ) = d.exponent := by
          omega
        refine ⟨_, _, ?_, readNumeral_above hdigits hc hrest negative _⟩
        rw [hvalue, decimalMagnitude_tenfold, decimalMagnitude_shift, hexponent]
      · -- The point stands between two digits.
        have hexponent : -(((c :: cs).length - point.toNat : ℕ) : ℤ) = d.exponent := by omega
        refine ⟨d.digits, d.exponent, rfl, ?_⟩
        rw [readNumeral_within hdigits hc hrest negative (by omega) (by omega), hvalue, hexponent]
  · have hmax : (point - 1).natAbs ≤ maxExponent := by
      have h331 : (point - 1).natAbs ≤ 331 := by omega
      exact le_trans h331 (by decide)
    have hexponent : point - 1 - (cs.length : ℤ) = d.exponent := by
      rw [← hpoint, List.length_cons]
      push_cast
      ring
    refine ⟨d.digits, d.exponent, rfl, ?_⟩
    rw [readNumeral_scientific hdigits hc hrest negative hmax, hvalue, hexponent]

/-- A decimal that is rounded to the magnitude of a value is that value. -/
theorem finish_eq {x : Binary64} (hx : x.isFinite = true) {digits : ℕ} {exponent : ℤ}
    (h : decimalMagnitude digits exponent = x.magnitude) :
    finish x.isNegative digits exponent rest = .ok (.float x, rest) := by
  have hnearest : nearest x.isNegative digits exponent = x := by
    unfold nearest
    rw [h, Binary64.ofParts_parts]
  unfold finish
  simp only [hnearest, hx, if_true]

end Numeral

/-! ## Values -/

variable {rest : Bytes}

/-- The digits of a float, without its sign. -/
theorem readNumeral_unsigned {x : Binary64} (hx : x.isFinite = true) (hrest : StopsNumber rest) :
    Numeral.readNumeral x.isNegative
        (encode (if x.isZero then ['0', '.', '0'] else decimalChars (shortest x)) ++ rest) =
      .ok (.float x, rest) := by
  by_cases hz : x.isZero = true
  · have hmagnitude : decimalMagnitude (Nat.ofDigitChars 10 ['0'] 0) (-((0 + ['0'].length : ℕ) : ℤ)) =
        x.magnitude := by
      have hzero : x.magnitude = 0 := by simpa [Binary64.isZero] using hz
      rw [hzero]
      rfl
    rw [if_pos hz, ← Numeral.finish_eq hx hmagnitude]
    exact Numeral.readNumeral_below (areDigits_zeros 1) hrest x.isNegative 0
  · have hz' : x.isZero = false := by simpa using hz
    have hback := shortest_readsBack hx hz'
    have hd := shortest_digits_ne_zero hx hz'
    have hnonzero : x.magnitude ≠ 0 := by simpa [Binary64.isZero] using hz
    have hfinite := (Binary64.isFinite_iff_magnitude x).1 hx
    obtain ⟨hlow, hhigh⟩ := leading_of_magnitude (by rw [hback]; exact hnonzero)
      (by rw [hback]; exact hfinite)
    obtain ⟨digits, exponent, hsame, hread⟩ :=
      Numeral.readNumeral_decimalChars hd hlow hhigh x.isNegative hrest
    rw [if_neg hz, hread]
    exact Numeral.finish_eq hx (hsame.trans hback)

/-- A number that was read begins with a digit. -/
theorem digit_of_readNumeral {negative : Bool} {cs : Bytes} {n : Numeral}
    (h : Numeral.readNumeral negative cs = .ok (n, rest)) :
    ∃ b r, cs = b :: r ∧ isDigitByte b = true := by
  cases cs with
  | nil => exact absurd h (by simp [Numeral.readNumeral, stopHere])
  | cons b r =>
    refine ⟨b, r, rfl, ?_⟩
    by_cases hzero : b = 0x30
    · rw [hzero]
      rfl
    · by_contra hb
      simp [Numeral.readNumeral, hzero, hb, stopHere] at h

theorem isBlankByte_of_isDigitByte {b : UInt8} (h : isDigitByte b = true) :
    isBlankByte b = false := by
  rw [isDigitByte_iff] at h
  simp only [isBlankByte, Bool.or_eq_false_iff, beq_eq_false_iff_ne, ne_eq, ← UInt8.toNat_inj]
  refine ⟨⟨⟨?_, ?_⟩, ?_⟩, ?_⟩
  · show ¬ b.toNat = 32
    omega
  · show ¬ b.toNat = 10
    omega
  · show ¬ b.toNat = 9
    omega
  · show ¬ b.toNat = 13
    omega

/-- A number without a sign is read where a number is expected. -/
theorem readNumber_unsigned {cs : Bytes} {n : Numeral} (expected : Expected)
    (h : Numeral.readNumeral false cs = .ok (n, rest)) :
    readNumber expected cs = .ok (n, rest) := by
  obtain ⟨b, r, rfl, hb⟩ := digit_of_readNumeral h
  have hminus : b ≠ 0x2D := by
    rintro rfl
    exact absurd hb (by decide)
  unfold readNumber
  rw [skipBlanks_cons b r (isBlankByte_of_isDigitByte hb)]
  simp only [hminus, if_false, hb, if_true, h]

/-- A number with a minus is read where a number is expected. -/
theorem readNumber_negative {cs : Bytes} {n : Numeral} (expected : Expected)
    (h : Numeral.readNumeral true cs = .ok (n, rest)) :
    readNumber expected (0x2D :: cs) = .ok (n, rest) := by
  unfold readNumber
  rw [skipBlanks_cons _ _ (by decide)]
  simp only [if_true, h]

/-- What starts as a number does. -/
def StartsNumber (cs : Bytes) : Prop := ∃ b r, cs = b :: r ∧ (b = 0x2D ∨ isDigitByte b = true)

theorem StartsNumber.append {cs : Bytes} (h : StartsNumber cs) (rest : Bytes) :
    StartsNumber (cs ++ rest) := by
  obtain ⟨b, r, rfl, hb⟩ := h
  exact ⟨b, r ++ rest, rfl, hb⟩

/-- What starts as a number is not `null`. -/
theorem StartsNumber.ne_null {cs : List Char} (h : StartsNumber (encode cs)) :
    cs ≠ ['n', 'u', 'l', 'l'] := by
  rintro rfl
  obtain ⟨b, r, hcs, hb⟩ := h
  obtain ⟨rfl, -⟩ := List.cons.inj (show 0x6E :: _ = b :: r from hcs)
  exact absurd hb (by decide)

/-- A float starts with a minus or a digit. -/
theorem startsNumber_floatChars {x : Binary64} (hx : x.isFinite = true) :
    StartsNumber (encode (floatChars x)) := by
  have hstops : StopsNumber [] := by
    intro b hb
    simp at hb
  have hread := readNumeral_unsigned hx hstops
  obtain ⟨b, r, hcs, hb⟩ := digit_of_readNumeral hread
  rw [List.append_nil] at hcs
  unfold floatChars
  rw [if_neg (by simp [hx])]
  simp only
  split
  · exact ⟨0x2D, _, rfl, Or.inl rfl⟩
  · exact ⟨b, r, hcs, Or.inr hb⟩

/-- An integer starts with a minus or a digit. -/
theorem startsNumber_integerDigits (n : ℤ) : StartsNumber (encode (integerDigits n)) := by
  unfold integerDigits
  split
  · exact ⟨0x2D, _, rfl, Or.inl rfl⟩
  · have hdigits := areDigits_toDigits n.natAbs
    cases hcs : Nat.toDigits 10 n.natAbs with
    | nil => exact absurd hcs Nat.toDigits_ne_nil
    | cons c cs =>
      have hc : c.isDigit = true := hdigits c (by simp [hcs])
      rw [encode_digit hc]
      exact ⟨_, _, rfl, Or.inr (isDigitByte_digit hc)⟩

/-- A number that may be absent is read, after a blank, if it is there. -/
theorem readOptional_number {α : Type} {value : Bytes → Step α} {a : α} {cs : Bytes}
    (hstart : StartsNumber cs) (h : value cs = .ok (a, rest)) :
    readOptional value (0x20 :: cs) = .ok (some a, rest) := by
  obtain ⟨b, r, rfl, hb⟩ := hstart
  have hplain : isBlankByte b = false := by
    rcases hb with rfl | hb
    · decide
    · exact isBlankByte_of_isDigitByte hb
  have hnull : b ≠ 0x6E := by
    rintro rfl
    exact absurd hb (by decide)
  unfold readOptional
  rw [show skipBlanks (0x20 :: b :: r) = skipBlanks (b :: r) from rfl, skipBlanks_cons b r hplain]
  simp only [hnull, if_false, h, Except.map]

/-- **Floats are read as they were written**, bit by bit. -/
theorem readFloat64_floatChars {x : Binary64} (hx : x.isFinite = true)
    (hrest : StopsNumber rest) : readFloat64 (encode (floatChars x) ++ rest) = .ok (x, rest) := by
  have hread := readNumeral_unsigned hx hrest
  have hnumber : readNumber .float64 (encode (floatChars x) ++ rest) = .ok (.float x, rest) := by
    unfold floatChars
    rw [if_neg (by simp [hx])]
    simp only
    generalize (if x.isZero then ['0', '.', '0'] else decimalChars (shortest x)) = unsigned at hread ⊢
    cases hn : x.isNegative with
    | false =>
      rw [hn] at hread
      rw [if_neg (by simp)]
      exact readNumber_unsigned .float64 hread
    | true =>
      rw [hn] at hread
      rw [if_pos rfl]
      exact readNumber_negative .float64 hread
  unfold readFloat64
  rw [hnumber]

/-- **Integers are read as they were written.** -/
theorem readInt64_integerDigits (n : Int64) (hrest : StopsNumber rest) :
    readInt64 (encode (integerDigits n.toInt) ++ rest) = .ok (n, rest) := by
  have hlow := n.le_toInt
  have hhigh := n.toInt_lt
  have hread : ∀ negative, Numeral.readNumeral negative
      (encode (Nat.toDigits 10 n.toInt.natAbs) ++ rest) =
        Numeral.ofWhole negative n.toInt.natAbs rest := by
    intro negative
    rw [Numeral.readNumeral_toDigits negative _ hrest.stopsDigits,
      Numeral.readTail_whole negative _ hrest]
  have hnumber : readNumber .integer64 (encode (integerDigits n.toInt) ++ rest) =
      .ok (.integer n.toInt, rest) := by
    unfold integerDigits
    by_cases hn : n.toInt < 0
    · -- Neither minus zero nor beyond the range.
      have hwhole : Numeral.ofWhole true n.toInt.natAbs rest = .ok (.integer n.toInt, rest) := by
        have hrange : ¬ (n.toInt.natAbs = 0 ∨ 1 <<< 63 < n.toInt.natAbs) := by
          simp only [Nat.reduceShiftLeft]
          omega
        have habs : -(n.toInt.natAbs : ℤ) = n.toInt := by omega
        unfold Numeral.ofWhole
        rw [if_pos rfl, if_neg hrange, habs]
      rw [if_pos hn]
      exact readNumber_negative .integer64 ((hread true).trans hwhole)
    · have hwhole : Numeral.ofWhole false n.toInt.natAbs rest = .ok (.integer n.toInt, rest) := by
        have hrange : n.toInt.natAbs < UInt64.size := by
          unfold UInt64.size
          omega
        have habs : (n.toInt.natAbs : ℤ) = n.toInt := by omega
        unfold Numeral.ofWhole
        rw [if_neg (by simp), if_pos hrange, habs]
      rw [if_neg hn]
      exact readNumber_unsigned .integer64 ((hread false).trans hwhole)
  unfold readInt64
  rw [hnumber]
  simp only [inRange64_toInt, if_true, Int64.ofInt_toInt]

end Meterbank.Json
