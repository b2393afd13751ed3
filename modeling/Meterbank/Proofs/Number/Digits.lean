/-
  Meterbank.Proofs.Number.Digits — integers written with digits.

  A numeral is a sign or none, and one or more digits, zeros in front or
  not.  It is read from the left, and given up as soon as the number read
  so far leaves the 64-bit range; as further digits only lead away from
  zero, it is given up exactly if the whole number is out of the range.
  The range has one more number below zero than above, so the digits after
  a minus sign are taken away one by one and not read as a number first.

  Main results:
    * `scanDigits_eq_ok_iff` — digits are read as their number.
    * `readInteger_eq_ok_iff` — exactly the numerals in the range are read.
-/
import Meterbank.Number.IntegerText

namespace Meterbank.Number

/-! ## Digits -/

/-- Whether characters are digits. -/
def AreDigits (cs : List Char) : Prop := ∀ c ∈ cs, c.isDigit = true

theorem isDigit_iff {c : Char} : c.isDigit = true ↔ 48 ≤ c.toNat ∧ c.toNat ≤ 57 := by
  unfold Char.isDigit
  rw [Bool.and_eq_true, decide_eq_true_eq, decide_eq_true_eq]
  exact Iff.rfl

theorem areDigits_cons_iff {c : Char} {cs : List Char} :
    AreDigits (c :: cs) ↔ c.isDigit = true ∧ AreDigits cs := List.forall_mem_cons

theorem AreDigits.append {cs ds : List Char} (hc : AreDigits cs) (hd : AreDigits ds) :
    AreDigits (cs ++ ds) := by
  intro c h
  rcases List.mem_append.1 h with h | h
  · exact hc c h
  · exact hd c h

theorem areDigits_toDigits (n : Nat) : AreDigits (Nat.toDigits 10 n) :=
  fun _ h => Nat.isDigit_of_mem_toDigits (by decide) (by decide) h

theorem AreDigits.take {cs : List Char} (h : AreDigits cs) (n : Nat) : AreDigits (cs.take n) :=
  fun c hc => h c (List.mem_of_mem_take hc)

theorem AreDigits.drop {cs : List Char} (h : AreDigits cs) (n : Nat) : AreDigits (cs.drop n) :=
  fun c hc => h c (List.mem_of_mem_drop hc)

/-- More digits make no number smaller. -/
theorem le_ofDigitChars (cs : List Char) (n : Nat) : n ≤ Nat.ofDigitChars 10 cs n := by
  induction cs generalizing n with
  | nil => simp
  | cons c cs ih =>
    rw [Nat.ofDigitChars_cons]
    have hnext := ih (10 * n + (c.toNat - '0'.toNat))
    omega

/-! ## Away from zero -/

/-- A number with a sign. -/
def signed (negative : Bool) (n : Nat) : Int := if negative then -(n : Int) else n

theorem appendDigit_signed (negative : Bool) (n : Nat) (c : Char) :
    appendDigit negative (signed negative n) c =
      signed negative (10 * n + (c.toNat - '0'.toNat)) := by
  unfold appendDigit signed
  cases negative with
  | false => simp
  | true =>
    simp
    omega

theorem inRange64_iff (i : Int) :
    inRange64 i = true ↔ -9223372036854775808 ≤ i ∧ i ≤ 9223372036854775807 := by
  have hmin : Int64.minValue.toInt = -9223372036854775808 := by decide
  have hmax : Int64.maxValue.toInt = 9223372036854775807 := by decide
  unfold inRange64
  rw [decide_eq_true_eq, hmin, hmax]

/-- What is out of the range stays there away from zero. -/
theorem inRange64_signed_of_le {negative : Bool} {m n : Nat} (hle : m ≤ n)
    (h : inRange64 (signed negative n) = true) : inRange64 (signed negative m) = true := by
  rw [inRange64_iff] at h ⊢
  unfold signed at h ⊢
  cases negative with
  | true =>
    rw [if_pos rfl] at h ⊢
    omega
  | false =>
    rw [if_neg (by decide)] at h ⊢
    omega

/-- **Digits are read as their number, if it is in the range.** -/
theorem scanDigits_eq_ok_iff (negative : Bool) (soFar : Nat) (cs : List Char) (m : Int)
    (hs : inRange64 (signed negative soFar) = true) :
    scanDigits negative (signed negative soFar) cs = .ok m ↔
      AreDigits cs ∧ m = signed negative (Nat.ofDigitChars 10 cs soFar) ∧ inRange64 m = true := by
  induction cs generalizing soFar with
  | nil =>
    rw [scanDigits, Except.ok.injEq, Nat.ofDigitChars_nil]
    constructor
    · rintro rfl
      exact ⟨fun c hc => absurd hc (by simp), rfl, hs⟩
    · rintro ⟨-, h, -⟩
      exact h.symm
  | cons c cs ih =>
    rw [scanDigits, appendDigit_signed, areDigits_cons_iff, Nat.ofDigitChars_cons]
    by_cases hc : c.isDigit = true
    · rw [if_neg (by rw [hc]; decide)]
      by_cases hrange : inRange64 (signed negative (10 * soFar + (c.toNat - '0'.toNat))) = true
      · rw [if_neg (by rw [hrange]; decide), ih _ hrange]
        simp only [hc, true_and]
      · rw [if_pos (by simpa using hrange)]
        constructor
        · intro h
          exact absurd h (by simp)
        · rintro ⟨-, rfl, hm⟩
          exact absurd (inRange64_signed_of_le (le_ofDigitChars cs _) hm) hrange
    · rw [if_pos (by simpa using hc)]
      constructor
      · intro h
        exact absurd h (by simp)
      · rintro ⟨⟨hdigit, -⟩, -⟩
        exact absurd hdigit hc

/-! ## Numerals -/

/-- Texts that write an integer: one or more digits, after a sign or not. -/
inductive Numeral : List Char → Int → Prop where
  | plain {ds : List Char} (hne : ds ≠ []) (hds : AreDigits ds) : Numeral ds (digitsValue ds)
  | plus {ds : List Char} (hne : ds ≠ []) (hds : AreDigits ds) :
      Numeral ('+' :: ds) (digitsValue ds)
  | minus {ds : List Char} (hne : ds ≠ []) (hds : AreDigits ds) :
      Numeral ('-' :: ds) (-digitsValue ds)

theorem splitSign_digits {ds : List Char} (hds : AreDigits ds) : splitSign ds = (false, ds) := by
  unfold splitSign
  split
  · exact absurd (areDigits_cons_iff.1 hds).1 (by decide)
  · exact absurd (areDigits_cons_iff.1 hds).1 (by decide)
  · rfl

/-- A numeral is told by what follows its sign. -/
theorem numeral_iff (cs : List Char) (i : Int) :
    Numeral cs i ↔ (splitSign cs).2 ≠ [] ∧ AreDigits (splitSign cs).2 ∧
      i = signed (splitSign cs).1 (digitsValue (splitSign cs).2) := by
  constructor
  · intro h
    cases h with
    | plain hne hds =>
      rw [splitSign_digits hds]
      exact ⟨hne, hds, rfl⟩
    | plus hne hds => exact ⟨hne, hds, rfl⟩
    | minus hne hds => exact ⟨hne, hds, rfl⟩
  · rintro ⟨hne, hds, rfl⟩
    unfold splitSign at hne hds ⊢
    split at hne <;> simp only at hne hds ⊢
    · exact .minus hne hds
    · exact .plus hne hds
    · exact .plain hne hds

/-- A text without digits is not read. -/
theorem readInteger_of_noDigits {cs : List Char} (h : (splitSign cs).2 = []) :
    ∃ e, readInteger cs = .error e := by
  unfold readInteger
  split
  · exact ⟨_, rfl⟩
  · simp only [h, List.isEmpty_nil, if_true]
    exact ⟨_, rfl⟩

/-- Of any other text the digits after the sign are read. -/
theorem readInteger_of_digits {cs : List Char} (h : (splitSign cs).2 ≠ []) :
    readInteger cs = (scanDigits (splitSign cs).1 0 (splitSign cs).2).map Int64.ofInt := by
  have hne : cs ≠ [] := by
    rintro rfl
    exact h rfl
  unfold readInteger
  rw [if_neg (by simpa using hne)]
  show (if (splitSign cs).2.isEmpty = true then .error .invalidDigit
    else (scanDigits (splitSign cs).1 0 (splitSign cs).2).map Int64.ofInt) = _
  rw [if_neg (by simpa using h)]

/-- What was read is in the range, so it is a 64-bit number. -/
theorem map_scanDigits_eq_ok_iff (negative : Bool) (ds : List Char) (n : Int64) :
    (scanDigits negative 0 ds).map Int64.ofInt = .ok n ↔
      scanDigits negative 0 ds = .ok n.toInt := by
  cases hm : scanDigits negative 0 ds with
  | error e => simp [Except.map]
  | ok m =>
    have hrange := scanDigits_ok_inRange negative ds 0 m (by decide) hm
    simp only [Except.map, Except.ok.injEq]
    constructor
    · rintro rfl
      rw [toInt_ofInt_of_inRange hrange]
    · rintro rfl
      exact Int64.ofInt_toInt n

/-- **Exactly the numerals in the range are read**, and as their number. -/
theorem readInteger_eq_ok_iff (cs : List Char) (n : Int64) :
    readInteger cs = .ok n ↔ Numeral cs n.toInt := by
  rw [numeral_iff]
  by_cases hdigits : (splitSign cs).2 = []
  · obtain ⟨e, he⟩ := readInteger_of_noDigits hdigits
    rw [he]
    exact ⟨fun h => absurd h (by simp), fun h => absurd hdigits h.1⟩
  · have hzero : signed (splitSign cs).1 0 = 0 := by cases (splitSign cs).1 <;> rfl
    have hscan := scanDigits_eq_ok_iff (splitSign cs).1 0 (splitSign cs).2 n.toInt
      (by rw [hzero]; decide)
    rw [hzero] at hscan
    rw [readInteger_of_digits hdigits, map_scanDigits_eq_ok_iff, hscan, inRange64_toInt]
    exact ⟨fun h => ⟨hdigits, h.1, h.2.1⟩, fun h => ⟨h.2.1, h.2.2, rfl⟩⟩

/-- The decimal text of an integer is a numeral for it. -/
theorem numeral_integerDigits (i : Int) : Numeral (integerDigits i) i := by
  have hvalue : digitsValue (Nat.toDigits 10 i.natAbs) = i.natAbs := Nat.ofDigitChars_ten_toDigits
  have hne : Nat.toDigits 10 i.natAbs ≠ [] := Nat.toDigits_ne_nil
  have hds := areDigits_toDigits i.natAbs
  unfold integerDigits
  by_cases hneg : i < 0
  · rw [if_pos hneg]
    have h := Numeral.minus hne hds
    rwa [hvalue, show -(i.natAbs : Int) = i by omega] at h
  · rw [if_neg hneg]
    have h := Numeral.plain hne hds
    rwa [hvalue, show (i.natAbs : Int) = i by omega] at h

end Meterbank.Number
