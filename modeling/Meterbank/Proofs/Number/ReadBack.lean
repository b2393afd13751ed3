/-
  Meterbank.Proofs.Number.ReadBack — the digits of a gauge read back.

  A finite value is a significand times a power of two, in exactly one
  form, and its exact expansion in decimal is rounded to it.  The digits
  that are written were either read back when they were found or are the
  exact expansion, and zeros that were dropped do not count.  So they are
  rounded to the value they were written for.

  Main results:
    * `isForm_of_isFinite`, `magnitude_of_form` — the form of a value, and
      the value of a form.
    * `exactDecimal_readsBack` — the exact expansion reads back.
    * `shortest_readsBack` — and so do the digits that are written.
-/
import Meterbank.Number.Shortest
import Meterbank.Proofs.Number.Rounding

namespace Meterbank

namespace Binary64

variable {x : Binary64}

/-! ## The form of a value -/

theorem exponentField_eq (x : Binary64) : x.exponentField = x.magnitude / 4503599627370496 := rfl

/-- A finite value other than zero is in form. -/
theorem isForm_of_isFinite (hx : x.isFinite = true) (hz : x.isZero = false) :
    Number.IsForm x.significand x.power := by
  have hfinite := (isFinite_iff_magnitude x).1 hx
  have hnonzero : x.magnitude ≠ 0 := by simpa [isZero] using hz
  have hfield := x.exponentField_eq
  simp only [infinityMagnitude, Nat.reduceShiftLeft] at hfinite
  unfold significand power
  by_cases he : x.exponentField = 0
  · rw [if_pos he, if_pos he]
    exact ⟨by omega, by omega, le_refl _, .inl rfl⟩
  · rw [if_neg he, if_neg he]
    simp only [Nat.reduceShiftLeft]
    exact ⟨by omega, by omega, by omega, .inr (by omega)⟩

/-- The magnitude of a value is that of its form. -/
theorem magnitude_of_form (x : Binary64) :
    (x.power + 1074).toNat <<< 52 + x.significand = x.magnitude := by
  have hfield := x.exponentField_eq
  unfold significand power
  by_cases he : x.exponentField = 0
  · rw [if_pos he, if_pos he]
    show 0 <<< 52 + x.magnitude = x.magnitude
    rw [Nat.zero_shiftLeft, Nat.zero_add]
  · rw [if_neg he, if_neg he, Nat.shiftLeft_eq]
    simp only [Nat.reduceShiftLeft]
    omega

/-- The power of a finite value is bounded. -/
theorem power_le (hx : x.isFinite = true) : x.power ≤ 971 := by
  have hfinite := (isFinite_iff_magnitude x).1 hx
  have hfield := x.exponentField_eq
  simp only [infinityMagnitude, Nat.reduceShiftLeft] at hfinite
  unfold power
  split <;> omega

end Binary64

namespace Number

variable {x : Binary64}

/-! ## Neither too large nor too small -/

/-- What is not rounded to zero or beyond the finite values has its first
digit where no clamp applies. -/
theorem leading_of_magnitude {digits : ℕ} {exponent : ℤ}
    (hpos : decimalMagnitude digits exponent ≠ 0)
    (hlt : decimalMagnitude digits exponent < Binary64.infinityMagnitude) :
    -330 ≤ (digitCount digits : ℤ) + exponent ∧ (digitCount digits : ℤ) + exponent ≤ 310 := by
  unfold decimalMagnitude at hpos hlt
  by_cases hd : digits = 0
  · rw [if_pos hd] at hpos
    exact absurd rfl hpos
  rw [if_neg hd] at hpos hlt
  simp only at hpos hlt
  by_cases hlarge : (digitCount digits : ℤ) + exponent > 310
  · rw [if_pos hlarge] at hlt
    exact absurd hlt (lt_irrefl _)
  rw [if_neg hlarge] at hpos
  by_cases hsmall : (digitCount digits : ℤ) + exponent < -330
  · rw [if_pos hsmall] at hpos
    exact absurd rfl hpos
  omega

/-- A decimal that equals a value in form is rounded to it, if its first
digit is where no clamp applies. -/
theorem decimalMagnitude_exact (hx : x.isFinite = true) (hz : x.isZero = false) {digits : ℕ}
    {exponent : ℤ} (hd : digits ≠ 0) (hlow : -330 ≤ (digitCount digits : ℤ) + exponent)
    (hhigh : (digitCount digits : ℤ) + exponent ≤ 310)
    (hvalue : (digits : ℚ) * 10 ^ exponent = x.significand * 2 ^ x.power) :
    decimalMagnitude digits exponent = x.magnitude := by
  have hform := Binary64.isForm_of_isFinite hx hz
  have hfinite := (Binary64.isFinite_iff_magnitude x).1 hx
  unfold decimalMagnitude
  rw [if_neg hd]
  simp only
  rw [if_neg (by omega), if_neg (by omega)]
  by_cases he : 0 ≤ exponent
  · obtain ⟨n, hn⟩ := Int.eq_ofNat_of_zero_le he
    subst hn
    have hratio : ((digits * Nat.pow 10 n : ℕ) : ℚ) / ((1 : ℕ) : ℚ) =
        x.significand * 2 ^ x.power := by
      rw [← hvalue, zpow_natCast, Nat.cast_one, div_one]
      push_cast [Nat.pow_eq]
      rfl
    rw [if_pos he, Int.toNat_natCast, quotientMagnitude_exact hform (by decide) hratio,
      x.magnitude_of_form, Nat.min_eq_left hfinite.le]
  · obtain ⟨n, hn⟩ : ∃ n : ℕ, exponent = -(n : ℤ) := ⟨(-exponent).toNat, by omega⟩
    subst hn
    have hratio : (digits : ℚ) / ((Nat.pow 10 n : ℕ) : ℚ) = x.significand * 2 ^ x.power := by
      rw [← hvalue, zpow_neg, zpow_natCast, div_eq_mul_inv]
      push_cast [Nat.pow_eq]
      rfl
    have hround : quotientMagnitude digits (Nat.pow 10 n) =
        (x.power + 1074).toNat <<< 52 + x.significand :=
      quotientMagnitude_exact hform (Nat.pow_pos (by decide)) hratio
    rw [if_neg he, neg_neg, Int.toNat_natCast, hround, x.magnitude_of_form,
      Nat.min_eq_left hfinite.le]

/-! ## The exact expansion -/

/-- Nine powers of two are less than four of five. -/
theorem two_pow_le_five_pow {n k : ℕ} (h : n ≤ 9 * k + 5) : 2 ^ n ≤ 5 ^ (4 * k + 3) := by
  refine le_trans (Nat.pow_le_pow_right (by decide) h) ?_
  rw [pow_add, pow_add, pow_mul, pow_mul]
  exact Nat.mul_le_mul (Nat.pow_le_pow_left (by norm_num) k) (by norm_num)

/-- Ninety-three powers of two are less than twenty-eight of ten. -/
theorem two_pow_le_ten_pow {n k : ℕ} (h : n ≤ 93 * k + 1) : 2 ^ n ≤ 10 ^ (28 * k + 1) := by
  refine le_trans (Nat.pow_le_pow_right (by decide) h) ?_
  rw [pow_add, pow_add, pow_mul, pow_mul]
  exact Nat.mul_le_mul (Nat.pow_le_pow_left (by norm_num) k) (by norm_num)

/-- A significand with the largest power has no more than 309 digits. -/
theorem largest_lt_ten_pow {significand n : ℕ} (hs : significand < 2 ^ 53) (hn : n ≤ 971) :
    significand * 2 ^ n < 10 ^ (28 * 11 + 1) := by
  calc significand * 2 ^ n < 2 ^ 53 * 2 ^ n := Nat.mul_lt_mul_of_pos_right hs (Nat.two_pow_pos n)
    _ = 2 ^ (53 + n) := (pow_add 2 53 n).symm
    _ ≤ 10 ^ (28 * 11 + 1) := two_pow_le_ten_pow (by omega)

/-- In the expansion of a value with a negative power the first digit is
not too far behind the point. -/
theorem ten_pow_le_five_pow {n : ℕ} (hlow : 331 ≤ n) (hhigh : n ≤ 1074) :
    10 ^ (n - 331) ≤ 5 ^ n := by
  have hsum : 4 * 82 + 3 + (n - 331) = n := by omega
  calc 10 ^ (n - 331) = 2 ^ (n - 331) * 5 ^ (n - 331) := Nat.mul_pow 2 5 (n - 331)
    _ ≤ 5 ^ (4 * 82 + 3) * 5 ^ (n - 331) :=
      Nat.mul_le_mul_right _ (two_pow_le_five_pow (by omega))
    _ = 5 ^ n := by rw [← pow_add, hsum]

/-- **The exact expansion of a value reads back.** -/
theorem exactDecimal_readsBack (hx : x.isFinite = true) (hz : x.isZero = false) :
    decimalMagnitude (exactDecimal x).digits (exactDecimal x).exponent = x.magnitude := by
  have hform := Binary64.isForm_of_isFinite hx hz
  have hpower := Binary64.power_le hx
  have hpos := hform.pos
  have hlt := hform.lt
  have hleast := hform.least
  unfold exactDecimal
  by_cases hp : 0 ≤ x.power
  · obtain ⟨n, hn⟩ := Int.eq_ofNat_of_zero_le hp
    rw [if_pos hp]
    simp only
    rw [hn, Int.toNat_natCast, Nat.shiftLeft_eq]
    rw [hn] at hpower
    have hdigits : x.significand * 2 ^ n ≠ 0 := by positivity
    have hcount : digitCount (x.significand * 2 ^ n) ≤ 28 * 11 + 1 := by
      rw [digitCount_le_iff]
      exact largest_lt_ten_pow hlt (by omega)
    refine decimalMagnitude_exact hx hz hdigits (by omega) (by omega) ?_
    rw [hn, zpow_natCast, zpow_zero]
    push_cast
    ring
  · obtain ⟨n, hn⟩ : ∃ n : ℕ, x.power = -(n : ℤ) := ⟨(-x.power).toNat, by omega⟩
    rw [if_neg hp]
    simp only
    rw [hn, neg_neg, Int.toNat_natCast]
    show decimalMagnitude (x.significand * 5 ^ n) (-(n : ℤ)) = x.magnitude
    have hdigits : x.significand * 5 ^ n ≠ 0 := by positivity
    have hupper : digitCount (x.significand * 5 ^ n) ≤ n + 16 := by
      rw [digitCount_le_iff]
      have hmax : (2 : ℕ) ^ 53 ≤ 10 ^ 16 := by norm_num
      calc x.significand * 5 ^ n < 2 ^ 53 * 5 ^ n := by gcongr
        _ ≤ 10 ^ 16 * 10 ^ n := by gcongr; norm_num
        _ = 10 ^ (n + 16) := by ring
    have hlower : n ≤ digitCount (x.significand * 5 ^ n) + 330 := by
      by_contra hshort
      have hle : digitCount (x.significand * 5 ^ n) ≤ n - 331 := by omega
      rw [digitCount_le_iff] at hle
      have hpow := ten_pow_le_five_pow (n := n) (by omega) (by omega)
      have hone : 5 ^ n ≤ x.significand * 5 ^ n := Nat.le_mul_of_pos_left _ hpos
      omega
    refine decimalMagnitude_exact hx hz hdigits (by omega) (by omega) ?_
    rw [hn, zpow_neg, zpow_neg, zpow_natCast, zpow_natCast]
    have hten : (10 : ℚ) ^ n = 2 ^ n * 5 ^ n := by
      rw [← mul_pow]
      norm_num
    rw [hten]
    push_cast
    field_simp

/-! ## The digits that are written -/

/-- Zeros that are dropped do not count. -/
theorem dropZeros_magnitude (n : ℕ) (d : Decimal) :
    decimalMagnitude (d.dropZeros n).digits (d.dropZeros n).exponent =
      decimalMagnitude d.digits d.exponent := by
  induction n generalizing d with
  | zero => rfl
  | succ n ih =>
    unfold Decimal.dropZeros
    split
    · next h =>
      rw [ih]
      have hten : 10 * (d.digits / 10) = d.digits := by omega
      simp only
      rw [← decimalMagnitude_tenfold, hten]
    · rfl

/-- **The digits that are written for a value are rounded to it.** -/
theorem shortest_readsBack (hx : x.isFinite = true) (hz : x.isZero = false) :
    decimalMagnitude (shortest x).digits (shortest x).exponent = x.magnitude := by
  unfold shortest
  simp only
  rw [dropZeros_magnitude]
  rcases shortest_readsBack_or_exact x with hback | hexact
  · unfold Decimal.readsBack at hback
    exact eq_of_beq hback
  · rw [hexact]
    exact exactDecimal_readsBack hx hz

/-- There are digits to write. -/
theorem shortest_digits_ne_zero (hx : x.isFinite = true) (hz : x.isZero = false) :
    (shortest x).digits ≠ 0 := by
  intro hd
  have hback := shortest_readsBack hx hz
  rw [hd] at hback
  have hnonzero : x.magnitude ≠ 0 := by simpa [Binary64.isZero] using hz
  exact hnonzero hback.symm

end Number

end Meterbank
