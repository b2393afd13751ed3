/-
  Meterbank.Proofs.Number.Rounding — rounding depends on the number only.

  A quotient of natural numbers is rounded by its binary logarithm and
  one division.  Both depend on the rational number and not on how it is
  written, so a decimal is rounded to the same value with or without
  zeros at its end.  A number that is a binary value already is rounded
  to itself.

  Main results:
    * `floorLog2_eq_log` — the logarithm is that of the rational number.
    * `quotientMagnitude_congr` — equal quotients are rounded alike.
    * `quotientMagnitude_exact` — a binary value is rounded to itself.
    * `decimalMagnitude_tenfold` — a zero more at the end, and one power
      of ten less, is the same decimal.
-/
import Mathlib.Algebra.Order.Field.Power
import Mathlib.Algebra.Order.Floor.Semifield
import Mathlib.Data.Int.Log
import Mathlib.Data.Rat.Floor
import Mathlib.Tactic.FieldSimp
import Mathlib.Tactic.Positivity
import Mathlib.Tactic.Ring
import Meterbank.Number.Rounding

namespace Meterbank.Number

/-! ## The binary logarithm -/

/-- A logarithm is the exponent whose two powers the number lies between. -/
theorem log_eq_of_between {r : ℚ} {k : ℤ} (hr : 0 < r) (hlow : (2 : ℚ) ^ k ≤ r)
    (hhigh : r < (2 : ℚ) ^ (k + 1)) : Int.log 2 r = k := by
  apply le_antisymm
  · have hlt : Int.log 2 r < k + 1 :=
      (Int.lt_zpow_iff_log_lt (b := 2) (by decide) hr).1 (by exact_mod_cast hhigh)
    omega
  · exact (Int.zpow_le_iff_le_log (b := 2) (by decide) hr).1 (by exact_mod_cast hlow)

/-- Whether a quotient reaches a power of two, as natural numbers. -/
theorem reaches_iff (num : ℕ) {den : ℕ} (hden : 0 < den) (k : ℤ) :
    (if 0 ≤ k then decide (den <<< k.toNat ≤ num) else decide (den ≤ num <<< (-k).toNat)) = true ↔
      (2 : ℚ) ^ k ≤ num / den := by
  have hpos : (0 : ℚ) < den := by exact_mod_cast hden
  by_cases hk : 0 ≤ k
  · obtain ⟨n, rfl⟩ := Int.eq_ofNat_of_zero_le hk
    rw [if_pos hk, decide_eq_true_eq, Int.toNat_natCast, Nat.shiftLeft_eq, le_div_iff₀ hpos,
      zpow_natCast, mul_comm]
    exact_mod_cast Iff.rfl
  · obtain ⟨n, hn⟩ : ∃ n : ℕ, k = -(n : ℤ) := ⟨(-k).toNat, by omega⟩
    subst hn
    rw [if_neg hk, decide_eq_true_eq, neg_neg, Int.toNat_natCast, Nat.shiftLeft_eq, le_div_iff₀ hpos,
      zpow_neg, zpow_natCast, inv_mul_le_iff₀ (by positivity), mul_comm]
    exact_mod_cast Iff.rfl

/-- **The logarithm of a quotient is that of the rational number.** -/
theorem floorLog2_eq_log {num den : ℕ} (hnum : 0 < num) (hden : 0 < den) :
    floorLog2 num den = Int.log 2 ((num : ℚ) / den) := by
  have hn : (0 : ℚ) < num := by exact_mod_cast hnum
  have hd : (0 : ℚ) < den := by exact_mod_cast hden
  have hr : (0 : ℚ) < (num : ℚ) / den := div_pos hn hd
  -- Numerator and denominator lie between two powers each, so the quotient does.
  have hnlow : (2 : ℚ) ^ num.log2 ≤ num := by exact_mod_cast Nat.log2_self_le hnum.ne'
  have hnhigh : (num : ℚ) < 2 ^ (num.log2 + 1) := by exact_mod_cast Nat.lt_log2_self
  have hdlow : (2 : ℚ) ^ den.log2 ≤ den := by exact_mod_cast Nat.log2_self_le hden.ne'
  have hdhigh : (den : ℚ) < 2 ^ (den.log2 + 1) := by exact_mod_cast Nat.lt_log2_self
  have hlow : (2 : ℚ) ^ ((num.log2 : ℤ) - den.log2 - 1) ≤ num / den := by
    rw [le_div_iff₀ hd]
    calc (2 : ℚ) ^ ((num.log2 : ℤ) - den.log2 - 1) * den
        ≤ (2 : ℚ) ^ ((num.log2 : ℤ) - den.log2 - 1) * 2 ^ (den.log2 + 1) := by gcongr
      _ = 2 ^ num.log2 := by
        rw [← zpow_natCast, ← zpow_natCast, ← zpow_add₀ (by norm_num)]
        congr 1
        push_cast
        ring
      _ ≤ num := hnlow
  have hhigh : (num : ℚ) / den < 2 ^ ((num.log2 : ℤ) - den.log2 + 1) := by
    rw [div_lt_iff₀ hd]
    calc (num : ℚ) < 2 ^ (num.log2 + 1) := hnhigh
      _ = (2 : ℚ) ^ ((num.log2 : ℤ) - den.log2 + 1) * 2 ^ den.log2 := by
        rw [← zpow_natCast, ← zpow_natCast, ← zpow_add₀ (by norm_num)]
        congr 1
        push_cast
        ring
      _ ≤ (2 : ℚ) ^ ((num.log2 : ℤ) - den.log2 + 1) * den := by gcongr
  have hreach := reaches_iff num hden ((num.log2 : ℤ) - den.log2)
  unfold floorLog2
  simp only
  generalize (if 0 ≤ (num.log2 : ℤ) - den.log2 then
    decide (den <<< ((num.log2 : ℤ) - den.log2).toNat ≤ num)
    else decide (den ≤ num <<< (-((num.log2 : ℤ) - den.log2)).toNat)) = reached at hreach ⊢
  cases reached with
  | true =>
    rw [if_pos rfl]
    exact (log_eq_of_between hr (hreach.1 rfl) hhigh).symm
  | false =>
    rw [if_neg (by simp)]
    refine (log_eq_of_between hr hlow ?_).symm
    rw [sub_add_cancel]
    by_contra hge
    exact absurd (hreach.2 (not_lt.1 hge)) (by simp)

/-! ## Rounding a quotient -/

/-- A common factor does not change the rounding. -/
theorem divHalfEven_scale {k : ℕ} (hk : 0 < k) (num den : ℕ) :
    divHalfEven (k * num) (k * den) = divHalfEven num den := by
  have hdiv : k * num / (k * den) = num / den := Nat.mul_div_mul_left num den hk
  have hmod : k * num % (k * den) = k * (num % den) := Nat.mul_mod_mul_left k num den
  have htwice : 2 * (k * (num % den)) = k * (2 * (num % den)) := by ring
  have hmore : 2 * (k * (num % den)) > k * den ↔ 2 * (num % den) > den := by
    rw [htwice]
    exact Nat.mul_lt_mul_left hk
  have hsame : (2 * (k * (num % den)) == k * den) = (2 * (num % den) == den) := by
    rw [htwice, Bool.eq_iff_iff, beq_iff_eq, beq_iff_eq]
    exact Nat.mul_right_inj hk.ne'
  unfold divHalfEven
  simp only [hdiv, hmod, hmore, hsame]

/-- Equal quotients are rounded to the same integer. -/
theorem divHalfEven_congr {num den num' den' : ℕ} (hden : 0 < den) (hden' : 0 < den')
    (h : num * den' = num' * den) : divHalfEven num den = divHalfEven num' den' := by
  rw [← divHalfEven_scale hden' num den, ← divHalfEven_scale hden num' den', Nat.mul_comm den' num, h,
    Nat.mul_comm den' den, Nat.mul_comm num' den]

/-- The significand of a quotient, for a power of two. -/
theorem significand_congr {num den num' den' : ℕ} (hden : 0 < den) (hden' : 0 < den')
    (h : num * den' = num' * den) (power : ℤ) :
    (if 0 ≤ power then divHalfEven num (den <<< power.toNat)
      else divHalfEven (num <<< (-power).toNat) den) =
    if 0 ≤ power then divHalfEven num' (den' <<< power.toNat)
      else divHalfEven (num' <<< (-power).toNat) den' := by
  have hpow : ∀ n : ℕ, 0 < 2 ^ n := fun n => Nat.two_pow_pos n
  split
  · apply divHalfEven_congr
    · rw [Nat.shiftLeft_eq]
      exact Nat.mul_pos hden (hpow _)
    · rw [Nat.shiftLeft_eq]
      exact Nat.mul_pos hden' (hpow _)
    · rw [Nat.shiftLeft_eq, Nat.shiftLeft_eq, ← Nat.mul_assoc, ← Nat.mul_assoc, h]
  · apply divHalfEven_congr hden hden'
    rw [Nat.shiftLeft_eq, Nat.shiftLeft_eq, Nat.mul_right_comm, h, Nat.mul_right_comm]

/-- **Equal quotients are rounded alike.** -/
theorem quotientMagnitude_congr {num den num' den' : ℕ} (hden : 0 < den) (hden' : 0 < den')
    (h : num * den' = num' * den) : quotientMagnitude num den = quotientMagnitude num' den' := by
  unfold quotientMagnitude
  by_cases hnum : num = 0
  · have hnum' : num' = 0 := by
      rw [hnum, Nat.zero_mul] at h
      exact (Nat.mul_eq_zero.1 h.symm).resolve_right hden.ne'
    rw [if_pos hnum, if_pos hnum']
  · have hnum' : num' ≠ 0 := by
      rintro rfl
      rw [Nat.zero_mul] at h
      exact absurd (Nat.mul_eq_zero.1 h) (by omega)
    have hratio : (num : ℚ) / den = num' / den' := by
      rw [div_eq_div_iff (by exact_mod_cast hden.ne') (by exact_mod_cast hden'.ne')]
      exact_mod_cast h
    have hlog : floorLog2 num den = floorLog2 num' den' := by
      rw [floorLog2_eq_log (Nat.pos_of_ne_zero hnum) hden,
        floorLog2_eq_log (Nat.pos_of_ne_zero hnum') hden', hratio]
    rw [if_neg hnum, if_neg hnum']
    simp only [hlog, significand_congr hden hden' h]

/-! ## Binary values -/

/-- Whether `significand * 2 ^ power` is a binary value in its own form:
the significand has fifty-three bits, unless the power is the least. -/
structure IsForm (significand : ℕ) (power : ℤ) : Prop where
  pos : 0 < significand
  lt : significand < 2 ^ 53
  least : -1074 ≤ power
  full : power = -1074 ∨ 2 ^ 52 ≤ significand

/-- The form has the power that rounding looks for. -/
theorem IsForm.power_eq {significand : ℕ} {power : ℤ} (h : IsForm significand power) :
    max (Int.log 2 ((significand : ℚ) * 2 ^ power) - 52) (-1074) = power := by
  have hpos : (0 : ℚ) < significand := by exact_mod_cast h.pos
  have htwo : (0 : ℚ) < 2 ^ power := by positivity
  have hprod : (0 : ℚ) < (significand : ℚ) * 2 ^ power := mul_pos hpos htwo
  have hbound : Int.log 2 ((significand : ℚ) * 2 ^ power) < 53 + power := by
    refine (Int.lt_zpow_iff_log_lt (b := 2) (by decide) hprod).1 ?_
    have hlt : (significand : ℚ) < 2 ^ 53 := by exact_mod_cast h.lt
    calc (significand : ℚ) * 2 ^ power < 2 ^ 53 * 2 ^ power := by gcongr
      _ = ((2 : ℕ) : ℚ) ^ (53 + power) := by
        rw [zpow_add₀ (by norm_num)]
        norm_num
  rcases h.full with hleast | hfull
  · omega
  · have hlow : (52 : ℤ) + power ≤ Int.log 2 ((significand : ℚ) * 2 ^ power) := by
      refine (Int.zpow_le_iff_le_log (b := 2) (by decide) hprod).1 ?_
      have hle : (2 : ℚ) ^ 52 ≤ significand := by exact_mod_cast hfull
      calc ((2 : ℕ) : ℚ) ^ (52 + power) = 2 ^ 52 * 2 ^ power := by
            rw [zpow_add₀ (by norm_num)]
            norm_num
        _ ≤ (significand : ℚ) * 2 ^ power := by gcongr
    have hleast := h.least
    omega

/-- **A binary value is rounded to itself.** -/
theorem quotientMagnitude_exact {significand num den : ℕ} {power : ℤ}
    (h : IsForm significand power) (hden : 0 < den)
    (hratio : (num : ℚ) / den = significand * 2 ^ power) :
    quotientMagnitude num den = (power + 1074).toNat <<< 52 + significand := by
  have hd : (den : ℚ) ≠ 0 := by exact_mod_cast hden.ne'
  have hpos : (0 : ℚ) < significand := by exact_mod_cast h.pos
  have hnum : 0 < num := by
    have hr : (0 : ℚ) < (num : ℚ) / den := by
      rw [hratio]
      positivity
    by_contra hzero
    have hz : num = 0 := by omega
    rw [hz] at hr
    simp at hr
  have hpower : max (floorLog2 num den - 52) (-1074) = power := by
    rw [floorLog2_eq_log hnum hden, hratio, h.power_eq]
  have hvalue : (num : ℚ) = significand * 2 ^ power * den := by
    rw [← hratio, div_mul_cancel₀ _ hd]
  -- At this power the quotient is the significand, with nothing left over.
  have hexact : (if 0 ≤ power then divHalfEven num (den <<< power.toNat)
      else divHalfEven (num <<< (-power).toNat) den) = significand := by
    by_cases hp : 0 ≤ power
    · obtain ⟨n, hn⟩ := Int.eq_ofNat_of_zero_le hp
      subst hn
      have hwhole : num = significand * (den <<< n) := by
        rw [Nat.shiftLeft_eq]
        have hq : (num : ℚ) = ((significand * (den * 2 ^ n) : ℕ) : ℚ) := by
          rw [hvalue, zpow_natCast]
          push_cast
          ring
        exact_mod_cast hq
      rw [if_pos hp, Int.toNat_natCast, hwhole, divHalfEven_exact]
      rw [Nat.shiftLeft_eq]
      positivity
    · obtain ⟨n, hn⟩ : ∃ n : ℕ, power = -(n : ℤ) := ⟨(-power).toNat, by omega⟩
      subst hn
      have hwhole : num <<< n = significand * den := by
        rw [Nat.shiftLeft_eq]
        have hq : ((num * 2 ^ n : ℕ) : ℚ) = ((significand * den : ℕ) : ℚ) := by
          push_cast
          rw [hvalue, zpow_neg, zpow_natCast]
          field_simp
        exact_mod_cast hq
      rw [if_neg hp, neg_neg, Int.toNat_natCast, hwhole, divHalfEven_exact _ _ hden]
  unfold quotientMagnitude
  rw [if_neg hnum.ne']
  simp only [hpower, hexact]

/-! ## Decimals -/

/-- Digits are counted by the powers of ten they lie between. -/
theorem digitCount_le_iff {n k : ℕ} : digitCount n ≤ k ↔ n < 10 ^ k := by
  unfold digitCount
  by_cases hn : n = 0
  · rw [if_pos hn, hn]
    exact iff_of_true (Nat.zero_le k) (by positivity)
  · rw [if_neg hn]
    rcases Nat.eq_zero_or_pos k with rfl | hk
    · have hlength := Nat.length_toDigits_pos (b := 10) (n := n)
      rw [pow_zero]
      omega
    · exact Nat.length_toDigits_le_iff (by decide) hk

/-- A zero at the end is one digit more. -/
theorem digitCount_tenfold {n : ℕ} (hn : n ≠ 0) : digitCount (10 * n) = digitCount n + 1 := by
  have happend := Nat.toDigits_append_toDigits (b := 10) (n := n) (d := 0) (by decide)
    (Nat.pos_of_ne_zero hn) (by decide)
  unfold digitCount
  rw [if_neg hn, if_neg (by omega), ← Nat.add_zero (10 * n), ← happend, List.length_append]
  rfl

/-- **A zero more at the end, and a power of ten less, is the same decimal.** -/
theorem decimalMagnitude_tenfold (n : ℕ) (exponent : ℤ) :
    decimalMagnitude (10 * n) exponent = decimalMagnitude n (exponent + 1) := by
  by_cases hn : n = 0
  · rw [hn]
    rfl
  have hleading : ((digitCount (10 * n) : ℕ) : ℤ) + exponent = digitCount n + (exponent + 1) := by
    rw [digitCount_tenfold hn]
    push_cast
    ring
  unfold decimalMagnitude
  rw [if_neg hn, if_neg (by omega)]
  simp only [hleading]
  -- Neither clamp depends on where the zero is written.
  split
  · rfl
  · split
    · rfl
    · by_cases he : 0 ≤ exponent
      · have hpower : (exponent + 1).toNat = exponent.toNat + 1 := by omega
        have hsame : 10 * n * Nat.pow 10 exponent.toNat = n * Nat.pow 10 (exponent + 1).toNat := by
          rw [hpower]
          show 10 * n * 10 ^ exponent.toNat = n * 10 ^ (exponent.toNat + 1)
          ring
        rw [if_pos he, if_pos (by omega), hsame]
      · rw [if_neg he]
        obtain ⟨k, hk⟩ : ∃ k : ℕ, exponent = -((k : ℤ) + 1) := ⟨(-exponent - 1).toNat, by omega⟩
        have hneg : (-exponent).toNat = k + 1 := by omega
        by_cases hlast : exponent + 1 = 0
        · have hk0 : k = 0 := by omega
          have hquotient : quotientMagnitude (10 * n) (Nat.pow 10 (-exponent).toNat) =
              quotientMagnitude (n * Nat.pow 10 (exponent + 1).toNat) 1 := by
            apply quotientMagnitude_congr (Nat.pow_pos (by decide)) (by decide)
            rw [hneg, hk0, hlast]
            show 10 * n * 1 = n * 10 ^ 0 * 10 ^ 1
            ring
          rw [if_pos (by omega), hquotient]
        · have hneg' : (-(exponent + 1)).toNat = k := by omega
          have hquotient : quotientMagnitude (10 * n) (Nat.pow 10 (-exponent).toNat) =
              quotientMagnitude n (Nat.pow 10 (-(exponent + 1)).toNat) := by
            apply quotientMagnitude_congr (Nat.pow_pos (by decide)) (Nat.pow_pos (by decide))
            rw [hneg, hneg']
            show 10 * n * 10 ^ k = n * 10 ^ (k + 1)
            ring
          rw [if_neg (by omega), hquotient]

/-- So many zeros at the end, and so many powers of ten less. -/
theorem decimalMagnitude_shift (n k : ℕ) (exponent : ℤ) :
    decimalMagnitude (n * 10 ^ k) exponent = decimalMagnitude n (exponent + k) := by
  induction k generalizing exponent with
  | zero => simp
  | succ k ih =>
    have hsplit : n * 10 ^ (k + 1) = 10 * (n * 10 ^ k) := by ring
    rw [hsplit, decimalMagnitude_tenfold, ih]
    congr 1
    push_cast
    ring

end Meterbank.Number
