import Mathlib.Algebra.Order.Floor.Ring
import Mathlib.Algebra.Order.Ring.Int
import Mathlib.Tactic.Linarith

namespace ScaledInteger

variable {K : Type} [Field K]

def scaled (K : Type) [Field K] (b : ℕ) (m : ℤ) (d : ℕ) : K := (m : K) / (b : K) ^ d

theorem scaled_add (b : ℕ) (m n : ℤ) (d : ℕ) :
    scaled K b (m + n) d = scaled K b m d + scaled K b n d := by
  simp only [scaled, Int.cast_add, add_div]

theorem scaled_sub (b : ℕ) (m n : ℤ) (d : ℕ) :
    scaled K b (m - n) d = scaled K b m d - scaled K b n d := by
  simp only [scaled, Int.cast_sub, sub_div]

section Radix

variable [CharZero K] (b : ℕ) [NeZero b]

theorem radix_pow_ne_zero (d : ℕ) : ((b : K) ^ d) ≠ 0 :=
  pow_ne_zero d (Nat.cast_ne_zero.mpr (NeZero.ne b))

theorem scaled_shift (m : ℤ) (d k : ℕ) :
    scaled K b (m * (b : ℤ) ^ k) (d + k) = scaled K b m d := by
  have hk : ((b : K) ^ k) ≠ 0 := radix_pow_ne_zero b k
  rw [scaled, scaled, pow_add]
  push_cast
  exact mul_div_mul_right _ _ hk

theorem scaled_inj {m n : ℤ} {d : ℕ} : scaled K b m d = scaled K b n d ↔ m = n := by
  rw [scaled, scaled, div_left_inj' (radix_pow_ne_zero b d), Int.cast_inj]

theorem scaled_eq_zero {m : ℤ} {d : ℕ} : scaled K b m d = 0 ↔ m = 0 := by
  rw [scaled, div_eq_zero_iff, Int.cast_eq_zero]
  exact or_iff_left (radix_pow_ne_zero b d)

theorem scaled_mul_pow (m : ℤ) (d : ℕ) : scaled K b m d * (b : K) ^ d = m :=
  div_mul_cancel₀ _ (radix_pow_ne_zero b d)

end Radix

section Truncation

variable [LinearOrder K] [FloorRing K]

def truncate (q : K) : ℤ := if 0 ≤ q then ⌊q⌋ else -⌊-q⌋

def truncateTo (b d : ℕ) (q : K) : K := scaled K b (truncate (q * (b : K) ^ d)) d

theorem truncate_of_nonneg {q : K} (h : 0 ≤ q) : truncate q = ⌊q⌋ := if_pos h

variable [IsStrictOrderedRing K]

theorem truncate_neg (q : K) : truncate (-q) = -truncate q := by
  rcases lt_trichotomy q 0 with h | rfl | h
  · rw [truncate, truncate, if_pos (by linarith), if_neg (by linarith), neg_neg]
  · simp [truncate]
  · rw [truncate, truncate, if_neg (by linarith), if_pos h.le, neg_neg]

theorem truncate_div_of_nonneg {m n : ℤ} (hm : 0 ≤ m) (hn : 0 ≤ n) :
    truncate ((m : K) / n) = m.tdiv n := by
  have hq : (0 : K) ≤ (m : K) / n := div_nonneg (Int.cast_nonneg hm) (Int.cast_nonneg hn)
  rw [truncate_of_nonneg hq, Int.floor_div_cast_of_nonneg hn, Int.floor_intCast,
    Int.tdiv_eq_ediv_of_nonneg hm]

theorem truncate_div (m n : ℤ) : truncate ((m : K) / n) = m.tdiv n := by
  rcases le_total 0 m with hm | hm <;> rcases le_total 0 n with hn | hn
  · exact truncate_div_of_nonneg hm hn
  · have h := truncate_div_of_nonneg (K := K) hm (neg_nonneg.mpr hn)
    rw [Int.cast_neg, div_neg, truncate_neg, Int.tdiv_neg] at h
    exact neg_injective h
  · have h := truncate_div_of_nonneg (K := K) (neg_nonneg.mpr hm) hn
    rw [Int.cast_neg, neg_div, truncate_neg, Int.neg_tdiv] at h
    exact neg_injective h
  · have h := truncate_div_of_nonneg (K := K) (neg_nonneg.mpr hm) (neg_nonneg.mpr hn)
    rwa [Int.cast_neg, Int.cast_neg, neg_div_neg_eq, Int.neg_tdiv_neg] at h

variable (b : ℕ) [NeZero b]

theorem truncateTo_scaled_mul (m n : ℤ) (d : ℕ) :
    truncateTo b d (scaled K b m d * scaled K b n d) =
      scaled K b ((m * n).tdiv ((b : ℤ) ^ d)) d := by
  have hq : scaled K b m d * scaled K b n d * (b : K) ^ d = ((m * n : ℤ) : K) / ((b : ℤ) ^ d : ℤ) := by
    rw [mul_assoc, scaled_mul_pow, scaled]
    push_cast
    exact div_mul_eq_mul_div _ _ _
  rw [truncateTo, hq, truncate_div]

theorem truncateTo_scaled_div (m n : ℤ) (d : ℕ) :
    truncateTo b d (scaled K b m d / scaled K b n d) =
      scaled K b ((m * (b : ℤ) ^ d).tdiv n) d := by
  have hd : ((b : K) ^ d) ≠ 0 := radix_pow_ne_zero b d
  have hq : scaled K b m d / scaled K b n d * (b : K) ^ d = ((m * (b : ℤ) ^ d : ℤ) : K) / n := by
    rw [scaled, scaled, div_div_div_cancel_right₀ hd, div_mul_eq_mul_div]
    push_cast
    rfl
  rw [truncateTo, hq, truncate_div]

end Truncation

end ScaledInteger
