import OraidexSdk.Decimal.Scaled
import Mathlib.Algebra.Order.Round
import Mathlib.Tactic.FieldSimp
import Mathlib.Tactic.Ring

namespace ScaledInteger

variable {K : Type} [Field K] [LinearOrder K] [FloorRing K] [IsStrictOrderedRing K]

theorem floor_sub_eq_iff {x e : K} (he : 0 ≤ e) : ⌊x - e⌋ = ⌊x⌋ ↔ e ≤ Int.fract x := by
  have hfloor := Int.floor_add_fract x
  have hlt := Int.lt_floor_add_one x
  rw [Int.floor_eq_iff]
  constructor
  · rintro ⟨hle, -⟩
    linarith
  · intro hle
    constructor <;> linarith

theorem round_eq_floor_iff {x : K} : round x = ⌊x⌋ ↔ Int.fract x < 1 / 2 := by
  have hfloor := Int.floor_add_fract x
  have hfract := Int.fract_nonneg x
  rw [round_eq_iff, Set.mem_Ico]
  constructor
  · rintro ⟨-, hlt⟩
    linarith
  · intro hlt
    constructor <;> linarith

theorem truncate_intCast (n : ℤ) : truncate (n : K) = n := by
  have h := truncate_div (K := K) n 1
  rwa [Int.cast_one, div_one, Int.tdiv_one] at h

theorem le_truncate {n : ℤ} {x : K} (hn : 0 ≤ n) (h : n ≤ x) : n ≤ truncate x := by
  rw [truncate_of_nonneg ((Int.cast_nonneg hn).trans h)]
  exact Int.le_floor.mpr h

theorem truncateTo_neg (b d : ℕ) (q : K) : truncateTo b d (-q) = -truncateTo b d q := by
  rw [truncateTo, truncateTo, neg_mul, truncate_neg, scaled, scaled, Int.cast_neg, neg_div]

def lost (b d : ℕ) (q : K) : K := |q - truncateTo b d q|

theorem lost_neg (b d : ℕ) (q : K) : lost b d (-q) = lost b d q := by
  rw [lost, lost, truncateTo_neg, ← neg_sub', abs_neg]

section Radix

variable (b : ℕ) [NeZero b]

theorem pow_radix_pos (d : ℕ) : (0 : K) < (b : K) ^ d :=
  pow_pos (Nat.cast_pos.mpr (NeZero.pos b)) d

theorem truncateTo_of_nonneg (d : ℕ) {q : K} (hq : 0 ≤ q) :
    truncateTo b d q = ⌊q * (b : K) ^ d⌋ / (b : K) ^ d := by
  have hscaled : 0 ≤ q * (b : K) ^ d := mul_nonneg hq (pow_radix_pos b d).le
  rw [truncateTo, truncate_of_nonneg hscaled, scaled]

theorem lost_of_nonneg (d : ℕ) {q : K} (hq : 0 ≤ q) :
    lost b d q = Int.fract (q * (b : K) ^ d) / (b : K) ^ d := by
  have hpow := pow_radix_pos (K := K) b d
  have hsplit : q - truncateTo b d q = Int.fract (q * (b : K) ^ d) / (b : K) ^ d := by
    rw [truncateTo_of_nonneg b d hq, Int.fract]
    field_simp
  rw [lost, hsplit, abs_of_nonneg (div_nonneg (Int.fract_nonneg _) hpow.le)]

theorem truncateTo_nonneg (d : ℕ) {q : K} (hq : 0 ≤ q) : 0 ≤ truncateTo b d q := by
  have hpow := pow_radix_pos (K := K) b d
  rw [truncateTo_of_nonneg b d hq]
  exact div_nonneg (Int.cast_nonneg (Int.floor_nonneg.mpr (mul_nonneg hq hpow.le))) hpow.le

theorem truncateTo_add_lost (d : ℕ) {q : K} (hq : 0 ≤ q) : truncateTo b d q + lost b d q = q := by
  have hpow := (pow_radix_pos (K := K) b d).ne'
  rw [lost_of_nonneg b d hq, truncateTo_of_nonneg b d hq, Int.fract]
  field_simp
  ring

theorem truncateTo_eq_iff (d : ℕ) {p q : K} (hp : 0 ≤ p) (hq : 0 ≤ q) :
    truncateTo b d p = truncateTo b d q ↔ ⌊p * (b : K) ^ d⌋ = ⌊q * (b : K) ^ d⌋ := by
  rw [truncateTo_of_nonneg b d hp, truncateTo_of_nonneg b d hq,
    div_left_inj' (pow_radix_pos b d).ne', Int.cast_inj]

-- A quotient of what one truncation leaves is truncated again as the exact
-- quotient is, unless the first cut is the larger one.
theorem truncateTo_div_truncateTo_of_nonneg (d e : ℕ) {q m : K} (hq : 0 ≤ q) (hm : 0 < m) :
    truncateTo b e (truncateTo b d q / m) = truncateTo b e (q / m) ↔
      lost b d q / m ≤ lost b e (q / m) := by
  have hquotient : 0 ≤ q / m := div_nonneg hq hm.le
  have hpow := pow_radix_pos (K := K) b e
  have hlost : 0 ≤ lost b d q / m * (b : K) ^ e :=
    mul_nonneg (div_nonneg (abs_nonneg _) hm.le) hpow.le
  have hle : truncateTo b d q = q - lost b d q := eq_sub_of_add_eq (truncateTo_add_lost b d hq)
  have hshift : truncateTo b d q / m * (b : K) ^ e =
      q / m * (b : K) ^ e - lost b d q / m * (b : K) ^ e := by
    rw [hle]
    ring
  rw [truncateTo_eq_iff b e (div_nonneg (truncateTo_nonneg b d hq) hm.le) hquotient, hshift,
    floor_sub_eq_iff hlost, lost_of_nonneg b e hquotient, le_div_iff₀ hpow]

theorem truncateTo_div_truncateTo (d e : ℕ) (q : K) {m : K} (hm : m ≠ 0) :
    truncateTo b e (truncateTo b d q / m) = truncateTo b e (q / m) ↔
      lost b d q / |m| ≤ lost b e (q / m) := by
  rcases le_total 0 q with hq | hq <;> rcases lt_or_gt_of_ne hm with hneg | hpos
  · have h := truncateTo_div_truncateTo_of_nonneg b d e hq (neg_pos.mpr hneg)
    rwa [div_neg, div_neg, truncateTo_neg, truncateTo_neg, neg_inj, lost_neg,
      ← abs_of_neg hneg] at h
  · rw [abs_of_pos hpos]
    exact truncateTo_div_truncateTo_of_nonneg b d e hq hpos
  · have h := truncateTo_div_truncateTo_of_nonneg b d e (neg_nonneg.mpr hq) (neg_pos.mpr hneg)
    rwa [truncateTo_neg, neg_div_neg_eq, neg_div_neg_eq, lost_neg, ← abs_of_neg hneg] at h
  · have h := truncateTo_div_truncateTo_of_nonneg b d e (neg_nonneg.mpr hq) hpos
    rw [abs_of_pos hpos]
    rwa [truncateTo_neg, neg_div, neg_div, truncateTo_neg, truncateTo_neg, neg_inj, lost_neg,
      lost_neg] at h

theorem mul_truncateTo_of_nonneg (d : ℕ) {q m : K} (hq : 0 ≤ q) (hm : 0 ≤ m) :
    truncate (m * truncateTo b d q) = ⌊m * q⌋ ↔ m * lost b d q ≤ Int.fract (m * q) := by
  have hlost : 0 ≤ m * lost b d q := mul_nonneg hm (abs_nonneg _)
  have hsplit : m * truncateTo b d q = m * q - m * lost b d q := by
    rw [eq_sub_of_add_eq (truncateTo_add_lost b d hq), mul_sub]
  rw [truncate_of_nonneg (mul_nonneg hm (truncateTo_nonneg b d hq)), hsplit, floor_sub_eq_iff hlost]

-- Below zero the truncation rounds up, so that nothing may be cut off.
theorem mul_truncateTo_of_neg (d : ℕ) {q m : K} (hq : 0 ≤ q) (hm : m < 0) :
    truncate (m * truncateTo b d q) = ⌊m * q⌋ ↔
      -m * lost b d q ≤ Int.fract (m * q) ∧ Int.fract (m * q) = 0 := by
  have hsum := congrArg (m * ·) (truncateTo_add_lost b d hq)
  have hlost : 0 ≤ -m * lost b d q := mul_nonneg (neg_nonneg.mpr hm.le) (abs_nonneg _)
  have hfloor := Int.floor_add_fract (m * q)
  simp only [mul_add] at hsum
  constructor
  · intro h
    have hup : m * truncateTo b d q ≤ ⌊m * q⌋ := by
      have hle := Int.floor_le (-(m * truncateTo b d q))
      rw [← neg_neg (m * truncateTo b d q), truncate_neg, truncate_of_nonneg] at h
      · rw [← h]
        push_cast
        linarith
      · rw [← neg_mul]
        exact mul_nonneg (neg_nonneg.mpr hm.le) (truncateTo_nonneg b d hq)
    have hfract := Int.fract_nonneg (m * q)
    constructor <;> linarith
  · rintro ⟨hle, hzero⟩
    have hexact : m * truncateTo b d q = (⌊m * q⌋ : ℤ) := by linarith
    rw [hexact, truncate_intCast]

theorem truncateTo_scaled {d e : ℕ} (hde : d ≤ e) (m : ℤ) :
    truncateTo b e (scaled K b m d) = scaled K b m d := by
  have hshift := scaled_shift (K := K) b m d (e - d)
  rw [Nat.add_sub_cancel' hde] at hshift
  rw [truncateTo, ← hshift, scaled_mul_pow, truncate_intCast]

theorem truncateTo_scaled_pow (m : ℤ) (d n : ℕ) :
    truncateTo b d (scaled K b m d ^ (n + 1)) =
      scaled K b ((m ^ (n + 1)).tdiv (((b : ℤ) ^ d) ^ n)) d := by
  have hpow := (pow_radix_pos (K := K) b d).ne'
  have hq : scaled K b m d ^ (n + 1) * (b : K) ^ d =
      ((m ^ (n + 1) : ℤ) : K) / (((b : ℤ) ^ d) ^ n : ℤ) := by
    rw [scaled]
    push_cast
    rw [div_pow, pow_succ ((b : K) ^ d), ← div_div, div_mul_cancel₀ _ hpow]
  rw [truncateTo, hq, truncate_div]

end Radix

end ScaledInteger
