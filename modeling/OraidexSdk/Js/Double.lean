import Mathlib.Algebra.Order.Round
import Mathlib.Data.Int.Log
import Mathlib.Data.Rat.Floor
import Mathlib.Tactic.FieldSimp
import Mathlib.Tactic.Linarith
import Mathlib.Tactic.NormNum

namespace Js

def nearestEven (x : ℚ) : ℤ :=
  if Int.fract x < 1 / 2 ∨ Int.fract x = 1 / 2 ∧ Even ⌊x⌋ then ⌊x⌋ else ⌊x⌋ + 1

-- The distance of neighbouring doubles in the binade of x.
def ulp (x : ℚ) : ℚ := 2 ^ (Int.log 2 |x| - 52)

-- The double nearest to x, for numbers between the smallest normal and the overflow.
def double (x : ℚ) : ℚ := nearestEven (x / ulp x) * ulp x

theorem abs_nearestEven_sub_le (x : ℚ) : |(nearestEven x : ℚ) - x| ≤ 1 / 2 := by
  have hfract := Int.self_sub_floor x
  have hlt := Int.fract_lt_one x
  have hnonneg := Int.fract_nonneg x
  unfold nearestEven
  split
  · rename_i h
    have hhalf : Int.fract x ≤ 1 / 2 := h.elim le_of_lt fun h => h.1.le
    rw [abs_le]
    constructor <;> linarith
  · rename_i h
    have hhalf : 1 / 2 ≤ Int.fract x := not_lt.mp fun hlow => h (.inl hlow)
    push_cast
    rw [abs_le]
    constructor <;> linarith

theorem nearestEven_of_near {x : ℚ} {n : ℤ} (h : |x - n| < 1 / 2) : nearestEven x = n := by
  have herror := abs_le.mp (abs_nearestEven_sub_le x)
  have hnear := abs_lt.mp h
  have hlow : (-1 : ℚ) < nearestEven x - n := by linarith
  have hhigh : (nearestEven x : ℚ) - n < 1 := by linarith
  have hlow' : -1 < nearestEven x - n := by exact_mod_cast hlow
  have hhigh' : nearestEven x - n < 1 := by exact_mod_cast hhigh
  omega

theorem nearestEven_of_tie {x : ℚ} {n : ℤ} (h : x = n + 1 / 2) (heven : Even n) :
    nearestEven x = n := by
  have hfloor : ⌊x⌋ = n := by
    rw [Int.floor_eq_iff, h]
    constructor <;> linarith
  have hfract : Int.fract x = 1 / 2 := by
    rw [Int.fract, hfloor, h]
    ring
  rw [nearestEven, if_pos (.inr ⟨hfract, hfloor ▸ heven⟩), hfloor]

theorem nearestEven_intCast (n : ℤ) : nearestEven n = n :=
  nearestEven_of_near (by simp)

theorem ulp_pos (x : ℚ) : 0 < ulp x := zpow_pos two_pos _

theorem ulp_le {x : ℚ} (h : x ≠ 0) : ulp x ≤ |x| / 2 ^ 52 := by
  have hlog := Int.zpow_log_le_self (b := 2) Nat.one_lt_two (abs_pos.mpr h)
  have hpow : ulp x = 2 ^ Int.log 2 |x| / 2 ^ 52 := by
    rw [ulp, zpow_sub₀ two_ne_zero]
    norm_num
  rw [hpow]
  push_cast at hlog
  gcongr

theorem double_zero : double 0 = 0 := by
  simp [double, nearestEven]

theorem abs_double_sub_le (x : ℚ) : |double x - x| ≤ |x| / 2 ^ 53 := by
  rcases eq_or_ne x 0 with rfl | hx
  · simp [double_zero]
  · have hpos := ulp_pos x
    have hscale : double x - x = (nearestEven (x / ulp x) - x / ulp x) * ulp x := by
      rw [double, sub_mul, div_mul_cancel₀ x hpos.ne']
    have hhalf : |double x - x| ≤ 1 / 2 * ulp x := by
      rw [hscale, abs_mul, abs_of_pos hpos]
      exact mul_le_mul_of_nonneg_right (abs_nearestEven_sub_le _) hpos.le
    have hulp := ulp_le hx
    have hpow : |x| / 2 ^ 53 = 1 / 2 * (|x| / 2 ^ 52) := by
      norm_num
      ring
    rw [hpow]
    linarith

theorem double_near {x bound : ℚ} (h : |x| ≤ bound) : |double x - x| ≤ bound / 2 ^ 53 :=
  (abs_double_sub_le x).trans (div_le_div_of_nonneg_right h (by positivity))

theorem double_eq {x : ℚ} {e : ℤ} (hlow : 2 ^ e ≤ |x|) (hhigh : |x| < 2 ^ (e + 1)) :
    double x = nearestEven (x / 2 ^ (e - 52)) * 2 ^ (e - 52) := by
  have hlog : Int.log 2 |x| = e := by
    have hpos : 0 < |x| := lt_of_lt_of_le (zpow_pos two_pos e) hlow
    have hge : e ≤ Int.log 2 |x| :=
      (Int.zpow_le_iff_le_log Nat.one_lt_two hpos).mp (by simpa using hlow)
    have hlt : Int.log 2 |x| < e + 1 :=
      (Int.lt_zpow_iff_log_lt Nat.one_lt_two hpos).mp (by simpa using hhigh)
    omega
  rw [double, ulp, hlog]

theorem double_intCast {n : ℤ} (h : |n| < 2 ^ 53) : double n = n := by
  rcases eq_or_ne n 0 with rfl | hn
  · simpa using double_zero
  · have hpos : (0 : ℚ) < |(n : ℚ)| := abs_pos.mpr (Int.cast_ne_zero.mpr hn)
    have hbound : |(n : ℚ)| < 2 ^ (53 : ℤ) := by exact_mod_cast h
    have hlog : Int.log 2 |(n : ℚ)| < 53 :=
      (Int.lt_zpow_iff_log_lt Nat.one_lt_two hpos).mp (by simpa using hbound)
    obtain ⟨k, hk⟩ : ∃ k : ℕ, 52 - Int.log 2 |(n : ℚ)| = k :=
      Int.eq_ofNat_of_zero_le (by omega)
    have hulp : ulp n = (2 ^ k)⁻¹ := by
      rw [ulp, ← zpow_natCast, ← zpow_neg]
      congr 1
      omega
    have hquotient : (n : ℚ) / ulp n = ((n * 2 ^ k : ℤ) : ℚ) := by
      rw [hulp, div_inv_eq_mul]
      push_cast
      rfl
    rw [double, hquotient, nearestEven_intCast, hulp]
    push_cast
    field_simp

end Js
