import Mathlib.Algebra.Order.Ring.Int
import Mathlib.Order.Lattice
import Mathlib.Tactic.Linarith

namespace Shortfall

section Quotient

variable {scale x y z : ℤ}

theorem ediv_le_ediv_of_le (hscale : 0 ≤ scale) (hx : 0 ≤ x) (hy : 0 < y) (hyz : y ≤ z) :
    scale * x / z ≤ scale * x / y := by
  rw [Int.le_ediv_iff_mul_le hy]
  have hquotient : 0 ≤ scale * x / z :=
    Int.ediv_nonneg (mul_nonneg hscale hx) (hy.le.trans hyz)
  calc scale * x / z * y ≤ scale * x / z * z := mul_le_mul_of_nonneg_left hyz hquotient
    _ ≤ scale * x := Int.ediv_mul_le _ (hy.trans_le hyz).ne'

theorem ediv_le_scale (hscale : 0 ≤ scale) (hy : 0 < y) (hxy : x ≤ y) :
    scale * x / y ≤ scale := by
  have hle : scale * x / y ≤ scale * y / y :=
    Int.ediv_le_ediv hy (mul_le_mul_of_nonneg_left hxy hscale)
  rwa [Int.mul_ediv_cancel _ hy.ne'] at hle

theorem ediv_lt_scale (hscale : 0 < scale) (hy : 0 < y) (hxy : x < y) :
    scale * x / y < scale := by
  rw [Int.ediv_lt_iff_lt_mul hy]
  exact mul_lt_mul_of_pos_left hxy hscale

end Quotient

def shortfall (scale x y : ℤ) : ℤ := scale - scale * min x y / max x y

theorem shortfall_comm (scale x y : ℤ) : shortfall scale x y = shortfall scale y x := by
  rw [shortfall, shortfall, min_comm, max_comm]

theorem shortfall_of_le (scale : ℤ) {x y : ℤ} (hxy : x ≤ y) :
    shortfall scale x y = scale - scale * x / y := by
  rw [shortfall, min_eq_left hxy, max_eq_right hxy]

@[simp] theorem shortfall_self (scale : ℤ) {x : ℤ} (hx : 0 < x) : shortfall scale x x = 0 := by
  rw [shortfall_of_le scale le_rfl, Int.mul_ediv_cancel _ hx.ne', sub_self]

section Positive

variable {scale x y z : ℤ} (hscale : 0 < scale) (hx : 0 < x)
include hscale hx

theorem shortfall_le (hy : 0 < y) : shortfall scale x y ≤ scale := by
  have hquotient : 0 ≤ scale * min x y / max x y :=
    Int.ediv_nonneg (mul_nonneg hscale.le (le_min hx.le hy.le)) (le_max_of_le_left hx.le)
  rw [shortfall]
  omega

theorem shortfall_nonneg : 0 ≤ shortfall scale x y := by
  have hle : scale * min x y / max x y ≤ scale :=
    ediv_le_scale hscale.le (lt_max_of_lt_left hx) min_le_max
  rw [shortfall]
  omega

theorem shortfall_pos (hxy : x < y) : 0 < shortfall scale x y := by
  rw [shortfall_of_le scale hxy.le]
  exact sub_pos.mpr (ediv_lt_scale hscale (hx.trans hxy) hxy)

theorem shortfall_eq_zero_iff (hy : 0 < y) : shortfall scale x y = 0 ↔ x = y := by
  constructor
  · intro hzero
    rcases lt_trichotomy x y with hlt | heq | hgt
    · exact absurd hzero (shortfall_pos hscale hx hlt).ne'
    · exact heq
    · rw [shortfall_comm] at hzero
      exact absurd hzero (shortfall_pos hscale hy hgt).ne'
  · rintro rfl
    exact shortfall_self scale hx

theorem shortfall_le_right (hxy : x ≤ y) (hyz : y ≤ z) :
    shortfall scale x y ≤ shortfall scale x z := by
  have hquotient : scale * x / z ≤ scale * x / y :=
    ediv_le_ediv_of_le hscale.le hx.le (hx.trans_le hxy) hyz
  rw [shortfall_of_le scale hxy, shortfall_of_le scale (hxy.trans hyz)]
  omega

theorem shortfall_le_left (hxy : x ≤ y) (hyz : y ≤ z) :
    shortfall scale y z ≤ shortfall scale x z := by
  have hquotient : scale * x / z ≤ scale * y / z :=
    Int.ediv_le_ediv (hx.trans_le (hxy.trans hyz)) (mul_le_mul_of_nonneg_left hxy hscale.le)
  rw [shortfall_of_le scale hyz, shortfall_of_le scale (hxy.trans hyz)]
  omega

end Positive

end Shortfall
