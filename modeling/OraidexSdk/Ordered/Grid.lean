import Mathlib.Algebra.Order.Field.Basic
import Mathlib.Algebra.Order.Floor.Ring
import Mathlib.Algebra.Order.Floor.Semiring
import Mathlib.Tactic.Linarith
import Mathlib.Tactic.FieldSimp
import Mathlib.Tactic.Ring

namespace Grid

variable {K : Type} [Field K] [LinearOrder K] [FloorRing K]

def below (width t : K) : K := ⌊t / width⌋ * width

-- Halves go up.
def nearest (width t : K) : K := ⌊t / width + 1 / 2⌋ * width

def Aligned (width t : K) : Prop := ∃ k : ℤ, t = k * width

theorem nearest_aligned (width t : K) : Aligned width (nearest width t) := ⟨_, rfl⟩

variable [IsStrictOrderedRing K] {width s t : K}

theorem nearest_eq_below_iff (hwidth : width ≠ 0) :
    nearest width t = below width t ↔ Int.fract (t / width) < 1 / 2 := by
  have hfloor : nearest width t = below width t ↔ ⌊t / width + 1 / 2⌋ = ⌊t / width⌋ := by
    rw [nearest, below, mul_left_inj' hwidth, Int.cast_inj]
  have hlower := Int.floor_le (t / width)
  rw [hfloor, Int.floor_eq_iff, Int.fract]
  constructor
  · intro h
    linarith [h.2]
  · intro h
    constructor <;> linarith

theorem Aligned.nearest_eq (hwidth : width ≠ 0) (h : Aligned width t) : nearest width t = t := by
  obtain ⟨k, rfl⟩ := h
  have hfloor : ⌊(k : K) + 1 / 2⌋ = k := by
    rw [Int.floor_eq_iff]
    constructor <;> linarith
  rw [nearest, mul_div_cancel_right₀ _ hwidth, hfloor]

theorem nearest_mono (width : K) (h : s ≤ t) : nearest width s ≤ nearest width t := by
  rcases le_total 0 width with hwidth | hwidth
  · have hdiv : s / width ≤ t / width := div_le_div_of_nonneg_right h hwidth
    have hfloor : ⌊s / width + 1 / 2⌋ ≤ ⌊t / width + 1 / 2⌋ := Int.floor_mono (by linarith)
    exact mul_le_mul_of_nonneg_right (Int.cast_le.mpr hfloor) hwidth
  · have hdiv : t / width ≤ s / width := div_le_div_of_nonpos_of_le hwidth h
    have hfloor : ⌊t / width + 1 / 2⌋ ≤ ⌊s / width + 1 / 2⌋ := Int.floor_mono (by linarith)
    exact mul_le_mul_of_nonpos_right (Int.cast_le.mpr hfloor) hwidth

theorem lt_of_nearest_lt (h : nearest width s < nearest width t) : s < t :=
  lt_of_not_ge fun hts => absurd (nearest_mono width hts) h.not_ge

theorem abs_nearest_sub_le (hwidth : width ≠ 0) : |nearest width t - t| ≤ |width| / 2 := by
  have hlower := Int.floor_le (t / width + 1 / 2)
  have hupper := Int.lt_floor_add_one (t / width + 1 / 2)
  have hdistance : |(⌊t / width + 1 / 2⌋ : K) - t / width| ≤ 1 / 2 := by
    rw [abs_le]
    constructor <;> linarith
  have hscale : nearest width t - t = ((⌊t / width + 1 / 2⌋ : K) - t / width) * width := by
    rw [nearest]
    field_simp
  rw [hscale, abs_mul]
  calc |(⌊t / width + 1 / 2⌋ : K) - t / width| * |width|
      ≤ 1 / 2 * |width| := mul_le_mul_of_nonneg_right hdistance (abs_nonneg width)
    _ = |width| / 2 := by ring

theorem Aligned.add_width_le (hs : Aligned width s) (ht : Aligned width t) (h : s < t) :
    s + |width| ≤ t := by
  obtain ⟨j, rfl⟩ := hs
  obtain ⟨k, rfl⟩ := ht
  have hne : (k : K) - j ≠ 0 := by
    intro hzero
    have heq : (k : K) = j := sub_eq_zero.mp hzero
    exact absurd h (by rw [heq]; exact lt_irrefl _)
  have hint : (1 : K) ≤ |(k : K) - j| := by
    rw [← Int.cast_sub, ← Int.cast_abs]
    rw [← Int.cast_sub, Int.cast_ne_zero] at hne
    exact_mod_cast Int.one_le_abs hne
  have hdiff : |(k : K) - j| * |width| = k * width - j * width := by
    rw [← abs_mul, sub_mul, abs_of_pos (sub_pos.mpr h)]
  have hmul : 1 * |width| ≤ |(k : K) - j| * |width| :=
    mul_le_mul_of_nonneg_right hint (abs_nonneg width)
  linarith

-- A later grid point nearest to some instant lies past every instant rounded before it.
theorem le_of_nearest_lt (hwidth : width ≠ 0) (h : nearest width s < nearest width t) :
    s + |width| / 2 ≤ nearest width t := by
  have hstep := (nearest_aligned width s).add_width_le (nearest_aligned width t) h
  have hnear := (abs_le.mp (abs_nearest_sub_le hwidth (t := s))).1
  linarith

end Grid
