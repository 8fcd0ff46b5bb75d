import OraidexSdk.Chart.Utils
import OraidexSdk.Ordered.Grid

namespace OraidexSdk.Chart
open Js

def bucketWidth (resolution : Number ℚ) : Number ℚ :=
  (resolution.mul (.finite 60)).mul (.finite 1000)

-- The time of the bar that handleTradeEvent makes.
def bucketStart (time : Number ℚ) (resolution : Number ℚ) : Number ℚ :=
  (roundTime (dateTime time) resolution).mul (.finite 1000)

section Rounding

variable {resolution time : Number ℚ} {width t : ℚ}

theorem roundTime_finite (hwidth : bucketWidth resolution = .finite width) (hne : width ≠ 0) :
    roundTime (.finite t) resolution = .finite (Grid.nearest width t / 1000) := by
  have hunit : (1000 : ℚ) ≠ 0 := by norm_num
  rw [bucketWidth] at hwidth
  simp only [roundTime, hwidth, Number.div_finite hne, Number.round_finite, Number.mul_finite,
    Number.div_finite hunit, Grid.nearest]

theorem dateTime_intCast (n : ℤ) :
    dateTime (.finite n) = if |n| ≤ 8640000000000000 then .finite (n : ℚ) else .nan := by
  have habs : |(n : ℚ)| ≤ 8640000000000000 ↔ |n| ≤ 8640000000000000 := by
    rw [← Int.cast_abs]
    exact_mod_cast Iff.rfl
  simp [dateTime, habs]

theorem roundTime_nan (resolution : Number ℚ) : roundTime .nan resolution = .nan := by
  simp [roundTime]

end Rounding

theorem bucketWidth_finite (resolution : ℚ) :
    bucketWidth (.finite resolution) = .finite (resolution * 60 * 1000) := rfl

theorem bucketStart_finite {t width : ℚ} {time resolution : Number ℚ}
    (htime : dateTime time = .finite t) (hwidth : bucketWidth resolution = .finite width)
    (hne : width ≠ 0) : bucketStart time resolution = .finite (Grid.nearest width t) := by
  rw [bucketStart, htime, roundTime_finite hwidth hne, Number.mul_finite,
    div_mul_cancel₀ _ (by norm_num)]

theorem bucketStart_nan {time : Number ℚ} (resolution : Number ℚ) (htime : dateTime time = .nan) :
    bucketStart time resolution = .nan := by
  rw [bucketStart, htime, roundTime_nan, Number.nan_mul]

theorem getCurrentBarTimestamp_finite {t resolution : ℚ} (hne : resolution * 60 * 1000 ≠ 0) :
    getCurrentBarTimestamp (.finite t) ((Number.finite resolution).mul (.finite 60)) =
      .finite (Grid.below (resolution * 60 * 1000) t) := by
  simp only [getCurrentBarTimestamp, Number.mul_finite, Number.div_finite hne, Number.floor_finite,
    Grid.below]

theorem getCurrentBarTimestamp_zero (time : Number ℚ) :
    getCurrentBarTimestamp time (.finite 0) = .nan := by
  simp only [getCurrentBarTimestamp, Number.mul_finite, zero_mul]
  cases time with
  | nan => rfl
  | infinity negative => simp [Number.div, Number.floor, Number.mul]
  | finite t => by_cases hzero : t = 0 <;> simp [Number.div, Number.floor, Number.mul, hzero]

-- Rounding agrees with flooring in the first half of a bar only.
theorem live_bucket_iff (t : ℤ) (resolution : ℚ) :
    (bucketStart (.finite t) (.finite resolution)).same
        (getCurrentBarTimestamp (.finite t) ((Number.finite resolution).mul (.finite 60))) = true ↔
      resolution ≠ 0 ∧ |t| ≤ 8640000000000000 ∧
        Int.fract ((t : ℚ) / (resolution * 60 * 1000)) < 1 / 2 := by
  rcases eq_or_ne resolution 0 with rfl | hresolution
  · simp [getCurrentBarTimestamp_zero]
  · have hwidth : resolution * 60 * 1000 ≠ 0 := by simpa using hresolution
    by_cases hrange : |t| ≤ 8640000000000000
    · have htime : dateTime (.finite t) = .finite (t : ℚ) := by rw [dateTime_intCast, if_pos hrange]
      rw [bucketStart_finite htime (bucketWidth_finite resolution) hwidth,
        getCurrentBarTimestamp_finite hwidth, Number.same_finite, decide_eq_true_eq,
        Grid.nearest_eq_below_iff hwidth]
      simp [hresolution, hrange]
    · have htime : dateTime (.finite t) = .nan := by rw [dateTime_intCast, if_neg hrange]
      simp [bucketStart_nan _ htime, hrange]

-- 2023-03-28T15:12:16.943Z in bars of six hours: 18:00 live, 12:00 in the history.
theorem quarter_day_rounded_up :
    bucketStart (.finite 1680016336943) (.finite 360) = .finite 1680026400000 ∧
      getCurrentBarTimestamp (.finite 1680016336943) ((Number.finite 360).mul (.finite 60)) =
        .finite 1680004800000 ∧
      ¬ ∀ (t : ℤ) (resolution : ℚ), 0 < resolution →
        (bucketStart (.finite t) (.finite resolution)).same
          (getCurrentBarTimestamp (.finite t) ((Number.finite resolution).mul (.finite 60))) =
            true := by
  have hlive : bucketStart (.finite 1680016336943) (.finite 360) = .finite 1680026400000 := by
    decide +kernel
  have hhistory : getCurrentBarTimestamp (.finite 1680016336943)
      ((Number.finite 360).mul (.finite 60)) = .finite 1680004800000 := by decide +kernel
  refine ⟨hlive, hhistory, fun h => ?_⟩
  have hsame := h 1680016336943 360 (by norm_num)
  rw [Int.cast_ofNat, hlive, hhistory] at hsame
  exact absurd hsame (by decide)

end OraidexSdk.Chart
