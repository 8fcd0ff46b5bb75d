import OraidexSdk.Ordered.Shortfall
import OraidexSdk.OraiswapV3.PriceImpact

namespace OraidexSdk.OraiswapV3
open Js Outcome Shortfall

-- The prices are the squares of their roots, so the order of the roots is that of the prices.
def priceDistance (startingSqrtPrice endingSqrtPrice : Int) : Int :=
  shortfall DENOMINATOR (startingSqrtPrice ^ 2) (endingSqrtPrice ^ 2)

def HasPriceImpact (startingSqrtPrice endingSqrtPrice impact : Int) : Prop :=
  calculatePriceImpact (.bigint startingSqrtPrice) (.bigint endingSqrtPrice) = .ok (.bigint impact)

theorem DENOMINATOR_pos : 0 < DENOMINATOR := by decide

@[simp] theorem mul_bigint (m n : Int) :
    (Value.bigint m).mul (.bigint n) = .ok (.bigint (m * n)) := rfl

@[simp] theorem sub_bigint (m n : Int) :
    (Value.bigint m).sub (.bigint n) = .ok (.bigint (m - n)) := rfl

@[simp] theorem ge_bigint (m n : Int) : (Value.bigint m).ge (.bigint n) = decide (n ≤ m) := by
  simp [Value.ge, Value.toNumber, Value.toNumeric, Number.ge]

theorem div_bigint (m : Int) {n : Int} (hn : n ≠ 0) :
    (Value.bigint m).div (.bigint n) = .ok (.bigint (m.tdiv n)) := by
  simp [Value.div, Value.operator, Value.toNumeric, hn]

section Positive

variable {a b : Int} (ha : 0 < a) (hb : 0 < b)
include ha hb

theorem hasPriceImpact : HasPriceImpact a b (priceDistance a b) := by
  have hstart : 0 < a ^ 2 := pow_pos ha 2
  have hend : 0 < b ^ 2 := pow_pos hb 2
  have hscale : 0 < DENOMINATOR := DENOMINATOR_pos
  unfold HasPriceImpact calculatePriceImpact
  simp only [mul_bigint, ok_bind, ge_bigint, ← sq, decide_eq_true_eq]
  split_ifs with hle
  · have hdividend : 0 ≤ DENOMINATOR * a ^ 2 := by positivity
    rw [div_bigint _ hend.ne', ok_bind, sub_bigint, Int.tdiv_eq_ediv_of_nonneg hdividend,
      priceDistance, shortfall_of_le _ hle]
  · have hdividend : 0 ≤ DENOMINATOR * b ^ 2 := by positivity
    rw [div_bigint _ hstart.ne', ok_bind, sub_bigint, Int.tdiv_eq_ediv_of_nonneg hdividend,
      priceDistance, shortfall_comm, shortfall_of_le _ (not_le.mp hle).le]

theorem sq_inj_of_pos : a ^ 2 = b ^ 2 ↔ a = b :=
  pow_left_inj₀ ha.le hb.le two_ne_zero

end Positive

theorem calculatePriceImpact_laws {a b c : Int} (ha : 0 < a) (hb : 0 < b) (hc : 0 < c) :
    ∃ ab ba bc ac : Int,
      HasPriceImpact a b ab ∧ HasPriceImpact b a ba ∧ HasPriceImpact b c bc ∧
      HasPriceImpact a c ac ∧ 0 ≤ ab ∧ ab ≤ 10 ^ 12 ∧ ab = ba ∧ (ab = 0 ↔ a = b) ∧
      (a ≤ b → b ≤ c → ab ≤ ac ∧ bc ≤ ac) := by
  have hstart : 0 < a ^ 2 := pow_pos ha 2
  have hmiddle : 0 < b ^ 2 := pow_pos hb 2
  refine ⟨priceDistance a b, priceDistance b a, priceDistance b c, priceDistance a c,
    hasPriceImpact ha hb, hasPriceImpact hb ha, hasPriceImpact hb hc, hasPriceImpact ha hc,
    shortfall_nonneg DENOMINATOR_pos hstart, shortfall_le DENOMINATOR_pos hstart hmiddle,
    shortfall_comm _ _ _, ?_, ?_⟩
  · rw [priceDistance, shortfall_eq_zero_iff DENOMINATOR_pos hstart hmiddle, sq_inj_of_pos ha hb]
  · intro hab hbc
    have hlower : a ^ 2 ≤ b ^ 2 := pow_le_pow_left₀ ha.le hab 2
    have hupper : b ^ 2 ≤ c ^ 2 := pow_le_pow_left₀ hb.le hbc 2
    exact ⟨shortfall_le_right DENOMINATOR_pos hstart hlower hupper,
      shortfall_le_left DENOMINATOR_pos hstart hlower hupper⟩

theorem calculatePriceImpact_laws_two_three_four :
    ∃ ab ba bc ac : Int,
      HasPriceImpact 2 3 ab ∧ HasPriceImpact 3 2 ba ∧ HasPriceImpact 3 4 bc ∧
      HasPriceImpact 2 4 ac ∧ 0 ≤ ab ∧ ab ≤ 10 ^ 12 ∧ ab = ba ∧ (ab = 0 ↔ (2 : Int) = 3) ∧
      ((2 : Int) ≤ 3 → (3 : Int) ≤ 4 → ab ≤ ac ∧ bc ≤ ac) :=
  calculatePriceImpact_laws (by decide) (by decide) (by decide)

end OraidexSdk.OraiswapV3
