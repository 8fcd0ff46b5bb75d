import OraidexSdk.Loops.Outcome
import OraidexSdk.Js.BigInt
import Mathlib.Data.Rat.Floor
import Mathlib.Data.Nat.Cast.Order.Field
import Mathlib.Tactic.Ring

namespace OraidexSdk.OraiswapV3
open Js Outcome

section Model

variable (PRICE_DENOMINATOR LIQUIDITY_DENOMINATOR : Int)

def getX (liquidity upperSqrtPrice currentSqrtPrice lowerSqrtPrice : Int) : Except JsError Int :=
  if upperSqrtPrice ≤ 0 ∨ currentSqrtPrice ≤ 0 ∨ lowerSqrtPrice ≤ 0 then
    .error (.error "Price cannot be lower or equal 0")
  else if currentSqrtPrice ≥ upperSqrtPrice then .ok 0
  else if currentSqrtPrice < lowerSqrtPrice then do
    let denominator ← bigIntQuotient (lowerSqrtPrice * upperSqrtPrice) PRICE_DENOMINATOR
    let nominator := upperSqrtPrice - lowerSqrtPrice
    bigIntQuotient (← bigIntQuotient (liquidity * nominator) denominator) LIQUIDITY_DENOMINATOR
  else do
    let denominator ← bigIntQuotient (upperSqrtPrice * currentSqrtPrice) PRICE_DENOMINATOR
    let nominator := upperSqrtPrice - currentSqrtPrice
    bigIntQuotient (← bigIntQuotient (liquidity * nominator) denominator) LIQUIDITY_DENOMINATOR

def getY (liquidity upperSqrtPrice currentSqrtPrice lowerSqrtPrice : Int) : Except JsError Int :=
  if lowerSqrtPrice ≤ 0 ∨ currentSqrtPrice ≤ 0 ∨ upperSqrtPrice ≤ 0 then
    .error (.error "Price cannot be 0")
  else if currentSqrtPrice ≤ lowerSqrtPrice then .ok 0
  else do
    let difference :=
      if currentSqrtPrice ≥ upperSqrtPrice then upperSqrtPrice - lowerSqrtPrice
      else currentSqrtPrice - lowerSqrtPrice
    bigIntQuotient (← bigIntQuotient (liquidity * difference) PRICE_DENOMINATOR)
      LIQUIDITY_DENOMINATOR

end Model

section Amounts

variable (P Q liquidity lower upper : ℕ)

-- The middle branch of getX and of getY, at a price m between the bounds.
def inRangeX (m : ℕ) : ℕ := liquidity * (upper - m) / (upper * m / P) / Q

def inRangeY (m : ℕ) : ℕ := liquidity * (m - lower) / P / Q

def withinRange (current : ℕ) : ℕ := max lower (min current upper)

end Amounts

section Branches

variable {P Q lower upper : ℕ} (hP : 0 < P) (hQ : 0 < Q) (hlower : 0 < lower)
  (hrange : lower < upper) (hprice : P ≤ lower * lower) (liquidity : ℕ)

section Quotients

include hP hprice

theorem denominator_pos {m : ℕ} (hm : lower ≤ m) (hupper : lower ≤ upper) : 0 < upper * m / P :=
  Nat.div_pos (hprice.trans (Nat.mul_le_mul hupper hm)) hP

include hQ hrange

theorem quotient_inRangeX {m : ℕ} (hm : lower ≤ m) {product : Int}
    (hproduct : product = (upper * m : ℕ)) {nominator : Int}
    (hnominator : nominator = (upper - m : ℕ)) :
    (do
      let denominator ← bigIntQuotient product P
      bigIntQuotient (← bigIntQuotient (liquidity * nominator) denominator) Q) =
        .ok (inRangeX P Q liquidity upper m : Int) := by
  have hdenominator := denominator_pos hP hprice hm hrange.le
  have hcast : (liquidity : Int) * (upper - m : ℕ) = (liquidity * (upper - m) : ℕ) := by push_cast; rfl
  rw [hproduct, hnominator, bigIntQuotient_nat _ hP, ok_bind, hcast,
    bigIntQuotient_nat _ hdenominator, ok_bind, bigIntQuotient_nat _ hQ]
  rfl

end Quotients

theorem inRangeX_upper : inRangeX P Q liquidity upper upper = 0 := by
  rw [inRangeX, Nat.sub_self, Nat.mul_zero, Nat.zero_div, Nat.zero_div]

theorem inRangeY_lower : inRangeY P Q liquidity lower lower = 0 := by
  rw [inRangeY, Nat.sub_self, Nat.mul_zero, Nat.zero_div, Nat.zero_div]

include hP hQ hlower hrange

theorem getX_eq (hprice : P ≤ lower * lower) {current : ℕ} (hcurrent : 0 < current) :
    getX P Q liquidity upper current lower =
      .ok (inRangeX P Q liquidity upper (withinRange lower upper current) : Int) := by
  have hpositive : ¬ ((upper : Int) ≤ 0 ∨ (current : Int) ≤ 0 ∨ (lower : Int) ≤ 0) := by omega
  rw [getX, if_neg hpositive, withinRange]
  split
  · rename_i habove
    have hclamp : max lower (min current upper) = upper := by omega
    rw [hclamp, inRangeX_upper]
    rfl
  · rename_i hbelow
    have hmin : min current upper = current := by omega
    rw [hmin]
    split
    · have hclamp : max lower current = lower := by omega
      rw [hclamp]
      refine quotient_inRangeX hP hQ hrange hprice liquidity le_rfl ?_ ?_
      · push_cast
        exact Int.mul_comm _ _
      · rw [Nat.cast_sub hrange.le]
    · have hclamp : max lower current = current := by omega
      rw [hclamp]
      refine quotient_inRangeX hP hQ hrange hprice liquidity (by omega) ?_ ?_
      · push_cast
        rfl
      · omega

theorem getY_eq {current : ℕ} (hcurrent : 0 < current) :
    getY P Q liquidity upper current lower =
      .ok (inRangeY P Q liquidity lower (withinRange lower upper current) : Int) := by
  have hpositive : ¬ ((lower : Int) ≤ 0 ∨ (current : Int) ≤ 0 ∨ (upper : Int) ≤ 0) := by omega
  rw [getY, if_neg hpositive, withinRange]
  split
  · have hclamp : max lower (min current upper) = lower := by omega
    rw [hclamp, inRangeY_lower]
    rfl
  · have hdifference : (if (current : Int) ≥ upper then (upper : Int) - lower else current - lower) =
        (max lower (min current upper) - lower : ℕ) := by
      split <;> omega
    have hcast : (liquidity : Int) * (max lower (min current upper) - lower : ℕ) =
        (liquidity * (max lower (min current upper) - lower) : ℕ) := by push_cast; rfl
    simp only [hdifference]
    rw [hcast, bigIntQuotient_nat _ hP, ok_bind, bigIntQuotient_nat _ hQ]
    rfl

end Branches

section Monotone

variable {P Q lower upper : ℕ} (liquidity : ℕ)

theorem withinRange_mono {c c' : ℕ} (h : c ≤ c') :
    withinRange lower upper c ≤ withinRange lower upper c' :=
  max_le_max le_rfl (min_le_min h le_rfl)

theorem inRangeX_antitone {m m' : ℕ} (hdenominator : 0 < upper * m / P) (h : m ≤ m') :
    inRangeX P Q liquidity upper m' ≤ inRangeX P Q liquidity upper m := by
  have hnominator : liquidity * (upper - m') ≤ liquidity * (upper - m) :=
    Nat.mul_le_mul_left _ (Nat.sub_le_sub_left h _)
  have hproduct : upper * m / P ≤ upper * m' / P := Nat.div_le_div_right (Nat.mul_le_mul_left _ h)
  exact Nat.div_le_div_right (Nat.div_le_div hnominator hproduct hdenominator.ne')

theorem inRangeY_mono {m m' : ℕ} (h : m ≤ m') :
    inRangeY P Q liquidity lower m ≤ inRangeY P Q liquidity lower m' := by
  have hdifference : liquidity * (m - lower) ≤ liquidity * (m' - lower) :=
    Nat.mul_le_mul_left _ (Nat.sub_le_sub_right h _)
  exact Nat.div_le_div_right (Nat.div_le_div_right hdifference)

end Monotone

-- One formula a token, at the price moved into the range: no branch jumps.
structure SeamlessAmounts (P Q liquidity lower upper : ℕ) : Prop where
  getX_within : ∀ c : ℕ, 0 < c → getX P Q liquidity upper c lower =
    .ok (inRangeX P Q liquidity upper (withinRange lower upper c) : Int)
  getY_within : ∀ c : ℕ, 0 < c → getY P Q liquidity upper c lower =
    .ok (inRangeY P Q liquidity lower (withinRange lower upper c) : Int)
  getX_antitone : ∀ c c' : ℕ, 0 < c → c ≤ c' → ∃ x x', getX P Q liquidity upper c lower = .ok x ∧
    getX P Q liquidity upper c' lower = .ok x' ∧ x' ≤ x
  getY_monotone : ∀ c c' : ℕ, 0 < c → c ≤ c' → ∃ y y', getY P Q liquidity upper c lower = .ok y ∧
    getY P Q liquidity upper c' lower = .ok y' ∧ y ≤ y'
  getX_above : ∀ c : ℕ, upper ≤ c → getX P Q liquidity upper c lower = .ok 0
  getX_below : ∀ c : ℕ, 0 < c → c ≤ lower →
    getX P Q liquidity upper c lower = getX P Q liquidity upper lower lower
  getY_below : ∀ c : ℕ, 0 < c → c ≤ lower → getY P Q liquidity upper c lower = .ok 0
  getY_above : ∀ c : ℕ, upper ≤ c →
    getY P Q liquidity upper c lower = getY P Q liquidity upper upper lower

theorem amounts_seamless {P Q : ℕ} (hP : 0 < P) (hQ : 0 < Q) (liquidity : ℕ) {lower upper : ℕ}
    (hlower : 0 < lower) (hrange : lower < upper) (hprice : P ≤ lower * lower) :
    SeamlessAmounts P Q liquidity lower upper := by
  have hX {c : ℕ} (hc : 0 < c) := getX_eq hP hQ hlower hrange liquidity hprice hc
  have hY {c : ℕ} (hc : 0 < c) := getY_eq hP hQ hlower hrange liquidity hc
  refine ⟨fun c => hX, fun c => hY, ?_, ?_, ?_, ?_, ?_, ?_⟩
  · intro c c' hc hle
    have hdenominator : 0 < upper * withinRange lower upper c / P :=
      denominator_pos hP hprice (le_max_left _ _) hrange.le
    exact ⟨_, _, hX hc, hX (hc.trans_le hle),
      Int.ofNat_le.mpr (inRangeX_antitone liquidity hdenominator (withinRange_mono hle))⟩
  · intro c c' hc hle
    exact ⟨_, _, hY hc, hY (hc.trans_le hle),
      Int.ofNat_le.mpr (inRangeY_mono liquidity (withinRange_mono hle))⟩
  · intro c hc
    have hclamp : withinRange lower upper c = upper := by
      rw [withinRange]
      omega
    rw [hX (by omega), hclamp, inRangeX_upper]
    rfl
  · intro c hc hle
    have hclamp : withinRange lower upper c = withinRange lower upper lower := by
      rw [withinRange, withinRange]
      omega
    rw [hX hc, hX hlower, hclamp]
  · intro c hc hle
    have hclamp : withinRange lower upper c = lower := by
      rw [withinRange]
      omega
    rw [hY hc, hclamp, inRangeY_lower]
    rfl
  · intro c hc
    have hclamp : withinRange lower upper c = withinRange lower upper upper := by
      rw [withinRange, withinRange]
      omega
    rw [hY (by omega), hY (by omega), hclamp]

theorem seamless_above_one :
    SeamlessAmounts (10 ^ 24) (10 ^ 6) (5 * 10 ^ 12) (10 ^ 24) (2 * 10 ^ 24) :=
  amounts_seamless (by norm_num) (by norm_num) _ (by norm_num) (by norm_num) (by norm_num)

section Exact

variable (P Q liquidity lower upper current : ℕ)

def exactX : ℚ :=
  if upper ≤ current then 0
  else liquidity * (upper - (max current lower : ℕ)) * P / (upper * (max current lower : ℕ) * Q)

def exactY : ℚ :=
  if current ≤ lower then 0 else liquidity * ((min current upper : ℕ) - lower) / (P * Q)

structure NeverOverstated : Prop where
  getX_le : ∃ x : Int, getX P Q liquidity upper current lower = .ok x ∧
    (x : ℚ) ≤ exactX P Q liquidity lower upper current
  getY_le : ∃ y : Int, getY P Q liquidity upper current lower = .ok y ∧
    (y : ℚ) ≤ exactY P Q liquidity lower upper current

-- The share that the first division drops from the product of the prices is at
-- most the share that the last one drops from the numerator.
def ProductShareCovered : Prop :=
  upper ≤ current ∨
    liquidity * (upper - max current lower) * (upper * max current lower % P) ≤
      upper * max current lower *
        (liquidity * (upper - max current lower) % (upper * max current lower / P * Q))

end Exact

-- With U = (U / P) P + r and N = q (U / P) Q + ρ the two sides differ by N r - U ρ.
theorem nested_quotient_le_iff {N U P Q : ℕ} (hQ : 0 < Q) (hden : 0 < U / P) :
    ((N / (U / P) / Q : ℕ) : ℚ) ≤ N * P / (U * Q) ↔ N * (U % P) ≤ U * (N % (U / P * Q)) := by
  have hU : 0 < U := Nat.pos_of_ne_zero (by rintro rfl; simp at hden)
  have hproduct := Nat.div_add_mod U P
  have hnumerator := Nat.div_add_mod N (U / P * Q)
  rw [Nat.div_div_eq_div_mul]
  generalize N / (U / P * Q) = q at *
  generalize N % (U / P * Q) = ρ at *
  generalize U % P = r at *
  generalize U / P = d at *
  have hexact : (q : ℚ) ≤ N * P / (U * Q) ↔ q * (U * Q) ≤ N * P := by
    rw [le_div_iff₀ (by positivity)]
    exact_mod_cast Iff.rfl
  have hleft : q * (U * Q) * d + U * ρ = N * U := by
    rw [← hnumerator]
    ring
  have hright : N * P * d + N * r = N * U := by
    rw [← hproduct]
    ring
  rw [hexact, ← Nat.mul_le_mul_right_iff hden]
  omega

section Overstated

variable {P Q lower upper current : ℕ} (hP : 0 < P) (hQ : 0 < Q) (hlower : 0 < lower)
  (hrange : lower < upper) (liquidity : ℕ) (hcurrent : 0 < current)
include hP hQ hlower hrange hcurrent

theorem getY_never_overstates :
    ∃ y : Int, getY P Q liquidity upper current lower = .ok y ∧
      (y : ℚ) ≤ exactY P Q liquidity lower upper current := by
  refine ⟨_, getY_eq hP hQ hlower hrange liquidity hcurrent, ?_⟩
  rw [exactY, withinRange, inRangeY]
  split
  · have hclamp : max lower (min current upper) = lower := by omega
    simp [hclamp]
  · have hclamp : max lower (min current upper) = min current upper := by omega
    have hle : lower ≤ min current upper := by omega
    rw [hclamp, Nat.div_div_eq_div_mul, ← Nat.cast_sub hle]
    have hfloor := Nat.cast_div_le (α := ℚ) (m := liquidity * (min current upper - lower)) (n := P * Q)
    push_cast at hfloor ⊢
    exact hfloor

theorem getX_overstates_iff (hprice : P ≤ lower * lower) :
    (∃ x : Int, getX P Q liquidity upper current lower = .ok x ∧
      (x : ℚ) ≤ exactX P Q liquidity lower upper current) ↔
      ProductShareCovered P Q liquidity lower upper current := by
  have hrun := getX_eq hP hQ hlower hrange liquidity hprice hcurrent
  have hreturns : (∃ x : Int, getX P Q liquidity upper current lower = .ok x ∧
      (x : ℚ) ≤ exactX P Q liquidity lower upper current) ↔
      (inRangeX P Q liquidity upper (withinRange lower upper current) : ℚ) ≤
        exactX P Q liquidity lower upper current := by
    rw [hrun]
    constructor
    · rintro ⟨x, hx, hle⟩
      obtain rfl := Except.ok.inj hx
      exact_mod_cast hle
    · intro hle
      exact ⟨_, rfl, by exact_mod_cast hle⟩
  rw [hreturns, exactX, ProductShareCovered, withinRange]
  by_cases habove : upper ≤ current
  · have hclamp : max lower (min current upper) = upper := by omega
    rw [if_pos habove, hclamp, inRangeX_upper, Nat.cast_zero]
    exact iff_of_true le_rfl (.inl habove)
  · have hclamp : max lower (min current upper) = max current lower := by omega
    have hle : max current lower ≤ upper := by omega
    have hden := denominator_pos hP hprice (le_max_right current lower) hrange.le
    have hiff := nested_quotient_le_iff (N := liquidity * (upper - max current lower)) hQ hden
    rw [if_neg habove, or_iff_right habove, hclamp, ← hiff, inRangeX]
    push_cast [Nat.cast_sub hle]
    exact Iff.rfl

end Overstated

theorem never_overstated_iff {P Q : ℕ} (hP : 0 < P) (hQ : 0 < Q) (liquidity : ℕ)
    {lower upper : ℕ} (hlower : 0 < lower) (hrange : lower < upper) (hprice : P ≤ lower * lower)
    {current : ℕ} (hcurrent : 0 < current) :
    NeverOverstated P Q liquidity lower upper current ↔
      ProductShareCovered P Q liquidity lower upper current := by
  rw [← getX_overstates_iff hP hQ hlower hrange liquidity hcurrent hprice]
  exact ⟨fun h => h.getX_le,
    fun h => ⟨h, getY_never_overstates hP hQ hlower hrange liquidity hcurrent⟩⟩

theorem never_overstated_at_one :
    NeverOverstated (10 ^ 24) (10 ^ 6) (5 * 10 ^ 12) (10 ^ 24) (2 * 10 ^ 24) (10 ^ 24) :=
  (never_overstated_iff (by norm_num) (by norm_num) _ (by norm_num) (by norm_num) (by norm_num)
    (by norm_num)).mpr (.inr (by decide))

theorem one_above_the_product_overstates :
    ¬ NeverOverstated (10 ^ 24) (10 ^ 6) ((2 * 10 ^ 24 + 3) * 10 ^ 6) (10 ^ 24) (2 * 10 ^ 24 + 1)
      (10 ^ 24 + 1) := by
  rintro ⟨⟨x, hx, hle⟩, -⟩
  have hrun : getX (10 ^ 24 : ℕ) (10 ^ 6 : ℕ) ((2 * 10 ^ 24 + 3) * 10 ^ 6 : ℕ)
      (2 * 10 ^ 24 + 1 : ℕ) (10 ^ 24 + 1 : ℕ) (10 ^ 24 : ℕ) = .ok (10 ^ 24) := by decide
  obtain rfl := Except.ok.inj (hx.symm.trans hrun)
  norm_num [exactX] at hle

end OraidexSdk.OraiswapV3
