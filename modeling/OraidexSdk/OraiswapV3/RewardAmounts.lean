import OraidexSdk.Decimal.Scaled
import OraidexSdk.OraiswapV3.MinimumLiquidity

namespace OraidexSdk.OraiswapV3
open Js Outcome ScaledInteger

structure Position where
  liquidity : Nat
  lowerTickIndex : Int
  upperTickIndex : Int
deriving DecidableEq, Repr

structure AmountDeltaResult where
  x : Int
  y : Int
deriving DecidableEq, Repr

structure RewardAmounts where
  amountX : Int
  amountY : Int
deriving DecidableEq, Repr

-- The compiled pool arithmetic: tick, sqrt price, liquidity, rounding, upper and lower tick.
abbrev AmountDelta := Int → Nat → Nat → Bool → Int → Int → Except JsError AmountDeltaResult

section Rewards

variable (calculateAmountDelta : AmountDelta)

def calculateTokenAmounts (pool : Pool) (position : Position) : Except JsError AmountDeltaResult :=
  calculateAmountDelta pool.currentTickIndex pool.sqrtPrice position.liquidity false
    position.upperTickIndex position.lowerTickIndex

def reward (amount : Int) (zapFee : ℚ) : Except JsError Int := do
  let percentage ← bigIntOfNumber (100 - zapFee * 100)
  return (amount * percentage).tdiv 100

-- The fee is exact; with doubles 100 - zapFee * 100 is no integer at 0.55 to 0.58 either.
def calculateRewardAmounts (pool : PoolWithPoolKey) (position : Position) (zapFee : ℚ) :
    Except JsError RewardAmounts := do
  let res ← calculateTokenAmounts calculateAmountDelta pool.pool position
  let amountX ← reward res.x zapFee
  let amountY ← reward res.y zapFee
  return ⟨amountX, amountY⟩

structure FeeDeducted (pool : PoolWithPoolKey) (position : Position) (x y : Nat) (zapFee : ℚ) :
    Prop where
  returns : calculateRewardAmounts calculateAmountDelta pool position zapFee =
    .ok ⟨⌊x * (1 - zapFee)⌋, ⌊y * (1 - zapFee)⌋⟩
  full : zapFee = 0 →
    calculateRewardAmounts calculateAmountDelta pool position zapFee = .ok ⟨x, y⟩
  decreases : ∀ higher amounts, zapFee ≤ higher → higher ≤ 1 →
    calculateRewardAmounts calculateAmountDelta pool position higher = .ok amounts →
      amounts.amountX ≤ ⌊x * (1 - zapFee)⌋ ∧ amounts.amountY ≤ ⌊y * (1 - zapFee)⌋

end Rewards

theorem bigIntOfNumber_ok_iff {x : ℚ} {n : Int} : bigIntOfNumber x = .ok n ↔ x = n := by
  constructor
  · intro h
    rw [bigIntOfNumber] at h
    split at h
    · rename_i hint
      rw [← Except.ok.inj h]
      exact Rat.eq_num_of_isInt hint
    · cases h
  · rintro rfl
    exact bigIntOfNumber_intCast n

theorem reward_ok {amount : Nat} {zapFee : ℚ} (hfee : zapFee ≤ 1) {n : Int}
    (h : reward amount zapFee = .ok n) : n = ⌊amount * (1 - zapFee)⌋ := by
  obtain ⟨percentage, hpercentage, hn⟩ := bind_eq_ok.mp h
  have hfraction := bigIntOfNumber_ok_iff.mp hpercentage
  have hquotient : (amount : ℚ) * (1 - zapFee) = ((amount * percentage : ℤ) : ℚ) / (100 : ℤ) := by
    push_cast
    rw [← hfraction]
    ring
  have hnonneg : 0 ≤ amount * (1 - zapFee) :=
    mul_nonneg (Nat.cast_nonneg amount) (by linarith)
  have htdiv : (amount * percentage).tdiv 100 = n := Except.ok.inj hn
  rw [← truncate_of_nonneg hnonneg, hquotient, truncate_div]
  exact htdiv.symm

theorem reward_of_percentage (amount : Int) {zapFee : ℚ} {n : Int} (h : 100 - zapFee * 100 = n) :
    reward amount zapFee = .ok ((amount * n).tdiv 100) := by
  have hpercentage := bigIntOfNumber_ok_iff.mpr h
  rw [reward, hpercentage]
  rfl

theorem whole_fee_iff (k : Nat) : (∃ n : Int, 100 - (k / 10000 : ℚ) * 100 = n) ↔ k % 100 = 0 := by
  constructor
  · rintro ⟨n, hn⟩
    have hcast : (k : ℚ) = ((100 * (100 - n) : ℤ) : ℚ) := by
      push_cast
      linarith
    have hint : (k : ℤ) = 100 * (100 - n) := by exact_mod_cast hcast
    omega
  · intro h
    obtain ⟨j, rfl⟩ := Nat.dvd_of_mod_eq_zero h
    refine ⟨100 - j, ?_⟩
    push_cast
    ring

section Fees

variable {calculateAmountDelta : AmountDelta} {pool : PoolWithPoolKey} {position : Position}
  {x y : Nat} (hamounts : calculateTokenAmounts calculateAmountDelta pool.pool position = .ok ⟨x, y⟩)
include hamounts

theorem rewards_ok {zapFee : ℚ} (hfee : zapFee ≤ 1) {amounts : RewardAmounts}
    (h : calculateRewardAmounts calculateAmountDelta pool position zapFee = .ok amounts) :
    amounts = ⟨⌊x * (1 - zapFee)⌋, ⌊y * (1 - zapFee)⌋⟩ := by
  obtain ⟨res, hres, hrest⟩ := bind_eq_ok.mp h
  obtain rfl := Except.ok.inj (hres.symm.trans hamounts)
  obtain ⟨amountX, hx, hrest⟩ := bind_eq_ok.mp hrest
  obtain ⟨amountY, hy, hpair⟩ := bind_eq_ok.mp hrest
  rw [← reward_ok hfee hx, ← reward_ok hfee hy]
  exact (Except.ok.inj hpair).symm

theorem rewards_ok_iff (zapFee : ℚ) :
    (∃ amounts, calculateRewardAmounts calculateAmountDelta pool position zapFee = .ok amounts) ↔
      ∃ n : Int, 100 - zapFee * 100 = n := by
  constructor
  · rintro ⟨amounts, h⟩
    obtain ⟨res, -, hrest⟩ := bind_eq_ok.mp h
    obtain ⟨amountX, hx, -⟩ := bind_eq_ok.mp hrest
    obtain ⟨percentage, hpercentage, -⟩ := bind_eq_ok.mp hx
    exact ⟨percentage, bigIntOfNumber_ok_iff.mp hpercentage⟩
  · rintro ⟨n, hn⟩
    refine ⟨⟨(x * n).tdiv 100, (y * n).tdiv 100⟩, ?_⟩
    rw [calculateRewardAmounts, hamounts, ok_bind, reward_of_percentage x hn, ok_bind,
      reward_of_percentage y hn]
    rfl

theorem rewards_antitone {zapFee higher : ℚ} (hle : zapFee ≤ higher) (hhigher : higher ≤ 1)
    {amounts : RewardAmounts}
    (h : calculateRewardAmounts calculateAmountDelta pool position higher = .ok amounts) :
    amounts.amountX ≤ ⌊x * (1 - zapFee)⌋ ∧ amounts.amountY ≤ ⌊y * (1 - zapFee)⌋ := by
  have hkept : 1 - higher ≤ 1 - zapFee := by linarith
  rw [rewards_ok hamounts hhigher h]
  exact ⟨Int.floor_mono (mul_le_mul_of_nonneg_left hkept (Nat.cast_nonneg x)),
    Int.floor_mono (mul_le_mul_of_nonneg_left hkept (Nat.cast_nonneg y))⟩

end Fees

theorem fee_deducted_iff {calculateAmountDelta : AmountDelta} {pool : PoolWithPoolKey}
    {position : Position} {x y : Nat}
    (hamounts : calculateTokenAmounts calculateAmountDelta pool.pool position = .ok ⟨x, y⟩)
    {k : Nat} (hk : k ≤ 10000) :
    FeeDeducted calculateAmountDelta pool position x y (k / 10000) ↔ k % 100 = 0 := by
  have hfee : (k / 10000 : ℚ) ≤ 1 := by
    rw [div_le_one (by norm_num)]
    exact_mod_cast hk
  rw [← whole_fee_iff, ← rewards_ok_iff hamounts]
  constructor
  · exact fun h => ⟨_, h.returns⟩
  · rintro ⟨amounts, h⟩
    have hreturns := rewards_ok hamounts hfee h
    refine ⟨hreturns ▸ h, fun hzero => ?_, fun _ _ hle h₁ => rewards_antitone hamounts hle h₁⟩
    rw [h, hreturns, hzero]
    simp

def evenDelta : AmountDelta := fun _ _ _ _ _ _ => .ok ⟨1000, 2000⟩

def zapPool : PoolWithPoolKey := ⟨⟨"orai", "usdt", ⟨3000000000, 100⟩⟩, ⟨10 ^ 24, 0⟩⟩

theorem five_percent_deducted :
    FeeDeducted evenDelta zapPool ⟨5000, -100, 100⟩ 1000 2000 ((500 : ℕ) / 10000) :=
  (fee_deducted_iff (x := 1000) (y := 2000) rfl (by decide)).mpr (by decide)

-- BigInt(100 - 0.0025 * 100) is asked for 99.75.
theorem quarter_percent_throws :
    calculateRewardAmounts evenDelta zapPool ⟨5000, -100, 100⟩ ((25 : ℕ) / 10000) =
        .error .rangeError ∧
      ¬ FeeDeducted evenDelta zapPool ⟨5000, -100, 100⟩ 1000 2000 ((25 : ℕ) / 10000) := by
  have hthrows : calculateRewardAmounts evenDelta zapPool ⟨5000, -100, 100⟩ ((25 : ℕ) / 10000) =
      .error .rangeError := by
    decide +kernel
  refine ⟨hthrows, fun h => ?_⟩
  have hreturns := h.returns
  rw [hthrows] at hreturns
  cases hreturns

end OraidexSdk.OraiswapV3
