import OraidexSdk.Js.Double
import OraidexSdk.OraiswapV3.ZapIn

namespace OraidexSdk.OraiswapV3
open Js Outcome

-- The liquidity that the compiled pool arithmetic gives for an amount of one token.
structure LiquidityArithmetic where
  getLiquidityByX : Int → Int → Int → Nat → Bool → Except JsError Nat
  getLiquidityByY : Int → Int → Int → Nat → Bool → Except JsError Nat

def bigIntOfNumber (x : ℚ) : Except JsError Int :=
  if x.isInt then .ok x.num else .error .rangeError

def slippageMultiplier (slippage : ℚ) : Int := ⌊double (double (100 - slippage) * 1000)⌋

section Calculate

variable (arithmetic : LiquidityArithmetic)
  (actualAmountXReceived actualAmountYReceived : SmartRouteResponse) (lowerTick upperTick : Int)
  (sqrtPrice : Nat)

def liquidityX : Except JsError Nat :=
  arithmetic.getLiquidityByX actualAmountXReceived.returnAmount lowerTick upperTick sqrtPrice true

def liquidityY : Except JsError Nat :=
  arithmetic.getLiquidityByY actualAmountYReceived.returnAmount lowerTick upperTick sqrtPrice true

-- buildZapInMessageOptions is none, or the flag isTokenX of a single side.
def calculateMinimumLiquidity (slippage : ℚ) (buildZapInMessageOptions : Option Bool) :
    Except JsError Int :=
  match buildZapInMessageOptions with
  | some isTokenX => do
    let l ←
      if isTokenX then liquidityX arithmetic actualAmountXReceived lowerTick upperTick sqrtPrice
      else liquidityY arithmetic actualAmountYReceived lowerTick upperTick sqrtPrice
    let multiplier ← bigIntOfNumber (slippageMultiplier slippage)
    return if l ≠ 0 then (l * multiplier).tdiv 100000 else 0
  | none => do
    let l1 ← liquidityX arithmetic actualAmountXReceived lowerTick upperTick sqrtPrice
    let l2 ← liquidityY arithmetic actualAmountYReceived lowerTick upperTick sqrtPrice
    if l1 > l2 then do
      let percentage ← bigIntOfNumber (double (100 - slippage))
      return (l2 * percentage).tdiv 100
    else do
      let percentage ← bigIntOfNumber (double (100 - slippage))
      return (l1 * percentage).tdiv 100

def zapLiquidity (buildZapInMessageOptions : Option Bool) : Except JsError Nat :=
  match buildZapInMessageOptions with
  | some true => liquidityX arithmetic actualAmountXReceived lowerTick upperTick sqrtPrice
  | some false => liquidityY arithmetic actualAmountYReceived lowerTick upperTick sqrtPrice
  | none => do
    let l1 ← liquidityX arithmetic actualAmountXReceived lowerTick upperTick sqrtPrice
    let l2 ← liquidityY arithmetic actualAmountYReceived lowerTick upperTick sqrtPrice
    return min l1 l2

end Calculate

-- The double that is written with the decimal k / 1000.
def thousandths (k : Nat) : ℚ := double (k / 1000)

def FallsShort (k : Nat) : Prop := double (double (100 - thousandths k) * 1000) < 100000 - k

-- Two sides take whole percentages only; a single side may lose one unit of its
-- multiplier, which costs nothing where L fits in what the division leaves.
def SlippageHandled (k L : Nat) : Option Bool → Prop
  | none => k % 1000 = 0
  | some _ => ¬ FallsShort k ∨ L ≤ L * (100000 - k) % 100000

section Doubles

variable {k : Nat}

theorem thousandths_error (hk : k ≤ 100000) : |thousandths k - k / 1000| ≤ 1 / 2 ^ 46 := by
  have hcast : (k : ℚ) ≤ 100000 := by exact_mod_cast hk
  have habs : |(k / 1000 : ℚ)| ≤ 100 := by
    rw [abs_of_nonneg (by positivity)]
    linarith
  have herror := double_near habs
  rw [thousandths]
  linarith

theorem complement_error (hk : k ≤ 100000) :
    |double (100 - thousandths k) - (100000 - k) / 1000| ≤ 1 / 2 ^ 44 := by
  have hslippage := abs_le.mp (thousandths_error hk)
  have hnonneg : (0 : ℚ) ≤ k := Nat.cast_nonneg k
  have hcast : (k : ℚ) ≤ 100000 := by exact_mod_cast hk
  have habs : |100 - thousandths k| ≤ 101 := by
    rw [abs_le]
    constructor <;> linarith
  have hbound := abs_le.mp (double_near habs)
  rw [abs_le]
  constructor <;> linarith

theorem product_error (hk : k ≤ 100000) :
    |double (double (100 - thousandths k) * 1000) - (100000 - k)| ≤ 1 / 2 ^ 33 := by
  have hcomplement := abs_le.mp (complement_error hk)
  have hnonneg : (0 : ℚ) ≤ k := Nat.cast_nonneg k
  have hcast : (k : ℚ) ≤ 100000 := by exact_mod_cast hk
  have habs : |double (100 - thousandths k) * 1000| ≤ 100001 := by
    rw [abs_le]
    constructor <;> linarith
  have hbound := abs_le.mp (double_near habs)
  rw [abs_le]
  constructor <;> linarith

theorem slippageMultiplier_eq (hk : k ≤ 100000) (hexact : ¬ FallsShort k) :
    slippageMultiplier (thousandths k) = (100000 - k : ℕ) := by
  have herror := abs_le.mp (product_error hk)
  have hge := not_lt.mp hexact
  rw [slippageMultiplier, Int.floor_eq_iff]
  push_cast [Nat.cast_sub hk]
  constructor <;> linarith

theorem slippageMultiplier_short (hk : k ≤ 100000) (hshort : FallsShort k) :
    slippageMultiplier (thousandths k) = (100000 - k : ℕ) - 1 := by
  have herror := abs_le.mp (product_error hk)
  have hlt : double (double (100 - thousandths k) * 1000) < 100000 - k := hshort
  rw [slippageMultiplier, Int.floor_eq_iff]
  push_cast [Nat.cast_sub hk]
  constructor <;> linarith

theorem not_fallsShort_hundred : ¬ FallsShort 100000 := by
  have hslippage : thousandths 100000 = 100 := by
    have hhundred := double_intCast (n := 100) (by norm_num)
    norm_num [thousandths]
    exact_mod_cast hhundred
  norm_num [FallsShort, hslippage, double_zero]

theorem bigIntOfNumber_intCast (n : Int) : bigIntOfNumber n = .ok n := by
  simp [bigIntOfNumber, Rat.isInt]

theorem whole_percentage (hk : k ≤ 100000) (hwhole : k % 1000 = 0) :
    bigIntOfNumber (double (100 - thousandths k)) = .ok ((100 - k / 1000 : ℕ) : Int) := by
  obtain ⟨j, rfl⟩ := Nat.dvd_of_mod_eq_zero hwhole
  have hj : j ≤ 100 := by omega
  have hquotient : ((1000 * j : ℕ) : ℚ) / 1000 = (j : ℤ) := by
    push_cast
    ring
  have hslippage : thousandths (1000 * j) = (j : ℤ) := by
    rw [thousandths, hquotient, double_intCast]
    rw [abs_of_nonneg (by positivity)]
    omega
  have hcomplement : (100 - (j : ℤ) : ℚ) = ((100 - j : ℤ) : ℚ) := by push_cast; rfl
  rw [hslippage, hcomplement, double_intCast (by rw [abs_of_nonneg (by omega)]; omega),
    bigIntOfNumber_intCast]
  congr 1
  omega

theorem fractional_percentage (hk : k ≤ 100000) (hfraction : k % 1000 ≠ 0) :
    bigIntOfNumber (double (100 - thousandths k)) = .error .rangeError := by
  have herror := abs_le.mp (complement_error hk)
  rw [bigIntOfNumber, if_neg]
  intro hint
  obtain ⟨z, hz⟩ : ∃ z : ℤ, double (100 - thousandths k) = z := ⟨_, (Rat.eq_num_of_isInt hint)⟩
  rw [hz] at herror
  have hlow : (-1 : ℚ) < 1000 * z - (100000 - k) := by linarith
  have hhigh : 1000 * z - (100000 - k) < (1 : ℚ) := by linarith
  have hlow' : -1 < 1000 * z - (100000 - (k : ℤ)) := by exact_mod_cast hlow
  have hhigh' : 1000 * z - (100000 - (k : ℤ)) < 1 := by exact_mod_cast hhigh
  omega

end Doubles

theorem minimum_eq (L : Nat) {k : Nat} (hk : k ≤ 100000) :
    ⌊(L : ℚ) * (100 - k / 1000) / 100⌋ = ((L * (100000 - k) / 100000 : ℕ) : Int) := by
  have hquotient : (L : ℚ) * (100 - k / 1000) / 100 =
      ((L * (100000 - k) : ℕ) : ℚ) / (100000 : ℕ) := by
    push_cast [Nat.cast_sub hk]
    ring
  rw [hquotient, Rat.floor_natCast_div_natCast]
  rfl

theorem short_quotient_iff {L n : Nat} (hn : 0 < n) :
    ((L : Int) * ((n : ℕ) - 1)).tdiv 100000 = ((L * n / 100000 : ℕ) : Int) ↔
      L ≤ L * n % 100000 := by
  obtain ⟨m, rfl⟩ := Nat.exists_eq_add_of_lt hn
  have hshort : (L : Int) * ((0 + m + 1 : ℕ) - 1) = ((L * m : ℕ) : Int) := by
    push_cast
    ring
  have hfull : L * (0 + m + 1) = L * m + L := by ring
  rw [hshort, hfull, Int.tdiv_eq_ediv_of_nonneg (Int.natCast_nonneg _)]
  omega

section Modes

variable {arithmetic : LiquidityArithmetic}
  {actualAmountXReceived actualAmountYReceived : SmartRouteResponse} {lowerTick upperTick : Int}
  {sqrtPrice k L : Nat}

theorem single_side_iff (hk : k ≤ 100000) {isTokenX : Bool}
    (hL : zapLiquidity arithmetic actualAmountXReceived actualAmountYReceived lowerTick upperTick
      sqrtPrice (some isTokenX) = .ok L) :
    calculateMinimumLiquidity arithmetic actualAmountXReceived actualAmountYReceived lowerTick
        upperTick sqrtPrice (thousandths k) (some isTokenX) =
      .ok ((L * (100000 - k) / 100000 : ℕ) : Int) ↔
    ¬ FallsShort k ∨ L ≤ L * (100000 - k) % 100000 := by
  have hrun : calculateMinimumLiquidity arithmetic actualAmountXReceived actualAmountYReceived
      lowerTick upperTick sqrtPrice (thousandths k) (some isTokenX) =
      .ok ((L * slippageMultiplier (thousandths k)).tdiv 100000) := by
    have hzero : (if L ≠ 0 then (L * slippageMultiplier (thousandths k)).tdiv 100000 else 0) =
        (L * slippageMultiplier (thousandths k)).tdiv 100000 := by
      rcases eq_or_ne L 0 with rfl | hne
      · simp
      · exact if_pos hne
    cases isTokenX with
    | true =>
      have hl : liquidityX arithmetic actualAmountXReceived lowerTick upperTick sqrtPrice = .ok L := hL
      simp only [calculateMinimumLiquidity, if_true, hl, ok_bind, bigIntOfNumber_intCast, hzero]
      rfl
    | false =>
      have hl : liquidityY arithmetic actualAmountYReceived lowerTick upperTick sqrtPrice = .ok L := hL
      simp only [calculateMinimumLiquidity, Bool.false_eq_true, if_false, hl, ok_bind,
        bigIntOfNumber_intCast, hzero]
      rfl
  rw [hrun, Except.ok.injEq]
  by_cases hshort : FallsShort k
  · have hn : 0 < 100000 - k := by
      have hne : k ≠ 100000 := by
        rintro rfl
        exact not_fallsShort_hundred hshort
      omega
    rw [slippageMultiplier_short hk hshort, short_quotient_iff hn, or_iff_right (not_not.mpr hshort)]
  · rw [slippageMultiplier_eq hk hshort]
    refine iff_of_true ?_ (.inl hshort)
    rw [← Int.natCast_mul, Int.tdiv_eq_ediv_of_nonneg (Int.natCast_nonneg _)]
    rfl

theorem two_sides_iff (hk : k ≤ 100000)
    (hL : zapLiquidity arithmetic actualAmountXReceived actualAmountYReceived lowerTick upperTick
      sqrtPrice none = .ok L) :
    calculateMinimumLiquidity arithmetic actualAmountXReceived actualAmountYReceived lowerTick
        upperTick sqrtPrice (thousandths k) none =
      .ok ((L * (100000 - k) / 100000 : ℕ) : Int) ↔ k % 1000 = 0 := by
  obtain ⟨l1, hl1, hrest⟩ := bind_eq_ok.mp hL
  obtain ⟨l2, hl2, hmin⟩ := bind_eq_ok.mp hrest
  have hL' : min l1 l2 = L := Except.ok.inj hmin
  have hrun : calculateMinimumLiquidity arithmetic actualAmountXReceived actualAmountYReceived
      lowerTick upperTick sqrtPrice (thousandths k) none =
      (fun percentage => ((L : Int) * percentage).tdiv 100) <$>
        bigIntOfNumber (double (100 - thousandths k)) := by
    simp only [calculateMinimumLiquidity, hl1, hl2, ok_bind]
    split
    · rw [← hL', min_eq_right (by omega)]
      rfl
    · rw [← hL', min_eq_left (by omega)]
      rfl
  rw [hrun]
  by_cases hwhole : k % 1000 = 0
  · refine iff_of_true ?_ hwhole
    obtain ⟨j, rfl⟩ := Nat.dvd_of_mod_eq_zero hwhole
    have hscaled : L * (100000 - 1000 * j) = 1000 * (L * (100 - j)) := by
      rw [show 100000 - 1000 * j = 1000 * (100 - j) by omega]
      ring
    rw [whole_percentage hk hwhole, hscaled, Nat.mul_div_cancel_left j (by decide)]
    change Except.ok ((L * ((100 - j : ℕ) : Int)).tdiv 100) = _
    rw [← Int.natCast_mul, Int.tdiv_eq_ediv_of_nonneg (Int.natCast_nonneg _)]
    congr 1
    omega
  · refine iff_of_false ?_ hwhole
    rw [fractional_percentage hk hwhole]
    intro h
    cases h

end Modes

theorem minimum_liquidity_iff (arithmetic : LiquidityArithmetic)
    (actualAmountXReceived actualAmountYReceived : SmartRouteResponse) (lowerTick upperTick : Int)
    (sqrtPrice : Nat) {k : Nat} (hk : k ≤ 100000) (buildZapInMessageOptions : Option Bool) {L : Nat}
    (hL : zapLiquidity arithmetic actualAmountXReceived actualAmountYReceived lowerTick upperTick
      sqrtPrice buildZapInMessageOptions = .ok L) :
    calculateMinimumLiquidity arithmetic actualAmountXReceived actualAmountYReceived lowerTick
        upperTick sqrtPrice (thousandths k) buildZapInMessageOptions =
      .ok ⌊(L : ℚ) * (100 - k / 1000) / 100⌋ ↔ SlippageHandled k L buildZapInMessageOptions := by
  rw [minimum_eq L hk]
  cases buildZapInMessageOptions with
  | none => exact two_sides_iff hk hL
  | some isTokenX => exact single_side_iff hk hL

-- 4.073 is rounded three times on the way to its multiplier, the second time at a tie.
theorem fallsShort_4073 : FallsShort 4073 := by
  have hslippage : thousandths 4073 = 4585790320570008 / 2 ^ 50 := by
    rw [thousandths, double_eq (e := 2) (by norm_num [abs_of_pos]) (by norm_num [abs_of_pos]),
      nearestEven_of_near (n := 4585790320570008) (by norm_num [abs_of_pos, abs_of_neg])]
    norm_num
  have hcomplement : double (100 - thousandths 4073) = 6750262522730774 / 2 ^ 46 := by
    rw [hslippage, double_eq (e := 6) (by norm_num [abs_of_pos]) (by norm_num [abs_of_pos]),
      nearestEven_of_tie (n := 6750262522730774) (by norm_num) (by decide)]
    norm_num
  rw [FallsShort, hcomplement, double_eq (e := 16) (by norm_num [abs_of_pos])
    (by norm_num [abs_of_pos]),
    nearestEven_of_near (n := 6592053244854271) (by norm_num [abs_of_pos, abs_of_neg])]
  norm_num

def fixedLiquidity : LiquidityArithmetic where
  getLiquidityByX _ _ _ _ _ := .ok 100000
  getLiquidityByY _ _ _ _ _ := .ok 200000

def received : SmartRouteResponse := ⟨"1000", 990, []⟩

theorem fractional_slippage_fails :
    zapLiquidity fixedLiquidity received received 0 10 1 none = .ok 100000 ∧
      calculateMinimumLiquidity fixedLiquidity received received 0 10 1 (thousandths 2500) none =
        .error .rangeError ∧
      calculateMinimumLiquidity fixedLiquidity received received 0 10 1 (thousandths 2500) none ≠
        .ok ⌊((100000 : ℕ) : ℚ) * (100 - (2500 : ℕ) / 1000) / 100⌋ ∧
      zapLiquidity fixedLiquidity received received 0 10 1 (some true) = .ok 100000 ∧
      calculateMinimumLiquidity fixedLiquidity received received 0 10 1 (thousandths 4073)
        (some true) ≠ .ok ⌊((100000 : ℕ) : ℚ) * (100 - (4073 : ℕ) / 1000) / 100⌋ := by
  have hrange : calculateMinimumLiquidity fixedLiquidity received received 0 10 1
      (thousandths 2500) none = .error .rangeError := by
    change (bigIntOfNumber (double (100 - thousandths 2500)) >>= _) = _
    rw [fractional_percentage (by decide) (by decide)]
    rfl
  refine ⟨rfl, hrange, ?_, rfl, ?_⟩
  · rw [hrange]
    intro h
    cases h
  · rw [minimum_eq _ (by decide)]
    intro h
    have hhandled := (single_side_iff (by decide) rfl).mp h
    rcases hhandled with hexact | hfits
    · exact hexact fallsShort_4073
    · exact absurd hfits (by decide)

theorem one_percent_minimum :
    calculateMinimumLiquidity fixedLiquidity received received 0 10 1 (thousandths 1000) none =
      .ok ⌊((100000 : ℕ) : ℚ) * (100 - (1000 : ℕ) / 1000) / 100⌋ :=
  (minimum_liquidity_iff fixedLiquidity received received 0 10 1 (by decide) none rfl).mpr rfl

end OraidexSdk.OraiswapV3
