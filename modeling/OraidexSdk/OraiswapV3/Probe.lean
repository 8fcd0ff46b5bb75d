import OraidexSdk.Js.Rendering
import OraidexSdk.OraiswapV3.ZapIn

namespace OraidexSdk.OraiswapV3
open Js Outcome DigitText

-- A router that gives rate for each unit says so of the amount it is asked about.
structure ProportionalAnswer (rate : ℚ) (amount : Int) (response : SmartRouteResponse) : Prop where
  swapAmount : response.swapAmount = String.ofList (bigIntText amount)
  returnAmount : (response.returnAmount : ℚ) = rate * amount

-- What findPrice makes of the route it finds.
def priceByProbe (tokenIn : TokenItem) (price : SmartRouteResponse) : ℚ :=
  let extendDecimal := price.swapAmount.length - 1 - tokenIn.decimals
  shiftDecimal price.returnAmount (tokenIn.decimals + extendDecimal)

section FindPrice

variable {M : Type} {consumer : ZapConsumer M} {call : Nat} {source tokenIn : TokenItem}

theorem findPrice_eq :
    findPrice consumer call source tokenIn =
      priceByProbe tokenIn <$> findRoute consumer call ⟨source, tokenIn, 10 ^ source.decimals⟩ true := by
  rw [map_eq_pure_bind]
  rfl

theorem findRouteOr_fetch {onZero : Except JsError SmartRouteResponse} {amount : Int}
    (hname : source.name ≠ tokenIn.name) (hamount : amount ≠ 0) {response : SmartRouteResponse}
    (hfetch : consumer.fetch call ⟨source, tokenIn, amount⟩ = .ok response) :
    findRouteOr consumer onZero call ⟨source, tokenIn, amount⟩ =
      if response.returnAmount = 0 then onZero else .ok response := by
  simp only [findRouteOr, hname, hamount, if_false, hfetch]

theorem findPrice_first (hname : source.name ≠ tokenIn.name) {probe : SmartRouteResponse}
    (hfetch : consumer.fetch call ⟨source, tokenIn, 10 ^ source.decimals⟩ = .ok probe)
    (hne : probe.returnAmount ≠ 0) :
    findPrice consumer call source tokenIn = .ok (priceByProbe tokenIn probe) := by
  rw [findPrice_eq, findRoute, findRouteOr_fetch hname (by positivity) hfetch, if_neg hne]
  rfl

theorem findPrice_enlarged (hname : source.name ≠ tokenIn.name)
    {probe enlarged : SmartRouteResponse}
    (hfetch : consumer.fetch call ⟨source, tokenIn, 10 ^ source.decimals⟩ = .ok probe)
    (hzero : probe.returnAmount = 0)
    (hagain : consumer.fetch call ⟨source, tokenIn, 10 ^ source.decimals * 10000⟩ = .ok enlarged)
    (hne : enlarged.returnAmount ≠ 0) :
    findPrice consumer call source tokenIn = .ok (priceByProbe tokenIn enlarged) := by
  rw [findPrice_eq, findRoute, findRouteOr_fetch hname (by positivity) hfetch, if_pos hzero,
    if_pos rfl, findRouteOr_fetch hname (by positivity) hagain, if_neg hne]
  rfl

end FindPrice

theorem length_bigIntText_tenPow (d : Nat) : (bigIntText (10 ^ d)).length = d + 1 := by
  have hcast : (10 ^ d : Int) = ((10 ^ d : Nat) : Int) := by push_cast; rfl
  rw [hcast, bigIntText_natCast, toDigits_tenPow, List.length_cons, length_zeros]

theorem scaled_quotient_iff {r : ℚ} (hr : r ≠ 0) (m n : Nat) :
    r / 10 ^ m = r * 10000 / 10 ^ n ↔ n = m + 4 := by
  have hten : (10000 : ℚ) = 10 ^ 4 := by norm_num
  rw [hten, div_eq_div_iff (by positivity) (by positivity), mul_assoc, mul_right_inj' hr, ← pow_add,
    pow_right_inj₀ (by norm_num) (by norm_num)]
  omega

theorem probe_scale_iff (source tokenIn : TokenItem) {rate : ℚ} {probe enlarged : SmartRouteResponse}
    (hprobe : ProportionalAnswer rate (10 ^ source.decimals) probe)
    (henlarged : ProportionalAnswer rate (10 ^ source.decimals * 10000) enlarged) :
    priceByProbe tokenIn probe = priceByProbe tokenIn enlarged ↔
      rate = 0 ∨ tokenIn.decimals ≤ source.decimals ∧ 0 < source.decimals := by
  have hlength : probe.swapAmount.length = source.decimals + 1 := by
    rw [hprobe.swapAmount, String.length_ofList, length_bigIntText_tenPow]
  have hlength' : enlarged.swapAmount.length = source.decimals + 4 + 1 := by
    have hpow : (10 ^ source.decimals * 10000 : Int) = 10 ^ (source.decimals + 4) := by
      rw [pow_add]
      rfl
    rw [henlarged.swapAmount, String.length_ofList, hpow, length_bigIntText_tenPow]
  have hreturn : (enlarged.returnAmount : ℚ) = probe.returnAmount * 10000 := by
    rw [henlarged.returnAmount, hprobe.returnAmount]
    push_cast
    ring
  have hpos : tokenIn.decimals + (source.decimals + 4 + 1 - 1 - tokenIn.decimals) ≠ 0 := by omega
  simp only [priceByProbe, shiftDecimal, hlength, hlength', hreturn, if_neg hpos]
  rcases eq_or_ne rate 0 with hrate | hrate
  · simp [hprobe.returnAmount, hrate]
  · have hne : (probe.returnAmount : ℚ) ≠ 0 := by
      rw [hprobe.returnAmount]
      exact mul_ne_zero hrate (by positivity)
    have htext := List.length_pos_iff.mpr (bigIntText_ne_nil probe.returnAmount)
    rw [scaled_quotient_iff hne, or_iff_right hrate]
    split <;> omega

def weth : TokenItem := ⟨"weth", none, "weth", "Oraichain", 18⟩

-- It pays 10 ^ 12 for each unit, and nothing below the minimum.
def dustConsumer (minimum : Int) : ZapConsumer Unit where
  deviation := 1 / 100
  getPool poolKey := .ok ⟨poolKey, ⟨1, 0⟩⟩
  fetch _ route := .ok ⟨String.ofList (bigIntText route.amount),
    if route.amount < minimum then 0 else 10 ^ 12 * route.amount, []⟩
  simulateSwap _ _ _ := .ok 1
  getTickAtSqrtPrice _ _ := .ok 0
  getLiquidityByX _ _ _ _ := .ok 1
  populateMessageZapIn _ _ _ _ := .ok ()

def quotedProbe : SmartRouteResponse := ⟨"1000000", 10 ^ 18, []⟩

def quotedEnlarged : SmartRouteResponse := ⟨"10000000000", 10 ^ 22, []⟩

theorem enlarged_probe_price :
    ProportionalAnswer (10 ^ 12) (10 ^ 6) quotedProbe ∧
      ProportionalAnswer (10 ^ 12) (10 ^ 6 * 10000) quotedEnlarged ∧
      priceByProbe weth quotedProbe ≠ priceByProbe weth quotedEnlarged ∧
      findPrice (dustConsumer 0) 1 (token "usdt") weth = .ok 1 ∧
      findPrice (dustConsumer 1000001) 1 (token "usdt") weth = .ok 10000 := by
  have hlength : quotedProbe.swapAmount.length = 7 := by decide
  have hlength' : quotedEnlarged.swapAmount.length = 11 := by decide
  have hfirst : priceByProbe weth quotedProbe = 1 := by
    rw [priceByProbe, hlength]
    norm_num [shiftDecimal, weth, quotedProbe]
  have henlarged : priceByProbe weth quotedEnlarged = 10000 := by
    rw [priceByProbe, hlength']
    norm_num [shiftDecimal, weth, quotedEnlarged]
  have hasked : (dustConsumer 0).fetch 1 ⟨token "usdt", weth, 10 ^ 6⟩ = .ok quotedProbe := by decide
  have hdust : (dustConsumer 1000001).fetch 1 ⟨token "usdt", weth, 10 ^ 6⟩ =
      .ok ⟨"1000000", 0, []⟩ := by decide
  have hagain : (dustConsumer 1000001).fetch 1 ⟨token "usdt", weth, 10 ^ 6 * 10000⟩ =
      .ok quotedEnlarged := by decide
  refine ⟨⟨by decide, by norm_num [quotedProbe]⟩, ⟨by decide, by norm_num [quotedEnlarged]⟩, ?_, ?_,
    ?_⟩
  · rw [hfirst, henlarged]
    norm_num
  · rw [findPrice_first (by decide) hasked (by decide), hfirst]
  · rw [findPrice_enlarged (by decide) hdust rfl hagain (by decide), henlarged]

def oraiProbe : SmartRouteResponse := ⟨"1000000", 2000000, []⟩

theorem equal_decimals_price :
    priceByProbe (token "usdt") oraiProbe = priceByProbe (token "usdt") ⟨"10000000000", 20000000000, []⟩ :=
  (@probe_scale_iff (token "orai") (token "usdt") 2 oraiProbe _
    ⟨by decide, by norm_num [oraiProbe, token]⟩ ⟨by decide, by norm_num [token]⟩).mpr
    (.inr ⟨by decide, by decide⟩)

end OraidexSdk.OraiswapV3
