import OraidexSdk.OraiswapV3.ZapIn

namespace OraidexSdk.OraiswapV3
open Js Outcome

-- processZapInWithSingleSide with the token already chosen.
def zapIntoSide {M : Type} (consumer : ZapConsumer M) (params : ZapInParams) (isTokenX : Bool)
    (poolKey : PoolKey String Nat) (pool : Pool) :
    Except JsError (ZapInLiquidityResponse M ⊕ Pool) := do
  let tokenNeed := if isTokenX then params.tokenX else params.tokenY
  let actualReceive ← findRoute consumer 0 ⟨params.tokenIn, tokenNeed, params.amountIn⟩ false
  let routes := extractOraidexV3Actions actualReceive.routes
  let simulated ← simulateSwapOffChainForRoute consumer poolKey pool routes
  let message ← consumer.populateMessageZapIn actualReceive actualReceive simulated.sqrtPrice
    (some isTokenX)
  return if pool.sqrtPrice = simulated.sqrtPrice then
      .inl ⟨.outRangeNoRouteThroughSelf, message⟩
    else if outOfRange params simulated then .inl ⟨.outRangeHasRouteThroughSelf, message⟩
    else .inr simulated

def SelectsSide (params : ZapInParams) (pool : Pool) (isTokenX : Bool) : Prop :=
  ∀ (M : Type) (consumer : ZapConsumer M) (poolKey : PoolKey String Nat),
    processZapInWithSingleSide consumer params poolKey pool =
      zapIntoSide consumer params isTokenX poolKey pool

-- Its message is the flag that populateMessageZapIn is given.
def flagConsumer : ZapConsumer (Option Bool) where
  deviation := 0
  getPool poolKey := .ok ⟨poolKey, ⟨1, 0⟩⟩
  fetch _ _ := .ok ⟨"1", 1, []⟩
  simulateSwap _ _ _ := .ok 1
  getTickAtSqrtPrice _ _ := .ok 0
  getLiquidityByX _ _ _ _ := .ok 1
  populateMessageZapIn _ _ _ flag := .ok flag

section Choice

variable {params : ZapInParams} {pool : Pool}

theorem findRoute_flagConsumer (call : Nat) (route : RouteParams) :
    ∃ response, findRoute flagConsumer call route false = .ok response ∧ response.routes = [] := by
  unfold findRoute findRouteOr
  split
  · exact ⟨_, rfl, rfl⟩
  · split
    · exact ⟨_, rfl, rfl⟩
    · exact ⟨_, rfl, rfl⟩

theorem zapIntoSide_flag (isTokenX : Bool) (poolKey : PoolKey String Nat) :
    zapIntoSide flagConsumer params isTokenX poolKey pool =
      .ok (.inl ⟨.outRangeNoRouteThroughSelf, some isTokenX⟩) := by
  obtain ⟨response, hroute, hroutes⟩ := findRoute_flagConsumer 0
    ⟨params.tokenIn, if isTokenX then params.tokenX else params.tokenY, params.amountIn⟩
  simp only [zapIntoSide, hroute, ok_bind, hroutes]
  simp [extractOraidexV3Actions, simulateSwapOffChainForRoute, flagConsumer, ok_bind]

theorem process_eq_zapIntoSide {M : Type} (consumer : ZapConsumer M) (poolKey : PoolKey String Nat) :
    processZapInWithSingleSide consumer params poolKey pool =
      zapIntoSide consumer params (¬ params.upperTick < pool.currentTickIndex) poolKey pool := by
  simp [processZapInWithSingleSide, zapIntoSide]

theorem selectsSide_iff {isTokenX : Bool} :
    SelectsSide params pool isTokenX ↔
      isTokenX = decide (¬ params.upperTick < pool.currentTickIndex) := by
  constructor
  · intro h
    have hside := h (Option Bool) flagConsumer params.poolKey
    rw [process_eq_zapIntoSide, zapIntoSide_flag, zapIntoSide_flag] at hside
    simpa using hside.symm
  · rintro rfl M consumer poolKey
    exact process_eq_zapIntoSide consumer poolKey

theorem single_side_choice_iff (hrange : params.lowerTick < params.upperTick)
    (hout : outOfRange params pool = true) :
    ((SelectsSide params pool true ↔ pool.currentTickIndex < params.lowerTick) ∧
        (SelectsSide params pool false ↔ params.upperTick ≤ pool.currentTickIndex)) ↔
      pool.currentTickIndex ≠ params.upperTick := by
  simp only [outOfRange, Bool.or_eq_true, decide_eq_true_eq] at hout
  simp only [selectsSide_iff, true_eq_decide_iff, false_eq_decide_iff, not_not]
  omega

end Choice

def zapAtTicks (lowerTick upperTick : Int) : ZapInParams :=
  ⟨⟨"orai", "usdt", ⟨500000000, 10⟩⟩, token "usdt", 1000, lowerTick, upperTick, token "orai",
    token "usdt"⟩

theorem upper_tick_selects_x :
    outOfRange (zapAtTicks 0 10) ⟨1, 10⟩ = true ∧ SelectsSide (zapAtTicks 0 10) ⟨1, 10⟩ true ∧
      ¬ ((SelectsSide (zapAtTicks 0 10) ⟨1, 10⟩ true ↔ (10 : Int) < 0) ∧
        (SelectsSide (zapAtTicks 0 10) ⟨1, 10⟩ false ↔ (10 : Int) ≤ 10)) := by
  simp only [selectsSide_iff]
  decide

theorem above_range_selects_y :
    (SelectsSide (zapAtTicks 0 10) ⟨1, 11⟩ true ↔ (11 : Int) < 0) ∧
      (SelectsSide (zapAtTicks 0 10) ⟨1, 11⟩ false ↔ (10 : Int) ≤ 11) :=
  (@single_side_choice_iff (zapAtTicks 0 10) ⟨1, 11⟩ (by decide) rfl).mpr (by decide)

end OraidexSdk.OraiswapV3
