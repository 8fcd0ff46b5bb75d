import OraidexSdk.Js.Value
import OraidexSdk.Loops.Outcome
import OraidexSdk.OraiswapV3.SwapOperations

namespace OraidexSdk.OraiswapV3
open Js Outcome

def DENOMINATOR : Int := 10 ^ 12

structure PoolData (A : Type) where
  liquidity : A
  sqrtPrice : A
  feeGrowthGlobalX : A
  feeGrowthGlobalY : A
  feeProtocolTokenX : A
  feeProtocolTokenY : A
  currentTickIndex : Int
  startTimestamp : Nat
  lastTimestamp : Nat
  feeReceiver : String

structure StoredPool where
  poolKey : PoolKey String Nat
  pool : PoolData String

-- crossed_ticks, which is an array, is left out.
structure CalculateSwapResult where
  amountIn : Int
  amountOut : Int
  fee : Int
  startSqrtPrice : Int
  targetSqrtPrice : Int
  globalInsufficientLiquidity : Bool
  stateOutdated : Bool
  maxTicksCrossed : Bool
deriving DecidableEq, Repr

-- What the record that the interface declares has under a key.
def CalculateSwapResult.property (result : CalculateSwapResult) (key : String) : Value :=
  match key with
  | "amount_in" => .bigint result.amountIn
  | "amount_out" => .bigint result.amountOut
  | "fee" => .bigint result.fee
  | "start_sqrt_price" => .bigint result.startSqrtPrice
  | "target_sqrt_price" => .bigint result.targetSqrtPrice
  | "global_insufficient_liquidity" => .boolean result.globalInsufficientLiquidity
  | "state_outdated" => .boolean result.stateOutdated
  | "max_ticks_crossed" => .boolean result.maxTicksCrossed
  | _ => .undefined

-- Tickmaps and lists of ticks pass through to the compiled pool arithmetic.
structure PoolStates (T L : Type) where
  allPools : String → Option StoredPool
  allTickMaps : String → Option T
  allTicks : String → Option L

structure PoolArithmetic (T L : Type) where
  simulateSwap : Option T → FeeTier Nat → PoolData Int → Option L → Bool → Value → Bool → Int →
    Except JsError CalculateSwapResult
  getMinSqrtPrice : Nat → Except JsError Int
  getMaxSqrtPrice : Nat → Except JsError Int

def convertPool (pool : PoolData String) : Except JsError (PoolData Int) := do
  let liquidity ← bigInt pool.liquidity.toList
  let sqrtPrice ← bigInt pool.sqrtPrice.toList
  let feeGrowthGlobalX ← bigInt pool.feeGrowthGlobalX.toList
  let feeGrowthGlobalY ← bigInt pool.feeGrowthGlobalY.toList
  let feeProtocolTokenX ← bigInt pool.feeProtocolTokenX.toList
  let feeProtocolTokenY ← bigInt pool.feeProtocolTokenY.toList
  return { pool with
    liquidity := liquidity
    sqrtPrice := sqrtPrice
    feeGrowthGlobalX := feeGrowthGlobalX
    feeGrowthGlobalY := feeGrowthGlobalY
    feeProtocolTokenX := feeProtocolTokenX
    feeProtocolTokenY := feeProtocolTokenY }

def calculatePriceImpact (startingSqrtPrice endingSqrtPrice : Value) : Except JsError Value := do
  let startingPrice ← startingSqrtPrice.mul startingSqrtPrice
  let endingPrice ← endingSqrtPrice.mul endingSqrtPrice
  let priceQuotient ←
    if endingPrice.ge startingPrice then do
      (← (Value.bigint DENOMINATOR).mul startingPrice).div endingPrice
    else do
      (← (Value.bigint DENOMINATOR).mul endingPrice).div startingPrice
  (Value.bigint DENOMINATOR).sub priceQuotient

section Route

variable {T L : Type} (states : PoolStates T L) (arithmetic : PoolArithmetic T L)

def simulateOperation (amountIn : Value) (operation : SwapOperation Nat) :
    Except JsError (Int × CalculateSwapResult) :=
  match operation with
  | .oraiSwap _ _ => .error .typeError
  | .swapV3 poolKey xToY =>
    match states.allPools (poolKeyToString poolKey) with
    | none => .error .typeError
    | some stored => do
      let pool ← convertPool stored.pool
      let sqrtPriceLimit ←
        if xToY then arithmetic.getMinSqrtPrice poolKey.feeTier.tickSpacing
        else arithmetic.getMaxSqrtPrice poolKey.feeTier.tickSpacing
      let swapResult ← arithmetic.simulateSwap (states.allTickMaps (poolKeyToString poolKey))
        stored.poolKey.feeTier pool (states.allTicks (poolKeyToString poolKey)) xToY amountIn true
        sqrtPriceLimit
      return (pool.sqrtPrice, swapResult)

def addPriceImpact (state : Value × Value) (operation : SwapOperation Nat) :
    Except JsError (Value × Value) := do
  let (sqrtPrice, swapResult) ← simulateOperation states arithmetic state.2 operation
  let priceImpact ← calculatePriceImpact (.bigint sqrtPrice) (swapResult.property "sqrtPrice")
  let totalPriceImpact ← state.1.add priceImpact
  return (totalPriceImpact, swapResult.property "amountOut")

def getPriceImpactAfterSwap (route : ZapperRoute Nat) : Except JsError (Number ℚ) := do
  let amountIn ← bigInt route.offerAmount.toList
  let (totalPriceImpact, _) ←
    route.operations.foldlM (addPriceImpact states arithmetic) (.bigint 0, .bigint amountIn)
  let average ← totalPriceImpact.div (.bigint route.operations.length)
  return average.toNumber.div (.finite (10 ^ 12))

-- The impact of each hop, simulated with the amount that the hop before it gives out.
def hopImpacts (amountIn : Int) : List (SwapOperation Nat) → Except JsError (List Value)
  | [] => .ok []
  | operation :: operations => do
    let (sqrtPrice, swapResult) ← simulateOperation states arithmetic (.bigint amountIn) operation
    let impact ← calculatePriceImpact (.bigint sqrtPrice) (.bigint swapResult.targetSqrtPrice)
    return impact :: (← hopImpacts swapResult.amountOut operations)

def ReturnsAverageImpact (route : ZapperRoute Nat) : Prop :=
  ∃ (amountIn : Int) (impacts : List Int), bigInt route.offerAmount.toList = .ok amountIn ∧
    hopImpacts states arithmetic amountIn route.operations = .ok (impacts.map .bigint) ∧
    getPriceImpactAfterSwap states arithmetic route =
      .ok (.finite (⌊(impacts.sum : ℚ) / impacts.length⌋ / 10 ^ 12))

theorem calculatePriceImpact_undefined (startingSqrtPrice : Int) :
    calculatePriceImpact (.bigint startingSqrtPrice) .undefined = .error .typeError := by
  simp [calculatePriceImpact, ok_bind]
  rfl

-- The interface declares no key sqrtPrice.
theorem addPriceImpact_fails (state : Value × Value) (operation : SwapOperation Nat) :
    ∃ e, addPriceImpact states arithmetic state operation = .error e := by
  unfold addPriceImpact
  cases simulateOperation states arithmetic state.2 operation with
  | error e => exact ⟨e, rfl⟩
  | ok answer =>
    obtain ⟨sqrtPrice, swapResult⟩ := answer
    have hundefined : swapResult.property "sqrtPrice" = .undefined := rfl
    refine ⟨.typeError, ?_⟩
    simp only [ok_bind, hundefined, calculatePriceImpact_undefined]
    rfl

theorem price_impact_never_returned (route : ZapperRoute Nat) :
    (∃ e, getPriceImpactAfterSwap states arithmetic route = .error e) ∧
      ¬ ReturnsAverageImpact states arithmetic route := by
  have herror : ∃ e, getPriceImpactAfterSwap states arithmetic route = .error e := by
    unfold getPriceImpactAfterSwap
    cases bigInt route.offerAmount.toList with
    | error e => exact ⟨e, rfl⟩
    | ok amountIn =>
      cases route.operations with
      | nil => exact ⟨.rangeError, rfl⟩
      | cons operation operations =>
        obtain ⟨e, he⟩ := addPriceImpact_fails states arithmetic
          (.bigint 0, .bigint amountIn) operation
        refine ⟨e, ?_⟩
        rw [ok_bind, List.foldlM_cons, he]
        rfl
  refine ⟨herror, ?_⟩
  rintro ⟨amountIn, impacts, -, -, hreturned⟩
  obtain ⟨e, he⟩ := herror
  rw [he] at hreturned
  cases hreturned

end Route

def oraiUsdtKey : PoolKey String Nat := ⟨"orai", "usdt", ⟨3000000000, 100⟩⟩

def oraiUsdtStates : PoolStates Unit Unit where
  allPools _ := some ⟨oraiUsdtKey, ⟨"5000000", "1000", "0", "0", "0", "0", 0, 0, 0, "orai1fee"⟩⟩
  allTickMaps _ := some ()
  allTicks _ := some ()

def tenthDearer : PoolArithmetic Unit Unit where
  simulateSwap _ _ _ _ _ _ _ _ := .ok ⟨100, 90, 1, 1000, 1100, false, false, false⟩
  getMinSqrtPrice _ := .ok 1
  getMaxSqrtPrice _ := .ok 1000000

theorem declared_result_throws :
    hopImpacts oraiUsdtStates tenthDearer 100 [.swapV3 oraiUsdtKey false] =
        .ok [.bigint 173553719009] ∧
      getPriceImpactAfterSwap oraiUsdtStates tenthDearer
        ⟨"100", [.swapV3 oraiUsdtKey false], "usdt", "89"⟩ = .error .typeError ∧
      ¬ ReturnsAverageImpact oraiUsdtStates tenthDearer
        ⟨"100", [.swapV3 oraiUsdtKey false], "usdt", "89"⟩ := by
  have hrun : getPriceImpactAfterSwap oraiUsdtStates tenthDearer
      ⟨"100", [.swapV3 oraiUsdtKey false], "usdt", "89"⟩ = .error .typeError := by decide
  refine ⟨by decide, hrun, ?_⟩
  rintro ⟨amountIn, impacts, -, -, hreturned⟩
  rw [hrun] at hreturned
  cases hreturned

end OraidexSdk.OraiswapV3
