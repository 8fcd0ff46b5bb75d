import OraidexSdk.Loops.Logged
import OraidexSdk.Loops.Outcome
import OraidexSdk.OraiswapV3.PoolKey
import OraidexSdk.SmartRouter.Data
import Mathlib.Algebra.Order.Round
import Mathlib.Data.Rat.Floor

namespace OraidexSdk.OraiswapV3
open Js Outcome Logged

structure TokenItem where
  name : String
  contractAddress : Option String
  denom : String
  chainId : String
  decimals : Nat
deriving DecidableEq, Repr

def extractAddress (tokenInfo : TokenItem) : String :=
  (truthy tokenInfo.contractAddress).getD tokenInfo.denom

structure RouteParams where
  sourceAsset : TokenItem
  destAsset : TokenItem
  amount : Int
deriving DecidableEq, Repr

structure SmartRouteResponse where
  swapAmount : String
  returnAmount : Int
  routes : List Route
deriving DecidableEq

structure Pool where
  sqrtPrice : Nat
  currentTickIndex : Int
deriving DecidableEq, Repr

structure PoolWithPoolKey where
  poolKey : PoolKey String Nat
  pool : Pool
deriving DecidableEq

inductive FetchFailure where
  | status
  | failed
deriving DecidableEq, Repr

inductive ZapInResult where
  | inRangeNoRouteThroughSelf
  | inRangeHasRouteThroughSelf
  | inRangeHasRouteThroughSelfMayBecomeOutRange
  | outRangeNoRouteThroughSelf
  | outRangeHasRouteThroughSelf
  | outRangeHasRouteThroughSelfMayBecomeInRange
deriving DecidableEq, Repr

structure ZapInLiquidityResponse (M : Type) where
  status : ZapInResult
  message : M
deriving DecidableEq

-- The chain, the router and the compiled pool arithmetic; the router is asked once or
-- twice in each numbered call of findRoute and may answer each call anew.
structure ZapConsumer (M : Type) where
  deviation : ℚ
  getPool : PoolKey String Nat → Except JsError PoolWithPoolKey
  fetch : Nat → RouteParams → Except FetchFailure SmartRouteResponse
  simulateSwap : PoolKey String Nat → Pool → Action → Except JsError Nat
  getTickAtSqrtPrice : Nat → Nat → Except JsError Int
  getLiquidityByX : Nat → Int → Int → Nat → Except JsError Nat
  populateMessageZapIn : SmartRouteResponse → SmartRouteResponse → Nat → Option Bool →
    Except JsError M

structure ZapInParams where
  poolKey : PoolKey String Nat
  tokenIn : TokenItem
  amountIn : Nat
  lowerTick : Int
  upperTick : Int
  tokenX : TokenItem
  tokenY : TokenItem
deriving DecidableEq

structure Prices where
  xPriceByTokenIn : ℚ
  yPriceByTokenIn : ℚ
deriving DecidableEq

structure Calculation where
  yPerX : ℚ
  amountX : Int
  amountY : Int
  amountInToX : Int
deriving DecidableEq

structure Opening where
  poolKey : PoolKey String Nat
  pool : Pool
  prices : Prices
  calculation : Calculation
deriving DecidableEq

structure Spending where
  amountInToX : Int
  amountInToY : Int
deriving DecidableEq, Repr

-- Without decimals all digits of the value stand after the dot, and BigDecimal keeps them.
def shiftDecimal (value : Int) (decimals : Nat) : ℚ :=
  value / 10 ^ (if decimals = 0 then (bigIntText value).length else decimals)

def extractOraidexV3Actions (routes : List Route) : List Action :=
  routes.flatMap fun route => route.paths.flatMap fun path =>
    path.actions.filter (·.protocol = some "OraidexV3")

section Process

variable {M : Type} (consumer : ZapConsumer M)

def findRouteOr (onZero : Except JsError SmartRouteResponse) (call : Nat) (route : RouteParams) :
    Except JsError SmartRouteResponse :=
  if route.sourceAsset.name = route.destAsset.name then
    .ok ⟨String.ofList (bigIntText route.amount), route.amount, []⟩
  else if route.amount = 0 then .ok ⟨"0", 0, []⟩
  else match consumer.fetch call route with
    | .error .status => .error (.error "Too many requests")
    | .error .failed => .error (.error
        ("Route not found: " ++ route.sourceAsset.name ++ " -> " ++ route.destAsset.name))
    | .ok response => if response.returnAmount = 0 then onZero else .ok response

def routeNoLiquidity : Except JsError SmartRouteResponse := .error (.error "Route has no liquidity")

def findRoute (call : Nat) (route : RouteParams) (isGetPrice : Bool) :
    Except JsError SmartRouteResponse :=
  findRouteOr consumer
    (if isGetPrice then
      findRouteOr consumer routeNoLiquidity call { route with amount := route.amount * 10000 }
    else routeNoLiquidity) call route

def simulateSwapOffChainForRoute (poolKey : PoolKey String Nat) (pool : Pool) :
    List Action → Except JsError Pool
  | [] => .ok pool
  | route :: routes =>
    match route.swapInfo with
    | none => .error .typeError
    | some swapInfo =>
      if swapInfo.any (·.poolId = poolKeyToString poolKey) then do
        let targetSqrtPrice ← consumer.simulateSwap poolKey pool route
        let sqrtPrice := (pool.sqrtPrice + targetSqrtPrice) / 2
        let tick ← consumer.getTickAtSqrtPrice sqrtPrice poolKey.feeTier.tickSpacing
        return ⟨sqrtPrice, tick⟩
      else simulateSwapOffChainForRoute poolKey pool routes

variable (params : ZapInParams)

def outOfRange (pool : Pool) : Bool :=
  params.lowerTick > pool.currentTickIndex || params.upperTick ≤ pool.currentTickIndex

-- Either the answer of the whole zap, or the pool that the swap moves into the range.
def processZapInWithSingleSide (poolKey : PoolKey String Nat) (pool : Pool) :
    Except JsError (ZapInLiquidityResponse M ⊕ Pool) := do
  let isTokenX := ¬ params.upperTick < pool.currentTickIndex
  let tokenNeed := if isTokenX then params.tokenX else params.tokenY
  let actualReceive ← findRoute consumer 0 ⟨params.tokenIn, tokenNeed, params.amountIn⟩ false
  let routes := extractOraidexV3Actions actualReceive.routes
  let simulated ← simulateSwapOffChainForRoute consumer poolKey pool routes
  let message ← consumer.populateMessageZapIn actualReceive actualReceive simulated.sqrtPrice
    (some isTokenX)
  return if pool.sqrtPrice = simulated.sqrtPrice then
      .inl ⟨.outRangeNoRouteThroughSelf, message⟩
    else if outOfRange params simulated then .inl ⟨.outRangeHasRouteThroughSelf, message⟩
    else .inr simulated

def findPrice (call : Nat) (sourceAsset destAsset : TokenItem) : Except JsError ℚ := do
  let price ← findRoute consumer call ⟨sourceAsset, destAsset, 10 ^ sourceAsset.decimals⟩ true
  let extendDecimal := price.swapAmount.length - 1 - destAsset.decimals
  return shiftDecimal price.returnAmount (destAsset.decimals + extendDecimal)

def findPrices (poolKey : PoolKey String Nat) : Except JsError Prices := do
  let xPrice ← findPrice consumer 1 params.tokenX params.tokenIn
  let yPrice ← findPrice consumer 2 params.tokenY params.tokenIn
  let address := extractAddress params.tokenIn
  return if address ∉ [poolKey.tokenX, poolKey.tokenY] then ⟨xPrice, yPrice⟩
    else if address = poolKey.tokenX then ⟨1, yPrice⟩
    else ⟨xPrice, 1⟩

def calculate (prices : Prices) (yPerX : ℚ) : Except JsError Calculation :=
  let divisor := prices.xPriceByTokenIn + prices.yPriceByTokenIn * yPerX
  if divisor = 0 then .error .rangeError
  else
    let xResult := params.amountIn / divisor
    .ok ⟨yPerX, round xResult, round (xResult * yPerX), round (xResult * prices.xPriceByTokenIn)⟩

def yPerXIn (pool : Pool) : Except JsError ℚ := do
  let yPerXAmount ← consumer.getLiquidityByX (10 ^ params.tokenX.decimals) params.lowerTick
    params.upperTick pool.sqrtPrice
  return shiftDecimal yPerXAmount params.tokenY.decimals

def openInRange (poolKey : PoolKey String Nat) (pool : Pool) : Except JsError Opening := do
  let yPerX ← yPerXIn consumer params pool
  let prices ← findPrices consumer params poolKey
  let calculation ← calculate params prices yPerX
  return ⟨poolKey, pool, prices, calculation⟩

def openPosition : Except JsError (ZapInLiquidityResponse M ⊕ Opening) := do
  let pool ← consumer.getPool params.poolKey
  if outOfRange params pool.pool then
    match ← processZapInWithSingleSide consumer params pool.poolKey pool.pool with
    | .inl response => return .inl response
    | .inr simulated => return .inr (← openInRange consumer params pool.poolKey simulated)
  else return .inr (← openInRange consumer params pool.poolKey pool.pool)

-- None where the simulated swap may move the pool out of the range.
def recalculate (opening : Opening) (pool : Pool) : Except JsError (Option Calculation) :=
  if opening.pool.sqrtPrice = pool.sqrtPrice then .ok (some opening.calculation)
  else if outOfRange params pool then .ok none
  else do
    let yPerX ← yPerXIn consumer params pool
    return some (← calculate params opening.prices yPerX)

-- A quotient by zero is over every deviation, and 0 / 0 is over none.
def deviates (received amount : Int) : Bool :=
  if amount = 0 then received ≠ 0 else |(received : ℚ) - amount| / amount > consumer.deviation

def rebalances (calculation : Calculation) (x y : SmartRouteResponse) : Bool :=
  deviates consumer x.returnAmount calculation.amountX ||
    deviates consumer y.returnAmount calculation.amountY

def rebalance (prices : Prices) (calculation : Calculation) (x y : SmartRouteResponse) :
    Except JsError Int :=
  if rebalances consumer calculation x y then do
    let xPriceByY ← findPrice consumer 5 params.tokenX params.tokenY
    let divisor := calculation.yPerX + xPriceByY
    if divisor = 0 then .error .rangeError
    else
      let deltaX := (y.returnAmount - calculation.yPerX * x.returnAmount) / divisor
      return calculation.amountInToX + round (deltaX * prices.xPriceByTokenIn)
  else .ok calculation.amountInToX

def spending (amountInToX : Int) : Spending := ⟨amountInToX, params.amountIn - amountInToX⟩

def findZapRoutes (call : Nat) (s : Spending) :
    Logged Spending JsError (SmartRouteResponse × SmartRouteResponse) := do
  record s
  let x ← lift (findRoute consumer call ⟨params.tokenIn, params.tokenX, s.amountInToX⟩ false)
  let y ← lift (findRoute consumer (call + 1) ⟨params.tokenIn, params.tokenY, s.amountInToY⟩ false)
  return (x, y)

def finishZapIn (opening : Opening) (x y : SmartRouteResponse) (pool : Pool)
    (calculation : Calculation) : Logged Spending JsError (ZapInLiquidityResponse M) := do
  let amountInToX ← lift (rebalance consumer params opening.prices calculation x y)
  let (xRouteInfo, yRouteInfo) ← findZapRoutes consumer params 6 (spending params amountInToX)
  let message ← lift (consumer.populateMessageZapIn xRouteInfo yRouteInfo pool.sqrtPrice none)
  return ⟨if opening.pool.sqrtPrice = pool.sqrtPrice then .inRangeNoRouteThroughSelf
    else .inRangeHasRouteThroughSelf, message⟩

def zapInRange (opening : Opening) : Logged Spending JsError (ZapInLiquidityResponse M) := do
  let (x, y) ← findZapRoutes consumer params 3 (spending params opening.calculation.amountInToX)
  let routes := extractOraidexV3Actions (x.routes ++ y.routes)
  let pool ← lift (simulateSwapOffChainForRoute consumer opening.poolKey opening.pool routes)
  match ← lift (recalculate consumer params opening pool) with
  | none =>
    let message ← lift (consumer.populateMessageZapIn x y pool.sqrtPrice none)
    return ⟨.inRangeHasRouteThroughSelfMayBecomeOutRange, message⟩
  | some calculation => finishZapIn consumer params opening x y pool calculation

def processZapInPositionLiquidity : Logged Spending JsError (ZapInLiquidityResponse M) := do
  match ← lift (openPosition consumer params) with
  | .inl response => return response
  | .inr opening => zapInRange consumer params opening

end Process

def Spending.InRange (amountIn : Nat) (s : Spending) : Prop :=
  s.amountInToX + s.amountInToY = amountIn ∧ 0 ≤ s.amountInToX ∧ 0 ≤ s.amountInToY

def NonNegative {M : Type} (consumer : ZapConsumer M) : Prop :=
  ∀ call route response, consumer.fetch call route = .ok response → 0 ≤ response.returnAmount

def share (amountIn : Nat) (prices : Prices) (yPerX : ℚ) : Int :=
  round (amountIn / (prices.xPriceByTokenIn + prices.yPriceByTokenIn * yPerX) *
    prices.xPriceByTokenIn)

theorem le_round_iff {n : Int} {x : ℚ} : n ≤ round x ↔ n - 1 / 2 ≤ x := by
  rw [round_eq, Int.le_floor]
  constructor
  · intro h
    linarith
  · intro h
    linarith

theorem round_le_iff {n : Int} {x : ℚ} : round x ≤ n ↔ x < n + 1 / 2 := by
  rw [← Int.lt_add_one_iff, round_eq, Int.floor_lt]
  push_cast
  constructor
  · intro h
    linarith
  · intro h
    linarith

theorem inRange_spending {params : ZapInParams} {amountInToX : Int} :
    (spending params amountInToX).InRange params.amountIn ↔
      0 ≤ amountInToX ∧ amountInToX ≤ params.amountIn := by
  simp only [Spending.InRange, spending]
  omega

section Prices

variable {M : Type} {consumer : ZapConsumer M} {params : ZapInParams}

theorem findRouteOr_pos (hrouter : NonNegative consumer)
    {onZero : Except JsError SmartRouteResponse}
    (hzero : ∀ response, onZero = .ok response → 0 < response.returnAmount) {call : Nat}
    {route : RouteParams} (hamount : 0 < route.amount) {response : SmartRouteResponse}
    (h : findRouteOr consumer onZero call route = .ok response) : 0 < response.returnAmount := by
  unfold findRouteOr at h
  split at h
  · cases h
    exact hamount
  · rw [if_neg hamount.ne'] at h
    split at h
    · cases h
    · cases h
    · rename_i answer hanswer
      split at h
      · exact hzero response h
      · rename_i hne
        cases h
        exact lt_of_le_of_ne (hrouter call route _ hanswer) (Ne.symm hne)

theorem findRoute_pos (hrouter : NonNegative consumer) {call : Nat} {route : RouteParams}
    (hamount : 0 < route.amount) {isGetPrice : Bool} {response : SmartRouteResponse}
    (h : findRoute consumer call route isGetPrice = .ok response) : 0 < response.returnAmount := by
  have hnone (r : SmartRouteResponse) (hr : routeNoLiquidity = .ok r) : 0 < r.returnAmount := by
    cases hr
  refine findRouteOr_pos hrouter ?_ hamount h
  intro r hr
  cases isGetPrice with
  | false => exact hnone r hr
  | true => exact findRouteOr_pos hrouter hnone (Int.mul_pos hamount (by decide)) hr

theorem shiftDecimal_pos {value : Int} (h : 0 < value) (decimals : Nat) :
    0 < shiftDecimal value decimals := by
  unfold shiftDecimal
  have hvalue : (0 : ℚ) < value := Int.cast_pos.mpr h
  positivity

theorem shiftDecimal_nonneg {value : Int} (h : 0 ≤ value) (decimals : Nat) :
    0 ≤ shiftDecimal value decimals := by
  unfold shiftDecimal
  have hvalue : (0 : ℚ) ≤ value := Int.cast_nonneg h
  positivity

theorem findPrice_pos (hrouter : NonNegative consumer) {call : Nat} {source dest : TokenItem}
    {price : ℚ} (h : findPrice consumer call source dest = .ok price) : 0 < price := by
  obtain ⟨response, hresponse, hprice⟩ := bind_eq_ok.mp h
  cases hprice
  have hpos := findRoute_pos hrouter (by positivity) hresponse
  exact shiftDecimal_pos hpos _

theorem findPrices_pos (hrouter : NonNegative consumer) {poolKey : PoolKey String Nat}
    {prices : Prices} (h : findPrices consumer params poolKey = .ok prices) :
    0 < prices.xPriceByTokenIn ∧ 0 < prices.yPriceByTokenIn := by
  obtain ⟨xPrice, hx, hrest⟩ := bind_eq_ok.mp h
  obtain ⟨yPrice, hy, hprices⟩ := bind_eq_ok.mp hrest
  have hxpos := findPrice_pos hrouter hx
  have hypos := findPrice_pos hrouter hy
  simp only [pure, Except.pure, Except.ok.injEq] at hprices
  rw [← hprices]
  split
  · exact ⟨hxpos, hypos⟩
  · split
    · exact ⟨one_pos, hypos⟩
    · exact ⟨hxpos, one_pos⟩

theorem yPerXIn_nonneg {pool : Pool} {yPerX : ℚ} (h : yPerXIn consumer params pool = .ok yPerX) :
    0 ≤ yPerX := by
  obtain ⟨amount, -, hyPerX⟩ := bind_eq_ok.mp h
  cases hyPerX
  exact shiftDecimal_nonneg (Int.natCast_nonneg amount) _

end Prices

section Split

variable {M : Type} {consumer : ZapConsumer M} {params : ZapInParams}

theorem share_in_range {p q yPerX : ℚ} (hp : 0 < p) (hq : 0 < q) (hy : 0 ≤ yPerX) (amountIn : Nat) :
    0 ≤ share amountIn ⟨p, q⟩ yPerX ∧ share amountIn ⟨p, q⟩ yPerX ≤ amountIn := by
  have hA : (0 : ℚ) ≤ amountIn := Nat.cast_nonneg amountIn
  have hqy : 0 ≤ q * yPerX := mul_nonneg hq.le hy
  have hdivisor : 0 < p + q * yPerX := by linarith
  have hlow : 0 ≤ amountIn / (p + q * yPerX) * p := by positivity
  have hhigh : amountIn / (p + q * yPerX) * p ≤ amountIn := by
    rw [div_mul_eq_mul_div, div_le_iff₀ hdivisor]
    exact mul_le_mul_of_nonneg_left (by linarith) hA
  constructor
  · rw [share, le_round_iff]
    push_cast
    linarith
  · rw [share, round_le_iff]
    push_cast
    linarith

structure Calculation.Sound (prices : Prices) (amountIn : Nat) (c : Calculation) : Prop where
  yPerX_nonneg : 0 ≤ c.yPerX
  amountInToX_eq : c.amountInToX = share amountIn prices c.yPerX

structure Opening.Sound (amountIn : Nat) (o : Opening) : Prop where
  xPrice_pos : 0 < o.prices.xPriceByTokenIn
  yPrice_pos : 0 < o.prices.yPriceByTokenIn
  calculation : o.calculation.Sound o.prices amountIn

theorem calculate_sound {prices : Prices} {yPerX : ℚ} (hy : 0 ≤ yPerX) {c : Calculation}
    (h : calculate params prices yPerX = .ok c) : c.Sound prices params.amountIn := by
  simp only [calculate] at h
  split at h
  · cases h
  · cases h
    exact ⟨hy, rfl⟩

theorem openInRange_sound (hrouter : NonNegative consumer) {poolKey : PoolKey String Nat}
    {pool : Pool} {o : Opening} (h : openInRange consumer params poolKey pool = .ok o) :
    o.Sound params.amountIn := by
  obtain ⟨yPerX, hyPerX, hrest⟩ := bind_eq_ok.mp h
  obtain ⟨prices, hprices, hrest⟩ := bind_eq_ok.mp hrest
  obtain ⟨c, hc, ho⟩ := bind_eq_ok.mp hrest
  cases ho
  obtain ⟨hx, hy⟩ := findPrices_pos hrouter hprices
  exact ⟨hx, hy, calculate_sound (yPerXIn_nonneg hyPerX) hc⟩

theorem openPosition_sound (hrouter : NonNegative consumer) {o : Opening}
    (h : openPosition consumer params = .ok (.inr o)) : o.Sound params.amountIn := by
  obtain ⟨pool, -, hrest⟩ := bind_eq_ok.mp h
  split at hrest
  · obtain ⟨single, -, hsingle⟩ := bind_eq_ok.mp hrest
    cases single with
    | inl response => cases hsingle
    | inr simulated =>
      obtain ⟨opening, hopening, heq⟩ := bind_eq_ok.mp hsingle
      cases heq
      exact openInRange_sound hrouter hopening
  · obtain ⟨opening, hopening, heq⟩ := bind_eq_ok.mp hrest
    cases heq
    exact openInRange_sound hrouter hopening

theorem recalculate_sound {o : Opening} (ho : o.Sound params.amountIn) {pool : Pool}
    {c : Calculation} (h : recalculate consumer params o pool = .ok (some c)) :
    c.Sound o.prices params.amountIn := by
  unfold recalculate at h
  split at h
  · cases h
    exact ho.calculation
  · split at h
    · cases h
    · obtain ⟨yPerX, hyPerX, hrest⟩ := bind_eq_ok.mp h
      obtain ⟨c', hc, heq⟩ := bind_eq_ok.mp hrest
      cases heq
      exact calculate_sound (yPerXIn_nonneg hyPerX) hc

theorem Calculation.Sound.in_range {o : Opening} (ho : o.Sound params.amountIn) {c : Calculation}
    (h : c.Sound o.prices params.amountIn) :
    (spending params c.amountInToX).InRange params.amountIn := by
  rw [inRange_spending, h.amountInToX_eq]
  exact share_in_range ho.xPrice_pos ho.yPrice_pos h.yPerX_nonneg params.amountIn

end Split

section Rebalancing

variable {M : Type}

-- A zap whose first quotes are off by more than the deviation, with all that it was told.
structure Rebalancing (consumer : ZapConsumer M) (params : ZapInParams) where
  opening : Opening
  x : SmartRouteResponse
  y : SmartRouteResponse
  pool : Pool
  calculation : Calculation
  xPriceByY : ℚ
  opened : openPosition consumer params = .ok (.inr opening)
  answered : (findZapRoutes consumer params 3
    (spending params opening.calculation.amountInToX)).outcome = .ok (x, y)
  simulated : simulateSwapOffChainForRoute consumer opening.poolKey opening.pool
    (extractOraidexV3Actions (x.routes ++ y.routes)) = .ok pool
  recalculated : recalculate consumer params opening pool = .ok (some calculation)
  deviating : rebalances consumer calculation x y = true
  priced : findPrice consumer 5 params.tokenX params.tokenY = .ok xPriceByY

def CorrectionFits (amountIn : Nat) (prices : Prices) (yPerX xPriceByY : ℚ) (x y : Int) : Prop :=
  let correction := prices.xPriceByTokenIn * (y - yPerX * x)
  0 ≤ correction + (share amountIn prices yPerX + 1 / 2) * (yPerX + xPriceByY) ∧
    correction < (amountIn - share amountIn prices yPerX + 1 / 2) * (yPerX + xPriceByY)

def Rebalancing.Fits {consumer : ZapConsumer M} {params : ZapInParams}
    (r : Rebalancing consumer params) : Prop :=
  CorrectionFits params.amountIn r.opening.prices r.calculation.yPerX r.xPriceByY r.x.returnAmount
    r.y.returnAmount

theorem corrected_in_range_iff {amountIn : Nat} {prices : Prices} {yPerX xPriceByY : ℚ}
    (hdivisor : 0 < yPerX + xPriceByY) (x y : Int) :
    (0 ≤ share amountIn prices yPerX +
        round ((y - yPerX * x) / (yPerX + xPriceByY) * prices.xPriceByTokenIn) ∧
      share amountIn prices yPerX +
        round ((y - yPerX * x) / (yPerX + xPriceByY) * prices.xPriceByTokenIn) ≤ (amountIn : Int)) ↔
      CorrectionFits amountIn prices yPerX xPriceByY x y := by
  rw [CorrectionFits, ← neg_le_iff_add_nonneg', ← le_sub_iff_add_le', le_round_iff, round_le_iff]
  have hquotient : (y - yPerX * x) / (yPerX + xPriceByY) * prices.xPriceByTokenIn =
      prices.xPriceByTokenIn * (y - yPerX * x) / (yPerX + xPriceByY) := by ring
  rw [hquotient, le_div_iff₀ hdivisor, div_lt_iff₀ hdivisor]
  push_cast
  refine and_congr ?_ Iff.rfl
  constructor
  · intro h
    linarith
  · intro h
    linarith

variable {consumer : ZapConsumer M} {params : ZapInParams}

theorem always_findZapRoutes {P : Spending → Prop} {call : Nat} {s : Spending} :
    Always P (findZapRoutes consumer params call s) ↔ P s := by
  rw [findZapRoutes, always_record_bind]
  apply and_iff_left
  rw [always_lift_bind]
  intro x hx
  rw [always_lift_bind]
  intro y hy
  exact always_pure (x, y)

theorem always_finishZapIn {P : Spending → Prop} {o : Opening} {x y : SmartRouteResponse}
    {pool : Pool} {c : Calculation} :
    Always P (finishZapIn consumer params o x y pool c) ↔
      ∀ amountInToX, rebalance consumer params o.prices c x y = .ok amountInToX →
        P (spending params amountInToX) := by
  rw [finishZapIn, always_lift_bind]
  refine forall₂_congr fun amountInToX _ => ?_
  rw [always_bind, always_findZapRoutes]
  apply and_iff_left
  rintro ⟨xRouteInfo, yRouteInfo⟩ -
  rw [always_lift_bind]
  intro message hmessage
  exact always_pure _

theorem rebalance_in_range_iff (hrouter : NonNegative consumer) {o : Opening}
    (ho : o.Sound params.amountIn) {c : Calculation} (hc : c.Sound o.prices params.amountIn)
    {x y : SmartRouteResponse} :
    (∀ amountInToX, rebalance consumer params o.prices c x y = .ok amountInToX →
      (spending params amountInToX).InRange params.amountIn) ↔
      ∀ xPriceByY, rebalances consumer c x y = true →
        findPrice consumer 5 params.tokenX params.tokenY = .ok xPriceByY →
        CorrectionFits params.amountIn o.prices c.yPerX xPriceByY x.returnAmount y.returnAmount := by
  have hin := hc.in_range ho
  cases hdeviates : rebalances consumer c x y with
  | false =>
    refine iff_of_true ?_ nofun
    intro amountInToX h
    rw [rebalance, if_neg (by simp [hdeviates])] at h
    cases h
    exact hin
  | true =>
    cases hprice : findPrice consumer 5 params.tokenX params.tokenY with
    | error e =>
      refine iff_of_true ?_ nofun
      intro amountInToX h
      rw [rebalance, if_pos hdeviates, hprice] at h
      cases h
    | ok xPriceByY =>
      have hdivisor : 0 < c.yPerX + xPriceByY :=
        add_pos_of_nonneg_of_pos hc.yPerX_nonneg (findPrice_pos hrouter hprice)
      have hresult : rebalance consumer params o.prices c x y =
          .ok (c.amountInToX + round ((y.returnAmount - c.yPerX * x.returnAmount) /
            (c.yPerX + xPriceByY) * o.prices.xPriceByTokenIn)) := by
        rw [rebalance, if_pos hdeviates, hprice]
        exact if_neg hdivisor.ne'
      rw [hresult]
      simp only [Except.ok.injEq, forall_eq', forall_const]
      rw [inRange_spending, hc.amountInToX_eq]
      exact corrected_in_range_iff hdivisor _ _

theorem always_zapInRange {P : Spending → Prop} {o : Opening} :
    Always P (zapInRange consumer params o) ↔
      P (spending params o.calculation.amountInToX) ∧
        ∀ x y pool c,
          (findZapRoutes consumer params 3 (spending params o.calculation.amountInToX)).outcome =
            .ok (x, y) →
          simulateSwapOffChainForRoute consumer o.poolKey o.pool
            (extractOraidexV3Actions (x.routes ++ y.routes)) = .ok pool →
          recalculate consumer params o pool = .ok (some c) →
          Always P (finishZapIn consumer params o x y pool c) := by
  rw [zapInRange, always_bind, always_findZapRoutes]
  refine and_congr Iff.rfl ?_
  simp only [Prod.forall, always_lift_bind]
  constructor
  · intro h x y pool c hanswered hsimulated hrecalculated
    exact h x y hanswered pool hsimulated (some c) hrecalculated
  · intro h x y hanswered pool hsimulated c hrecalculated
    cases c with
    | none =>
      rw [always_lift_bind]
      intro message hmessage
      exact always_pure _
    | some c => exact h x y pool c hanswered hsimulated hrecalculated

theorem zap_in_split_iff (consumer : ZapConsumer M) (hrouter : NonNegative consumer)
    (params : ZapInParams) :
    Always (Spending.InRange params.amountIn) (processZapInPositionLiquidity consumer params) ↔
      ∀ r : Rebalancing consumer params, r.Fits := by
  rw [processZapInPositionLiquidity, always_lift_bind]
  constructor
  · intro h r
    have ho := openPosition_sound hrouter r.opened
    have hc := recalculate_sound ho r.recalculated
    have hfinish := (always_zapInRange.mp (h _ r.opened)).2 _ _ _ _ r.answered r.simulated
      r.recalculated
    rw [always_finishZapIn, rebalance_in_range_iff hrouter ho hc] at hfinish
    exact hfinish _ r.deviating r.priced
  · intro hfits opened hopened
    cases opened with
    | inl response => exact always_pure response
    | inr o =>
      have ho := openPosition_sound hrouter hopened
      refine always_zapInRange.mpr ⟨ho.calculation.in_range ho, ?_⟩
      intro x y pool c hanswered hsimulated hrecalculated
      have hc := recalculate_sound ho hrecalculated
      rw [always_finishZapIn, rebalance_in_range_iff hrouter ho hc]
      intro xPriceByY hdeviating hpriced
      exact hfits ⟨o, x, y, pool, c, xPriceByY, hopened, hanswered, hsimulated, hrecalculated,
        hdeviating, hpriced⟩

end Rebalancing

def token (name : String) : TokenItem := ⟨name, none, name, "Oraichain", 6⟩

-- Every quote is one to one, but for what tokenIn buys of X.
def quotingConsumer (xBought : Nat) : ZapConsumer Unit where
  deviation := 1 / 20
  getPool := fun poolKey => .ok ⟨poolKey, 1000000, 0⟩
  fetch := fun call route =>
    .ok ⟨String.ofList (bigIntText route.amount),
      if call = 3 then xBought * route.amount.natAbs else route.amount.natAbs, []⟩
  simulateSwap := fun _ _ _ => .error (.error "no route through the pool")
  getTickAtSqrtPrice := fun _ _ => .ok 0
  getLiquidityByX := fun x _ _ _ => .ok x
  populateMessageZapIn := fun _ _ _ _ => .ok ()

def zapUsdt : ZapInParams :=
  ⟨⟨"orai", "atom", 3000000000, 100⟩, token "usdt", 1000000, -100, 100, token "orai", token "atom"⟩

theorem quotingConsumer_nonNegative (xBought : Nat) : NonNegative (quotingConsumer xBought) := by
  intro call route response h
  cases h
  simp only
  split
  · positivity
  · positivity

theorem log_of_dear_quotes :
    (processZapInPositionLiquidity (quotingConsumer 4) zapUsdt).log =
      [⟨500000, 500000⟩, ⟨-250000, 1250000⟩] := by
  decide +kernel

theorem rebalanced_split_negative :
    NonNegative (quotingConsumer 4) ∧
      ¬ Always (Spending.InRange zapUsdt.amountIn)
        (processZapInPositionLiquidity (quotingConsumer 4) zapUsdt) := by
  refine ⟨quotingConsumer_nonNegative 4, ?_⟩
  intro h
  have hlast : (⟨-250000, 1250000⟩ : Spending) ∈
      (processZapInPositionLiquidity (quotingConsumer 4) zapUsdt).log := by
    rw [log_of_dear_quotes]
    simp
  exact absurd (h _ hlast).2.1 (by decide)

theorem quoted_zap_split :
    Always (Spending.InRange zapUsdt.amountIn)
        (processZapInPositionLiquidity (quotingConsumer 1) zapUsdt) ↔
      ∀ r : Rebalancing (quotingConsumer 1) zapUsdt, r.Fits :=
  zap_in_split_iff (quotingConsumer 1) (quotingConsumer_nonNegative 1) zapUsdt

end OraidexSdk.OraiswapV3
