import OraidexSdk.Js.Double
import OraidexSdk.Message.Chains.Chain
import OraidexSdk.OraiswapV3.TokenLookup
import OraidexSdk.UniversalSwap.EvmSwap

namespace OraidexSdk.UniversalSwap
open Js DigitText Outcome OraiswapV3
open Message (generateError)

structure RouterOptions where
  path : Option String
  protocols : Option (List String)
  dontAllowSwapAfter : Option (List String)
  maxSplits : Option Nat
  ignoreFee : Option Bool
deriving DecidableEq, Repr

structure RouterConfigSmartRoute where
  url : String
  path : String
  protocols : List String
  dontAllowSwapAfter : List String
  maxSplits : Nat
  ignoreFee : Bool
deriving DecidableEq, Repr

def getRouterConfig (options : Option RouterOptions) : RouterConfigSmartRoute where
  url := "https://osor.oraidex.io"
  path := (options.bind RouterOptions.path).getD "/smart-router/alpha-router"
  protocols := (options.bind RouterOptions.protocols).getD ["Oraidex", "OraidexV3"]
  dontAllowSwapAfter :=
    (options.bind RouterOptions.dontAllowSwapAfter).getD ["Oraidex", "OraidexV3"]
  maxSplits := (options.bind RouterOptions.maxSplits).getD 1
  ignoreFee := (options.bind RouterOptions.ignoreFee).getD false

structure SwapOptions where
  protocols : List String
  maxSplits : Nat
  dontAlowSwapAfter : List String
  ignoreFee : Bool
deriving DecidableEq, Repr

structure SmartRouteData where
  sourceAsset : String
  sourceChainId : String
  destAsset : String
  destChainId : String
  offerAmount : String
  swapOptions : SwapOptions
deriving DecidableEq, Repr

-- The router contracts on the EVM chains, and axios.post of a router's URL to a path.
structure Routers where
  getAmountsOut : GetAmountsOut
  post : (url path : String) → SmartRouteData → Except JsError SmartRouterResponse

section SmartRoute

variable (routers : Routers)

def querySmartRoute (offerInfo : AssetInfo) (offerChainId : String) (askInfo : AssetInfo)
    (askChainId offerAmount : String) (routerConfig : RouterConfigSmartRoute) :
    Except JsError SmartRouterResponse := do
  let data : SmartRouteData :=
    { sourceAsset := parseAssetInfo offerInfo
      sourceChainId := offerChainId
      destAsset := parseAssetInfo askInfo
      destChainId := askChainId
      offerAmount := offerAmount
      swapOptions :=
        { protocols := routerConfig.protocols
          maxSplits := routerConfig.maxSplits
          dontAlowSwapAfter := routerConfig.dontAllowSwapAfter
          ignoreFee := routerConfig.ignoreFee } }
  let res ← routers.post routerConfig.url routerConfig.path data
  return ⟨res.swapAmount, res.returnAmount, res.routes, none⟩

def generateSmartRouteForSwap (offerInfo : AssetInfo) (offerChainId : String) (askInfo : AssetInfo)
    (askChainId offerAmount : String) (routerConfig : RouterConfigSmartRoute) :
    Except JsError SmartRouterResponse := do
  let route ← querySmartRoute routers offerInfo offerChainId askInfo askChainId offerAmount
    routerConfig
  return ⟨offerAmount, route.returnAmount, route.routes, none⟩

def simulateSwapUsingSmartRoute (fromInfo toInfo : TokenItemType) (amount : String)
    (routerConfig : RouterConfigSmartRoute) : SmartRouterResponse :=
  if fromInfo.chainId = toInfo.chainId ∧ (truthy fromInfo.coinGeckoId).isSome ∧
      fromInfo.coinGeckoId = toInfo.coinGeckoId then
    ⟨amount, amount, [], none⟩
  else
    let offerInfo := parseTokenInfo fromInfo.toTokenItem
    let askInfo := parseTokenInfo toInfo.toTokenItem
    match generateSmartRouteForSwap routers offerInfo fromInfo.chainId askInfo toInfo.chainId amount
        routerConfig with
    | .ok response => response
    | .error error => ⟨"0", "0", [], some error⟩

end SmartRoute

def getTokenOnOraichain (coingeckoId : Option String) (oraichainTokens : List TokenItemType)
    (isNative : Bool) : Option TokenItemType :=
  match oraichainTokens.filter (·.coinGeckoId = coingeckoId) with
  | [] => none
  | [token] => some token
  | filterOraichainToken => filterOraichainToken.find? fun token =>
      (truthy token.contractAddress).isSome != isNative

structure RouterOption where
  useIbcWasm : Option Bool
  useAlphaIbcWasm : Option Bool
deriving DecidableEq, Repr

-- checkFeeRelayerNotOrai looks originalToInfo up, and may find none.
structure SimulateQuery where
  flattenTokens : List TokenItemType
  oraichainTokens : List TokenItemType
  originalFromInfo : TokenItemType
  originalToInfo : Option TokenItemType
  originalAmount : Number DecimalNumber
  routerOption : Option RouterOption
  routerConfig : Option RouterOptions

section Simulate

variable (routers : Routers)

def simulatesOnEvm (query : SimulateQuery) : Except JsError Bool :=
  if isSupportedNoPoolSwapEvm query.originalFromInfo.coinGeckoId then .ok true
  else do
    let originalToInfo ← readDefined query.originalToInfo
    return isEvmSwappable query.originalFromInfo.chainId originalToInfo.chainId
      query.originalFromInfo.contractAddress originalToInfo.contractAddress

def offeredAmount (query : SimulateQuery) (fromInfo : TokenItemType) : Except JsError String := do
  let amount ← toAmount query.originalAmount fromInfo.decimals
  return String.ofList (bigIntText amount)

def handleSimulateSwap (query : SimulateQuery) : Except JsError SimulateResponse := do
  if ← simulatesOnEvm query then
    let offered ← offeredAmount query query.originalFromInfo
    let originalToInfo ← readDefined query.originalToInfo
    let simulated ← simulateSwapEvm routers.getAmountsOut query.originalFromInfo originalToInfo
      offered query.flattenTokens
    let response ← readDefined simulated
    return { response with routes := none }
  else
    let originalToInfo ← readDefined query.originalToInfo
    let routerConfigDefault := getRouterConfig query.routerConfig
    let useIbcWasm := (query.routerOption.bind RouterOption.useIbcWasm).getD false
    let useAlphaIbcWasm := (query.routerOption.bind RouterOption.useAlphaIbcWasm).getD false
    let original := ! useIbcWasm || useAlphaIbcWasm
    let fromInfo := if original then some query.originalFromInfo
      else getTokenOnOraichain query.originalFromInfo.coinGeckoId query.oraichainTokens false
    let toInfo := if original then some originalToInfo
      else getTokenOnOraichain originalToInfo.coinGeckoId query.oraichainTokens false
    -- The text of the error reads a field of the token that is missing.
    let fromInfo ← readDefined fromInfo
    let toInfo ← readDefined toInfo
    let offered ← offeredAmount query fromInfo
    let simulateRes :=
      simulateSwapUsingSmartRoute routers fromInfo toInfo offered routerConfigDefault
    let amount := simulateRes.returnAmount
    return ⟨amount, ← toDisplay (.string amount) toInfo.decimals 6, some simulateRes⟩

def relayerQuery (oraichainTokens : List TokenItemType) (fromTokenInOrai : TokenItemType)
    (fromAmount : Number DecimalNumber) : SimulateQuery where
  flattenTokens := []
  oraichainTokens := oraichainTokens
  originalFromInfo := fromTokenInOrai
  originalToInfo := getTokenOnOraichain (some "oraichain-token") oraichainTokens false
  originalAmount := fromAmount
  routerOption := none
  routerConfig := none

def checkFeeRelayerNotOrai (oraichainTokens : List TokenItemType)
    (fromTokenInOrai : Option TokenItemType) (fromAmount : Number DecimalNumber)
    (relayerAmount : String) : Except JsError Bool :=
  match fromTokenInOrai with
  | none => .ok true
  | some fromTokenInOrai =>
    if fromTokenInOrai.chainId ≠ "Oraichain" then
      generateError ("From token on Oraichain is not on Oraichain. " ++
        "The developers have made a mistake. Please notify them!")
    else do
      let simulated ← handleSimulateSwap routers
        (relayerQuery oraichainTokens fromTokenInOrai fromAmount)
      let amountDisplay ← toDisplay (.string simulated.amount) fromTokenInOrai.decimals 6
      let relayerAmountDisplay ← toDisplay (.string relayerAmount) 6 6
      return ! decide (relayerAmountDisplay.value > amountDisplay.value)

end Simulate

section Comparison

variable {x y : DecimalNumber} {m n : Nat} (hx : Shows x m) (hy : Shows y n)
include hx hy

theorem shown_lt_iff : x.value < y.value ↔ m < n := by
  rw [hx.value_eq, hy.value_eq, div_lt_div_iff_of_pos_right (by norm_num), Nat.cast_lt]

theorem double_lt_of_shown_lt (hmn : m < n) (hn : n ≤ 2 ^ 32 * 10 ^ 6) :
    double x.value < double y.value := by
  have hvx := hx.value_eq
  have hvy := hy.value_eq
  have hgap : x.value + 1 / 10 ^ 6 ≤ y.value := by
    have hsucc : (m : ℚ) + 1 ≤ n := by exact_mod_cast hmn
    rw [hvx, hvy, ← add_div]
    exact div_le_div_of_nonneg_right hsucc (by norm_num)
  have hnonneg : 0 ≤ x.value := by
    rw [hvx]
    positivity
  have hbound : y.value ≤ 2 ^ 32 := by
    have hcast : (n : ℚ) ≤ 2 ^ 32 * 10 ^ 6 := by exact_mod_cast hn
    rw [hvy, div_le_iff₀ (by norm_num)]
    exact hcast
  have hxerror := abs_le.mp (abs_double_sub_le x.value)
  have hyerror := abs_le.mp (abs_double_sub_le y.value)
  rw [abs_of_nonneg hnonneg] at hxerror
  rw [abs_of_nonneg (by linarith)] at hyerror
  norm_num at hgap hxerror hyerror hbound
  linarith

-- The doubles that toDisplay returns compare as the exact numbers do.
theorem double_lt_iff (hm : m ≤ 2 ^ 32 * 10 ^ 6) (hn : n ≤ 2 ^ 32 * 10 ^ 6) :
    double x.value < double y.value ↔ x.value < y.value := by
  rw [shown_lt_iff hx hy]
  constructor
  · intro hlt
    by_contra hle
    rcases Nat.lt_or_eq_of_le (Nat.le_of_not_lt hle) with hgt | heq
    · exact absurd hlt (double_lt_of_shown_lt hy hx hgt hm).not_gt
    · have hsame : y.value = x.value := by rw [hy.value_eq, hx.value_eq, heq]
      exact absurd hlt (hsame ▸ lt_irrefl _)
  · exact fun hmn => double_lt_of_shown_lt hx hy hmn hn

end Comparison

section Verdict

variable {routers : Routers} {oraichainTokens : List TokenItemType}
  {fromTokenInOrai : TokenItemType} {fromAmount : Number DecimalNumber} {relayerAmount : String}
  {response : SimulateResponse} {A R : Nat} (hchain : fromTokenInOrai.chainId = "Oraichain")
  (hsim : handleSimulateSwap routers (relayerQuery oraichainTokens fromTokenInOrai fromAmount) =
    .ok response)
  (hA : (Amount.string response.amount).Gives A) (hR : (Amount.string relayerAmount).Gives R)
include hchain hsim hA

theorem fee_error (hs : ¬ Displays fromTokenInOrai.decimals) :
    ¬ ∃ verdict, checkFeeRelayerNotOrai routers oraichainTokens (some fromTokenInOrai) fromAmount
      relayerAmount = .ok verdict := by
  rintro ⟨verdict, hverdict⟩
  rw [checkFeeRelayerNotOrai, if_neg (not_not_intro hchain), hsim, ok_bind] at hverdict
  obtain ⟨amountDisplay, hamount, -⟩ := bind_eq_ok.mp hverdict
  exact toDisplay_error hs (string_not_falsy hA) ⟨amountDisplay, hamount⟩

include hR

-- The simulated amount is shown with the decimals of the from token.
theorem fee_verdict (hs : Displays fromTokenInOrai.decimals) :
    checkFeeRelayerNotOrai routers oraichainTokens (some fromTokenInOrai) fromAmount relayerAmount =
      .ok (decide (R ≤ returnAmount A fromTokenInOrai.decimals)) := by
  obtain ⟨x, hx, hshows⟩ := toDisplay_shows hs hA
  obtain ⟨y, hy, hrelayer⟩ := toDisplay_shows (s := 6) (.inl (by decide)) hR
  rw [returnAmount_six] at hrelayer
  have hcompare := shown_lt_iff hshows hrelayer
  rw [checkFeeRelayerNotOrai, if_neg (not_not_intro hchain), hsim, ok_bind, hx, ok_bind]
  refine bind_eq_ok.mpr ⟨y, hy, congrArg Except.ok ?_⟩
  simp only [gt_iff_lt, hcompare, ← decide_not, Nat.not_lt]

end Verdict

def Between (r a d : Nat) : Prop := min a d < r ∧ r ≤ max a d

instance (r a d : Nat) : Decidable (Between r a d) := inferInstanceAs (Decidable (_ ∧ _))

theorem not_between_iff {r a d : Nat} : ¬ Between r a d ↔ (r ≤ d ↔ r ≤ a) := by
  unfold Between
  omega

theorem checkFeeRelayerNotOrai_iff (routers : Routers) (oraichainTokens : List TokenItemType)
    (fromTokenInOrai : TokenItemType) (fromAmount : Number DecimalNumber) (relayerAmount : String)
    (response : SimulateResponse) (A R : Nat) (hchain : fromTokenInOrai.chainId = "Oraichain")
    (hsim : handleSimulateSwap routers (relayerQuery oraichainTokens fromTokenInOrai fromAmount) =
      .ok response)
    (hA : (Amount.string response.amount).Gives A) (hR : (Amount.string relayerAmount).Gives R) :
    let verdict := checkFeeRelayerNotOrai routers oraichainTokens (some fromTokenInOrai) fromAmount
      relayerAmount
    let s := fromTokenInOrai.decimals
    (verdict = .ok (decide (R ≤ A)) ↔ Displays s ∧ ¬ Between R A (returnAmount A s)) ∧
      ((verdict = .ok false ↔ A < R) ↔
        if Displays s then ¬ Between R A (returnAmount A s) else R ≤ A) := by
  intro verdict s
  by_cases hs : Displays s
  swap
  · have herror : ¬ ∃ b, verdict = .ok b := fee_error hchain hsim hA hs
    have hthrows (b : Bool) : verdict ≠ .ok b := fun hb => herror ⟨b, hb⟩
    rw [if_neg hs]
    constructor
    · exact iff_of_false (hthrows _) fun h => hs h.1
    · exact (iff_false_left (hthrows false)).trans Nat.not_lt
  · have hverdict : verdict = .ok (decide (R ≤ returnAmount A s)) := fee_verdict hchain hsim hA hR hs
    rw [hverdict, if_pos hs, and_iff_right hs, not_between_iff]
    constructor
    · rw [Except.ok.injEq, decide_eq_decide]
    · rw [Except.ok.injEq, decide_eq_false_iff_not]
      omega

-- A smart router that quotes one amount for everything.
def quoting (returnAmount : String) : Routers where
  getAmountsOut := fun _ _ _ _ => .error .typeError
  post := fun _ _ data => .ok ⟨data.offerAmount, returnAmount, [], none⟩

def orai : TokenItemType := ⟨⟨"ORAI", none, ORAI, "Oraichain", 6⟩, some "oraichain-token", "rpc"⟩

theorem tether_fee_covered :
    let usdt : TokenItemType :=
      ⟨⟨"USDT", some USDT_CONTRACT, "usdt", "Oraichain", 6⟩, some "tether", "rpc"⟩
    checkFeeRelayerNotOrai (quoting "2000000") [usdt, orai] (some usdt) (.finite ⟨1, 0⟩) "100000" =
      .ok (decide (100000 ≤ 2000000)) := by
  intro usdt
  have hsim : handleSimulateSwap (quoting "2000000")
        (relayerQuery [usdt, orai] usdt (.finite ⟨1, 0⟩)) =
      .ok ⟨"2000000", ⟨2000000, 6⟩, some ⟨"1000000", "2000000", [], none⟩⟩ := by decide +kernel
  have hamount : (Amount.string "2000000").Gives 2000000 := .string (by decide) (by decide)
  have hrelayer : (Amount.string "100000").Gives 100000 := .string (by decide) (by decide)
  exact (checkFeeRelayerNotOrai_iff (quoting "2000000") [usdt, orai] usdt (.finite ⟨1, 0⟩) "100000"
    _ 2000000 100000 rfl hsim hamount hrelayer).1.mpr ⟨by decide, by decide⟩

theorem bitcoin_fee_refused :
    let bitcoin : TokenItemType :=
      ⟨⟨"BTC", some BTC_CONTRACT, "btc", "Oraichain", 14⟩, some "bitcoin", "rpc"⟩
    handleSimulateSwap (quoting "100000000")
          (relayerQuery [bitcoin, orai] bitcoin (.finite ⟨1, 0⟩)) =
        .ok ⟨"100000000", ⟨100000000, 6⟩, some ⟨"100000000000000", "100000000", [], none⟩⟩ ∧
      checkFeeRelayerNotOrai (quoting "100000000") [bitcoin, orai] (some bitcoin) (.finite ⟨1, 0⟩)
        "100000" = .ok false ∧ ¬ 100000000 < 100000 := by
  decide +kernel

end OraidexSdk.UniversalSwap
