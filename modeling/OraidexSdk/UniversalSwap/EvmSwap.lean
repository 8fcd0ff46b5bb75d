import OraidexSdk.Common.Constants
import OraidexSdk.Common.Display
import OraidexSdk.OraiswapV3.ZapIn

namespace OraidexSdk.UniversalSwap
open Js DigitText BigDecimal Script Outcome

structure TokenItemType extends OraiswapV3.TokenItem where
  coinGeckoId : Option String
  rpc : String
deriving DecidableEq, Repr

def caseSwapNativeAndWrapNative (fromCoingecko toCoingecko : Option String) : Bool :=
  let arr := [some "ethereum", some "weth"]
  arr.contains fromCoingecko && arr.contains toCoingecko

section EvmRoutes

def isSupportedNoPoolSwapEvm (coingeckoId : Option String) : Bool :=
  coingeckoId ∈ [some "wbnb", some "binancecoin", some "ethereum"]

def isEvmNetworkNativeSwapSupported (chainId : String) : Bool := chainId ∈ ["0x01", "0x38"]

structure ProxyContract where
  wrapNativeAddr : String
  routerAddr : String
deriving DecidableEq, Repr

-- getAddress leaves these addresses as they are: their checksums are right.
def proxyContractInfo : String → Option ProxyContract
  | "0x01" => some ⟨WRAP_ETH_CONTRACT, "0x7a250d5630B4cF539739dF2C5dAcb4c659F2488D"⟩
  | "0x38" => some ⟨WRAP_BNB_CONTRACT, "0x10ED43C718714eb63d5aA57B78B54704E256024E"⟩
  | _ => none

def buildSwapRouterKey (fromContractAddr : String) (toContractAddr : Option String) : String :=
  fromContractAddr ++ "-" ++ toContractAddr.getD "undefined"

def evmRoute (fromContractAddr toContractAddr : String) (route : List String) :
    String × List String :=
  (buildSwapRouterKey fromContractAddr (some toContractAddr), route)

def swapEvmRoutes : String → List (String × List String)
  | "0x38" =>
    [evmRoute WRAP_BNB_CONTRACT USDT_BSC_CONTRACT [WRAP_BNB_CONTRACT, USDT_BSC_CONTRACT],
      evmRoute WRAP_BNB_CONTRACT USDT_TRON_CONTRACT [WRAP_BNB_CONTRACT, USDT_BSC_CONTRACT],
      evmRoute WRAP_BNB_CONTRACT ORAI_ETH_CONTRACT [WRAP_BNB_CONTRACT, ORAI_BSC_CONTRACT],
      evmRoute WRAP_BNB_CONTRACT ORAI_BSC_CONTRACT [WRAP_BNB_CONTRACT, ORAI_BSC_CONTRACT],
      evmRoute WRAP_BNB_CONTRACT AIRI_BSC_CONTRACT [WRAP_BNB_CONTRACT, AIRI_BSC_CONTRACT],
      evmRoute USDT_BSC_CONTRACT AIRI_BSC_CONTRACT
        [USDT_BSC_CONTRACT, WRAP_BNB_CONTRACT, AIRI_BSC_CONTRACT],
      evmRoute USDT_BSC_CONTRACT ORAI_BSC_CONTRACT
        [USDT_BSC_CONTRACT, WRAP_BNB_CONTRACT, ORAI_BSC_CONTRACT],
      evmRoute ORAI_BSC_CONTRACT AIRI_BSC_CONTRACT
        [ORAI_BSC_CONTRACT, WRAP_BNB_CONTRACT, AIRI_BSC_CONTRACT]]
  | "0x01" =>
    [evmRoute WRAP_ETH_CONTRACT USDC_ETH_CONTRACT [WRAP_ETH_CONTRACT, USDC_ETH_CONTRACT],
      evmRoute WRAP_ETH_CONTRACT ORAI_ETH_CONTRACT [WRAP_ETH_CONTRACT, ORAI_ETH_CONTRACT],
      evmRoute WRAP_ETH_CONTRACT USDT_ETH_CONTRACT [WRAP_ETH_CONTRACT, USDT_ETH_CONTRACT],
      evmRoute WRAP_ETH_CONTRACT WRAP_ETH_CONTRACT [WRAP_ETH_CONTRACT, WRAP_ETH_CONTRACT],
      evmRoute USDC_ETH_CONTRACT USDT_ETH_CONTRACT [USDC_ETH_CONTRACT, USDT_ETH_CONTRACT],
      evmRoute USDC_ETH_CONTRACT ORAI_ETH_CONTRACT
        [USDC_ETH_CONTRACT, WRAP_ETH_CONTRACT, ORAI_ETH_CONTRACT],
      evmRoute USDT_ETH_CONTRACT ORAI_ETH_CONTRACT
        [USDT_ETH_CONTRACT, WRAP_ETH_CONTRACT, ORAI_ETH_CONTRACT]]
  | _ => []

def getEvmSwapRoute (chainId : String) (fromContractAddr toContractAddr : Option String) :
    Option (List String) :=
  if isEvmNetworkNativeSwapSupported chainId = false then none
  else if truthy fromContractAddr = none ∧ truthy toContractAddr = none then none
  else do
    let chainRoutes := swapEvmRoutes chainId
    let proxy ← proxyContractInfo chainId
    let fromAddr := (truthy fromContractAddr).getD proxy.wrapNativeAddr
    let toAddr := (truthy toContractAddr).getD proxy.wrapNativeAddr
    -- The route can go both ways.
    chainRoutes.lookup (buildSwapRouterKey fromAddr toContractAddr) <|>
      (chainRoutes.lookup (buildSwapRouterKey toAddr fromContractAddr)).map List.reverse

def isEvmSwappable (fromChainId toChainId : String)
    (fromContractAddr toContractAddr : Option String) : Bool :=
  if fromChainId ≠ toChainId then false
  else if fromChainId ≠ "0x01" ∧ fromChainId ≠ "0x38" then false
  else (getEvmSwapRoute fromChainId fromContractAddr toContractAddr).isSome

end EvmRoutes

def getTokenOnSpecificChainId (coingeckoId : Option String) (chainId : String)
    (flattenTokens : List TokenItemType) : Option TokenItemType :=
  flattenTokens.find? fun t => t.coinGeckoId = coingeckoId && t.chainId = chainId

structure SmartRouterResponse where
  swapAmount : String
  returnAmount : String
  routes : List Route
  error : Option JsError
deriving DecidableEq

structure SimulateResponse where
  amount : String
  displayAmount : DecimalNumber
  routes : Option SmartRouterResponse
deriving DecidableEq

-- getAmountsOut of the router contract at an address, asked through a provider.
abbrev GetAmountsOut : Type :=
  (rpc routerAddr amount : String) → Option (List String) → Except JsError (List Nat)

section Simulate

variable (getAmountsOut : GetAmountsOut)

def readDefined {α : Type} (value : Option α) : Except JsError α :=
  value.elim (.error .typeError) .ok

def simulateOnRouter (fromInfo toInfo : TokenItemType) (amount : String)
    (flattenTokens : List TokenItemType) : Except JsError SimulateResponse := do
  let toTokenInfoOnSameChainId :=
    getTokenOnSpecificChainId toInfo.coinGeckoId fromInfo.chainId flattenTokens
  let proxy ← readDefined (proxyContractInfo fromInfo.chainId)
  let toToken ← readDefined toTokenInfoOnSameChainId
  let route := getEvmSwapRoute fromInfo.chainId fromInfo.contractAddress toToken.contractAddress
  let outs ← getAmountsOut fromInfo.rpc proxy.routerAddr amount route
  match outs.getLast? with
  | none => .error (.error "There is no output amounts after simulating evm swap")
  | some out =>
    let simulateAmount := naturalText out
    return ⟨simulateAmount, ← toDisplay (.string simulateAmount) toToken.decimals 6, none⟩

-- The catch of the second branch ends without a value.
def simulateSwapEvm (fromInfo toInfo : TokenItemType) (amount : String)
    (flattenTokens : List TokenItemType) : Except JsError (Option SimulateResponse) :=
  let isCheckSwapNativeAndWrapNative :=
    caseSwapNativeAndWrapNative fromInfo.coinGeckoId toInfo.coinGeckoId
  if fromInfo.coinGeckoId = toInfo.coinGeckoId ∨ isCheckSwapNativeAndWrapNative then do
    let converted ← contents (do
      div (← mul (← new (.string amount) none) (.bigint (10 ^ toInfo.decimals : ℕ)))
        (.bigint (10 ^ fromInfo.decimals : ℕ))) emptyHeap
    return some ⟨converted.toString, ← toDisplay (.string amount) fromInfo.decimals 6, none⟩
  else .ok (simulateOnRouter getAmountsOut fromInfo toInfo amount flattenTokens).toOption

end Simulate

section OneToOne

theorem natural_digits (a : Nat) : AllDigits (naturalText a).toList := by
  rw [naturalText, String.toList_ofList]
  exact allDigits_toDigits a

theorem construct_natural (h : Heap) (a : Nat) :
    construct h none (.string (naturalText a)) = .ok ⟨(a * 10 ^ 6 : ℕ), 6⟩ := by
  have hparse := parse_wholeNumber (allDigits_toDigits a) Nat.toDigits_ne_nil none
  rw [numeral_toDigits] at hparse
  rw [construct, naturalText, String.toList_ofList]
  exact hparse

theorem outcome_bigint (f : Kernel) (h : Heap) (t : BigDecimal) (n : Nat) :
    outcome f h t (.bigint n) =
      combine f t ⟨(n * 10 ^ t.decimals : ℕ), t.decimals⟩ := by
  have hoperand : operand h t (.bigint n) = .ok ⟨(n * 10 ^ t.decimals : ℕ), t.decimals⟩ := by
    push_cast
    rfl
  rw [outcome, hoperand]
  rfl

theorem ratio_eq (a n : Nat) {m : Nat} (hm : m ≠ 0) :
    contents (do
      div (← mul (← new (.string (naturalText a)) none) (.bigint n)) (.bigint m)) emptyHeap =
      .ok ⟨(a * n * 10 ^ 6 / m : ℕ), 6⟩ := by
  let product : Script Ref := do mul (← new (.string (naturalText a)) none) (.bigint n)
  have hfresh := contents_fresh_ok mulKernel (bigint_not_object n) (construct_natural emptyHeap a)
  rw [outcome_bigint] at hfresh
  have hproduct : contents product emptyHeap = .ok ⟨(a * 10 ^ 6 * n : ℕ), 6⟩ := by
    have htimes := hfresh.trans (combine_mul _ rfl)
    rw [times, ← Nat.cast_mul] at htimes
    exact htimes
  have hthen := contents_then divKernel product emptyHeap (bigint_not_object m)
  have hpos : 0 < 10 ^ 6 := by decide
  have hquotient : a * 10 ^ 6 * n * 10 ^ 6 / (m * 10 ^ 6) = a * n * 10 ^ 6 / m := by
    rw [Nat.mul_div_mul_right _ _ hpos, Nat.mul_right_comm]
  rw [hproduct, ok_bind, outcome_bigint, combine_div (Nat.mul_ne_zero hm hpos.ne') 6 rfl,
    hquotient] at hthen
  have hassoc : (do div (← mul (← new (.string (naturalText a)) none) (.bigint n)) (.bigint m)) =
      (do div (← product) (.bigint m)) := (bind_assoc _ _ _).symm
  rw [hassoc]
  exact hthen

theorem toString_whole_iff (q n : Nat) :
    BigDecimal.toString ⟨q, 6⟩ = naturalText n ↔ q = n * 10 ^ 6 := by
  rw [BigDecimal.toString, naturalText, String.ofList_inj]
  exact toText_whole_iff q n 5

def rescaled (a toDecimals fromDecimals : Nat) : Nat := a * 10 ^ toDecimals / 10 ^ fromDecimals

-- The unrounded amount has zeros in its first six places.
def Whole (a toDecimals fromDecimals : Nat) : Prop :=
  10 ^ 6 ∣ a * 10 ^ toDecimals * 10 ^ 6 / 10 ^ fromDecimals

instance (a toDecimals fromDecimals : Nat) : Decidable (Whole a toDecimals fromDecimals) :=
  inferInstanceAs (Decidable (_ ∣ _))

theorem rescaled_eq (a toDecimals fromDecimals : Nat) :
    a * 10 ^ toDecimals * 10 ^ 6 / 10 ^ fromDecimals / 10 ^ 6 =
      rescaled a toDecimals fromDecimals := by
  rw [rescaled, Nat.div_div_eq_div_mul, Nat.mul_div_mul_right _ _ (Nat.pow_pos (by decide))]

theorem rescaled_of_whole {a n toDecimals fromDecimals : Nat}
    (h : a * 10 ^ toDecimals * 10 ^ 6 / 10 ^ fromDecimals = n * 10 ^ 6) :
    rescaled a toDecimals fromDecimals = n := by
  rw [← rescaled_eq, h, Nat.mul_div_cancel _ (Nat.pow_pos (by decide))]

theorem whole_iff (a toDecimals fromDecimals : Nat) :
    Whole a toDecimals fromDecimals ↔
      a * 10 ^ toDecimals * 10 ^ 6 / 10 ^ fromDecimals =
        rescaled a toDecimals fromDecimals * 10 ^ 6 := by
  rw [← rescaled_eq]
  constructor
  · exact fun h => (Nat.div_mul_cancel h).symm
  · exact fun h => ⟨_, h.trans (Nat.mul_comm _ _)⟩

def Answers (outcome : Except JsError (Option SimulateResponse)) (accepts : String → Prop) : Prop :=
  ∃ response, outcome = .ok (some response) ∧ accepts response.amount

def Uint128Text (text : String) : Prop := ∃ n < 2 ^ 128, text = naturalText n

variable (getAmountsOut : GetAmountsOut) (fromInfo toInfo : TokenItemType)
  (flattenTokens : List TokenItemType) (a : Nat)
  (hsame : fromInfo.coinGeckoId = toInfo.coinGeckoId ∨
    caseSwapNativeAndWrapNative fromInfo.coinGeckoId toInfo.coinGeckoId = true)
include hsame

theorem oneToOne_answers_iff (accepts : String → Prop) :
    Answers (simulateSwapEvm getAmountsOut fromInfo toInfo (naturalText a) flattenTokens) accepts ↔
      Displays fromInfo.decimals ∧ accepts (BigDecimal.toString
        ⟨(a * 10 ^ toInfo.decimals * 10 ^ 6 / 10 ^ fromInfo.decimals : ℕ), 6⟩) := by
  have hgives : (Amount.string (naturalText a)).Gives (numeral (naturalText a).toList) :=
    .string (by simp [naturalText]) (natural_digits a)
  rw [← toDisplay_ok_iff hgives, Answers, simulateSwapEvm, if_pos hsame,
    ratio_eq _ _ (pow_ne_zero _ (by decide)), ok_bind]
  constructor
  · rintro ⟨response, hresponse, haccepts⟩
    obtain ⟨displayAmount, hdisplay, hsome⟩ := bind_eq_ok.mp hresponse
    obtain rfl := Option.some.inj (Except.ok.inj hsome)
    exact ⟨⟨displayAmount, hdisplay⟩, haccepts⟩
  · rintro ⟨⟨displayAmount, hdisplay⟩, haccepts⟩
    exact ⟨_, bind_eq_ok.mpr ⟨displayAmount, hdisplay, rfl⟩, haccepts⟩

end OneToOne

theorem simulateSwapEvm_integer_iff (getAmountsOut : GetAmountsOut)
    (fromInfo toInfo : TokenItemType) (flattenTokens : List TokenItemType) (a : Nat)
    (hsame : fromInfo.coinGeckoId = toInfo.coinGeckoId ∨
      caseSwapNativeAndWrapNative fromInfo.coinGeckoId toInfo.coinGeckoId = true) :
    let outcome := simulateSwapEvm getAmountsOut fromInfo toInfo (naturalText a) flattenTokens
    let floor := rescaled a toInfo.decimals fromInfo.decimals
    let condition := Displays fromInfo.decimals ∧ Whole a toInfo.decimals fromInfo.decimals
    (Answers outcome (· = naturalText floor) ↔ condition) ∧
      (Answers outcome Uint128Text ↔ condition ∧ floor < 2 ^ 128) := by
  intro outcome floor condition
  have hanswers := oneToOne_answers_iff getAmountsOut fromInfo toInfo flattenTokens a hsame
  constructor
  · rw [hanswers, toString_whole_iff, ← whole_iff]
  · rw [hanswers, and_assoc, and_congr_right_iff]
    intro hdecimals
    rw [whole_iff]
    constructor
    · rintro ⟨n, hn, htext⟩
      have hwhole := (toString_whole_iff _ _).mp htext
      have hfloor : floor = n := rescaled_of_whole hwhole
      exact ⟨hwhole.trans (congrArg (· * 10 ^ 6) hfloor.symm), hfloor ▸ hn⟩
    · exact fun ⟨hwhole, hn⟩ => ⟨floor, hn, (toString_whole_iff _ _).mpr hwhole⟩

theorem ether_to_weth :
    let ether : TokenItemType := ⟨⟨"ETH", none, "ethereum", "0x01", 18⟩, some "ethereum", "rpc"⟩
    let weth : TokenItemType :=
      ⟨⟨"WETH", some WETH_CONTRACT, "weth", "Oraichain", 18⟩, some "weth", "rpc"⟩
    (ether.coinGeckoId = weth.coinGeckoId ∨
      caseSwapNativeAndWrapNative ether.coinGeckoId weth.coinGeckoId = true) ∧
      Answers (simulateSwapEvm (fun _ _ _ _ => .ok []) ether weth (naturalText 1500000000000) [])
        (· = naturalText (rescaled 1500000000000 18 18)) := by
  intro ether weth
  have hsame : ether.coinGeckoId = weth.coinGeckoId ∨
      caseSwapNativeAndWrapNative ether.coinGeckoId weth.coinGeckoId = true := .inr rfl
  exact ⟨hsame, (simulateSwapEvm_integer_iff _ ether weth [] 1500000000000 hsame).1.mpr
    ⟨by decide, by decide⟩⟩

theorem tether_amount_has_a_fraction :
    let amount := 1500000000000
    let bscTether : TokenItemType :=
      ⟨⟨"USDT", some USDT_BSC_CONTRACT, "bep20_usdt", "0x38", 18⟩, some "tether", "rpc"⟩
    let tether : TokenItemType :=
      ⟨⟨"USDT", some USDT_CONTRACT, "usdt", "Oraichain", 6⟩, some "tether", "rpc"⟩
    bscTether.coinGeckoId = tether.coinGeckoId ∧
      Answers (simulateSwapEvm (fun _ _ _ _ => .ok []) bscTether tether (naturalText amount) [])
        (· = "1.5") ∧
      ¬ Answers (simulateSwapEvm (fun _ _ _ _ => .ok []) bscTether tether (naturalText amount) [])
        (· = naturalText (rescaled amount 6 18)) := by
  intro amount bscTether tether
  have hanswers := oneToOne_answers_iff (fun _ _ _ _ => .ok []) bscTether tether [] amount (.inl rfl)
  refine ⟨rfl, (hanswers _).mpr ⟨by decide, by decide⟩, fun h => ?_⟩
  exact absurd ((hanswers _).mp h).2 (by decide)

end OraidexSdk.UniversalSwap
