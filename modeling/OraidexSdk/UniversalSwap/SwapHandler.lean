import OraidexSdk.UniversalSwap.Addresses
import OraidexSdk.UniversalSwap.EvmWallet
import OraidexSdk.UniversalSwap.MemoText
import OraidexSdk.UniversalSwap.RelayerFee
import OraidexSdk.UniversalSwap.SwapAmounts

namespace OraidexSdk.UniversalSwap
open Js Outcome Message Interaction Program

structure Sender where
  cosmos : String
  evm : Option String
  tron : Option String
  ton : Option String

structure RelayerFeeData where
  relayerAmount : String
  relayerDecimals : Int

-- The slippage stands twice: as the number of the user, and as the message compilers see it. The
-- tokenOutChainIds are those of the routes' flattened entries, by position: the declared type of an
-- action has no such field, the router's actions do.
structure UniversalSwapData where
  sender : Sender
  originalFromToken : SwapToken
  originalToToken : SwapToken
  fromAmount : Number DecimalNumber
  simulateAmount : String
  userSlippage : Option DecimalNumber
  bridgeFee : Option DecimalNumber
  slippage : Slippage
  simulatePrice : Option String
  relayerFee : Option RelayerFeeData
  amounts : Option AmountDetails
  recipientAddress : Option String
  alphaSmartRoutes : Option (List Route)
  tokenOutChainIds : Nat → Option String
  affiliates : Option (List Affiliate)

structure HandlerOptions where
  ibcInfoTestMode : Bool
  isSourceReceiverTest : Bool
  isIbcWasm : Bool
  isAlphaIbcWasm : Bool
  skipBalanceIbcCheck : Bool
  skipRelayerFeeCheck : Bool

structure OraidexCommon where
  oraichainTokens : List SwapToken
  cosmosTokens : List SwapToken
  flattenTokens : List SwapToken
  tokenMap : String → Option SwapToken
  cosmosChains : List CosmosChain
  rpc : String
  chainId : String
  mixerRouter : String
  converter : String
  -- network.fee.gasPrice and network.denom
  gasPrice : String

-- A UniversalSwapHandler with the libraries behind it: the codec of bech32, the runtime of the memo's
-- messages, and the texts of JSON.stringify.
structure Handler where
  swapData : UniversalSwapData
  swapOptions : Option HandlerOptions
  hasCosmosWallet : Bool
  hasEvmWallet : Bool
  hasTonWallet : Bool
  evmWallet : EvmWallet
  defaultTronAddress : Option String
  common : OraidexCommon
  currentTimestamp : Nat
  memoTimeout : Nat
  codec : Bech32Codec
  runtime : Wire.Runtime JsError
  routers : Routers
  toLowerCase : String → String
  memoText : Message.MemoText → String
  stringifyToken : SwapToken → String
  stringifyError : JsError → String
  stringifyMessage : JsError → String
  -- coin of @cosmjs/proto-signing, which reads an amount
  coin : (amount denom : String) → Except JsError Coin

-- ibcInfos[fromChainId][toChainId]
def ibcInfos : List (String × List (String × IBCInfo)) :=
  [("cosmoshub-4", [("Oraichain", transferInfo "channel-301")]),
    ("Neutaro-1", [("Oraichain", transferInfo "channel-1")]),
    ("injective-1", [("Oraichain", transferInfo "channel-147")]),
    ("osmosis-1", [("Oraichain", transferInfo "channel-216")]),
    ("kawaii_6886-1", [("Oraichain", transferInfo "channel-0")]),
    ("noble-1", [("Oraichain", { transferInfo "channel-34" with
      testInfo := some (transferInfo "channel-35").toIBCChannel })]),
    ("Oraichain", ibcInfosOraichain),
    ("oraibridge-subnet-2", [("Oraichain", { transferInfo "channel-1" with
      testInfo := some (transferInfo "channel-6").toIBCChannel })])]

def ibcInfosOld : List (String × List (String × IBCInfo)) :=
  [("Oraichain", [("oraibridge-subnet-2", transferInfo "channel-20"),
      ("kawaii_6886-1", transferInfo "channel-21"), ("injective-1", transferInfo "channel-146")]),
    ("oraibridge-subnet-2", [("Oraichain", transferInfo "channel-0")]),
    ("kawaii_6886-1", [("Oraichain", transferInfo "channel-0")])]

-- UniversalSwapHelper.getIbcInfo
def getIbcInfo (fromChainId toChainId : String) : Except JsError IBCInfo :=
  match ibcInfos.lookup fromChainId with
  | none => generateError "Cannot find ibc info"
  | some infos =>
    match infos.lookup toChainId with
    | none => generateError s!"Cannot find ibc info from {fromChainId} to {toChainId}"
    | some ibcInfo => .ok ibcInfo

-- getTokenOnOraichain, which finds the object itself
def findOnOraichain (coingeckoId : Option String) (oraichainTokens : List SwapToken)
    (isNative : Bool) : Option SwapToken :=
  match oraichainTokens.filter (·.coinGeckoId = coingeckoId) with
  | [] => none
  | [token] => some token
  | filterOraichainToken => filterOraichainToken.find? fun token =>
      (truthy token.contractAddress).isSome != isNative

theorem findOnOraichain_toTokenItemType (coingeckoId : Option String) (tokens : List SwapToken)
    (isNative : Bool) :
    (findOnOraichain coingeckoId tokens isNative).map (·.toTokenItemType) =
      getTokenOnOraichain coingeckoId (tokens.map (·.toTokenItemType)) isNative := by
  have hfilter : (tokens.map (·.toTokenItemType)).filter (·.coinGeckoId = coingeckoId) =
      (tokens.filter (·.coinGeckoId = coingeckoId)).map (·.toTokenItemType) := List.filter_map
  unfold findOnOraichain getTokenOnOraichain
  rw [hfilter]
  generalize tokens.filter (·.coinGeckoId = coingeckoId) = found
  rcases found with _ | ⟨first, _ | ⟨second, rest⟩⟩
  · rfl
  · rfl
  · change _ = List.find? _ ((first :: second :: rest).map fun token => token.toTokenItemType)
    rw [List.find?_map]
    rfl

namespace Handler

variable (handler : Handler)

def env : Environment :=
  { handler.evmWallet.env with
    cosmosChains := handler.common.cosmosChains.map (·.toCustomChainInfo) }

-- config.swapOptions?.option
def option (get : HandlerOptions → Bool) : Bool := (handler.swapOptions.map get).getD false

def withCosmosWallet {α : Type} (program : Handles α) : Handles α :=
  if handler.hasCosmosWallet then program else lift (.error .typeError)

def withEvmWallet {α : Type} (program : Handles α) : Handles α :=
  if handler.hasEvmWallet then program else lift (.error .typeError)

def getTokenOnOraichain (coinGeckoId : Option String) (isNative : Bool) :
    Except JsError SwapToken :=
  match findOnOraichain coinGeckoId handler.common.oraichainTokens isNative with
  | some token => .ok token
  | none => generateError
      ("Could not find token " ++ coinGeckoId.getD "undefined" ++ " on Oraichain. Could not swap")

def getCwIcs20ContractAddr : String :=
  if handler.option (·.ibcInfoTestMode) then IBC_WASM_CONTRACT_TEST else IBC_WASM_CONTRACT

def getIbcInfo (fromChainId toChainId : String) : Except JsError IBCChannel := do
  let ibcInfo ← UniversalSwap.getIbcInfo fromChainId toChainId
  return if handler.option (·.ibcInfoTestMode) then ibcInfo.testInfo.getD ibcInfo.toIBCChannel
    else ibcInfo.toIBCChannel

-- GasPrice.fromString is left to the request for the client.
def getGasPriceFromToken : Except JsError String :=
  let token := handler.swapData.originalFromToken
  match token.feeCurrencies with
  | none => generateError ("This token " ++ handler.stringifyToken token ++
      " does not have fee currencies. getGasPriceFromToken is not called correctly")
  | some [] => generateError ("This token " ++ handler.stringifyToken token ++
      " does not have any fee currencies. Something is wrong")
  | some (coinMinimalDenom :: _) => .ok (token.gasPriceAverage.getD "0.025" ++ coinMinimalDenom)

def getKeplrAddr (chainId : String) : Handles String :=
  handler.withCosmosWallet (ask (.getKeplrAddr chainId))

def getCosmWasmClient (chainId rpc : String) (gasPrice : Option String) : Handles Unit :=
  handler.withCosmosWallet (ask (.getCosmWasmClient chainId rpc gasPrice))

def tronToEthAddress (address : Option String) : Except JsError String :=
  handler.evmWallet.readText (address.bind (OraidexSdk.tronToEthAddress handler.evmWallet.env))

def getUniversalSwapToAddress (toChainId : String) (sender : Sender) : Handles String :=
  if toChainId ∈ ["0x01", "0x1ae6", "0x38"] then
    match sender.evm with
    | some metamaskAddress => return metamaskAddress
    | none => handler.withEvmWallet (ask .getEthAddress)
  else if toChainId = "ton" then
    match sender.ton with
    | some tonAddress => return tonAddress
    | none => if handler.hasTonWallet then ask .getTonAddress else lift (.error .typeError)
  else if toChainId = "0x2b6653dc" then
    match truthy sender.tron with
    | some tronAddress => lift (handler.tronToEthAddress (some tronAddress))
    | none => handler.withEvmWallet
        (match truthy (if handler.evmWallet.hasTronWeb then handler.defaultTronAddress else none) with
        | some base58 => lift (handler.tronToEthAddress (some base58))
        | none => lift (generateError
            "Cannot find tron web to nor tron address to send to Tron network"))
  else if handler.env.isCosmosChain toChainId then handler.getKeplrAddr toChainId
  else lift (generateError ("Cannot not get address for chain: " ++ toChainId))

def getToAddressUniversalSwap : Handles String :=
  let toToken := handler.swapData.originalToToken
  match truthy handler.swapData.recipientAddress with
  | some recipientAddress =>
    if (checkValidateAddressWithNetwork handler.env recipientAddress toToken.chainId).isValid then
      if toToken.chainId = "0x2b6653dc" then
        lift (handler.tronToEthAddress (some recipientAddress))
      else return recipientAddress
    else lift (generateError "Recipient address invalid!")
  | none => handler.getUniversalSwapToAddress toToken.chainId handler.swapData.sender

end Handler

end OraidexSdk.UniversalSwap
