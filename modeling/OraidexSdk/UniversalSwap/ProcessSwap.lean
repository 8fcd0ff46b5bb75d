import OraidexSdk.Message.Build
import OraidexSdk.UniversalSwap.EvmTransfers
import OraidexSdk.UniversalSwap.SwapMessages

namespace OraidexSdk.UniversalSwap
open Js Outcome Message Interaction Program

inductive UniversalSwapType where
  | otherNetworksToOraichain
  | tonToOthers
  | oraichainToOraichain
  | oraichainToTon
  | oraichainToCosmos
  | oraichainToEvm
  | cosmosToOthers
deriving DecidableEq, Repr

def UniversalSwapType.text : UniversalSwapType → String
  | otherNetworksToOraichain => "other-networks-to-oraichain"
  | tonToOthers => "ton-to-others"
  | oraichainToOraichain => "oraichain-to-oraichain"
  | oraichainToTon => "oraichain-to-ton"
  | oraichainToCosmos => "oraichain-to-cosmos"
  | oraichainToEvm => "oraichain-to-evm"
  | cosmosToOthers => "cosmos-to-others"

structure SwapRoute where
  universalSwapType : UniversalSwapType
  isSmartRouter : Bool
deriving DecidableEq, Repr

-- The route itself is always empty here.
def getRoute (cosmosTokens : List SwapToken) (fromToken toToken : SwapToken)
    (destReceiver : Option String) : Except JsError SwapRoute :=
  if truthy destReceiver = none then .ok ⟨.otherNetworksToOraichain, false⟩
  else if fromToken.chainId = "ton" then .ok ⟨.tonToOthers, true⟩
  else if fromToken.chainId = "Oraichain" then
    if toToken.chainId = "Oraichain" then .ok ⟨.oraichainToOraichain, false⟩
    else if toToken.chainId = "ton" then .ok ⟨.oraichainToTon, false⟩
    else if cosmosTokens.any (·.chainId = toToken.chainId) then .ok ⟨.oraichainToCosmos, false⟩
    else .ok ⟨.oraichainToEvm, false⟩
  else if fromToken.chainId ∈ ["kawaii_6886-1", "0x1ae6"] then
    .error (.error ("chain id " ++ fromToken.chainId ++
      " is currently not supported in universal swap"))
  else if cosmosTokens.any (·.chainId = fromToken.chainId) then .ok ⟨.cosmosToOthers, true⟩
  else if toToken.chainId = "Oraichain" then
    if fromToken.chainId = "0x38" ∧
        fromToken.coinGeckoId.any (· ∈ ["milky-token", "kawaii-islands"]) then
      .ok ⟨.otherNetworksToOraichain, false⟩
    else if truthy fromToken.contractAddress = none ∧ fromToken.cosmosBased = false then
      .ok ⟨.otherNetworksToOraichain, false⟩
    else .ok ⟨.otherNetworksToOraichain, true⟩
  else if fromToken.chainId ∈ ["0x38", "0x01"] ∧ fromToken.chainId = toToken.chainId then
    .ok ⟨.otherNetworksToOraichain, false⟩
  else .ok ⟨.otherNetworksToOraichain, true⟩

structure PreparedSwap where
  toAddress : String
  oraiAddress : String
  swapRoute : String
  universalSwapType : UniversalSwapType
  injAddress : Option String
  tronAddress : Option String

structure RouteAddresses where
  sourceReceiver : String
  injAddress : Option String
  destReceiver : Option String
  recipientAddress : Option String
  evmAddress : Option String
  tronAddress : Option String
  tonAddress : Option String

namespace Handler

variable (handler : Handler)

-- The memo of getRouteV2, where the smart router goes over IBC wasm.
def ibcWasmRoute (addresses : RouteAddresses) (minimumReceive : String) : Except JsError String :=
  let fromToken := handler.swapData.originalFromToken
  let toToken := handler.swapData.originalToToken
  if handler.swapData.alphaSmartRoutes.isNone ∧ fromToken.coinGeckoId ≠ toToken.coinGeckoId then
    generateError "Missing router !"
  else do
    let obridgeAddress ← UniversalSwap.getAddress handler.codec "oraib" addresses.injAddress
      (some addresses.sourceReceiver) 118
    let memo ← getRouteV2 handler.env handler.memoTimeout
      { minimumReceive := minimumReceive
        recoveryAddr := addresses.sourceReceiver
        destReceiver := addresses.destReceiver
        remoteAddressObridge := some obridgeAddress }
      { routes := handler.swapData.alphaSmartRoutes
        destTokenPrefix := toToken.denomPrefix.getD "undefined"
        destAsset := OraiswapV3.extractAddress toToken.toTokenItem
        destChainId := toToken.chainId }
      handler.env.evmChains (handler.option (·.ibcInfoTestMode))
    return UniversalSwap.memoText handler.runtime memo

def evmReceiver (addresses : RouteAddresses) (toToken : SwapToken) : Addresses := fun key =>
  if toToken.cosmosBased = false ∧ key = toToken.chainId then
    let mapped := if key = "0x2b6653dc" then addresses.tronAddress
      else if key = "ton" then addresses.tonAddress
      else none
    truthy mapped <|> addresses.evmAddress
  else none

-- evm -> oraichain -> osmosis -> cosmos, ton -> others
def alphaRoute (addresses : RouteAddresses) (routes : List Route) : Except JsError String :=
  match routes with
  | [alphaRoutes] => do
    let receiverAddresses ← generateAddress handler.codec addresses.sourceReceiver
      addresses.injAddress handler.common.cosmosChains
      (some (evmReceiver addresses handler.swapData.originalToToken))
    let first ← readDefined alphaRoutes.paths.head?
    let response ← generateMemoSwap handler.env receiverAddresses handler.swapData.slippage
      { alphaRoutes with paths := alphaRoutes.paths.tail } addresses.recipientAddress
      (some first.chainId)
    return handler.memoText response.memo
  | _ => generateError "Missing router with alpha ibc wasm max length!"

def usesAlphaRoute (options : HandlerOptions) : Bool :=
  options.isAlphaIbcWasm && ! (handler.swapData.alphaSmartRoutes.getD []).isEmpty &&
    ! handler.swapData.originalFromToken.cosmosBased &&
    handler.swapData.originalFromToken.chainId ≠ handler.swapData.originalToToken.chainId

def chooseRoute (addresses : RouteAddresses) (minimumReceive : String) :
    Except JsError (String × UniversalSwapType) := do
  let route ← getRoute handler.common.cosmosTokens handler.swapData.originalFromToken
    handler.swapData.originalToToken addresses.destReceiver
  let options ← readDefined handler.swapOptions
  let swapRoute ← (if route.isSmartRouter ∧ options.isIbcWasm = true ∧ options.isAlphaIbcWasm = false
    then handler.ibcWasmRoute addresses minimumReceive else .ok "")
  let swapRoute ← (if handler.usesAlphaRoute options then
      handler.alphaRoute addresses (handler.swapData.alphaSmartRoutes.getD [])
    else .ok swapRoute)
  return (swapRoute, route.universalSwapType)

def addOraiBridgeRoute (addresses : RouteAddresses) (minimumReceive : String) :
    Except JsError (String × UniversalSwapType) := do
  let route := handler.chooseRoute addresses minimumReceive
  let swapRoute ← UniversalSwap.addOraiBridgeRoute handler.env addresses.sourceReceiver
    handler.swapData.originalFromToken.contractAddress (handler.option (·.isSourceReceiverTest))
    (Prod.fst <$> route)
  let (_, universalSwapType) ← route
  return (swapRoute, universalSwapType)

def simulateRelayerFee (subRelayerFee : String) : Except JsError String := do
  let originalFromInfo ← handler.getTokenOnOraichain (some "oraichain-token") false
  let originalToInfo ← handler.getTokenOnOraichain handler.swapData.originalToToken.coinGeckoId false
  let originalAmount ← toDisplay (.string subRelayerFee) 6 6
  let simulated ← handleSimulateSwap handler.routers
    { flattenTokens := handler.common.flattenTokens.map (·.toTokenItemType)
      oraichainTokens := handler.oraichainItems
      originalFromInfo := originalFromInfo.toTokenItemType
      originalToInfo := some originalToInfo.toTokenItemType
      originalAmount := .finite originalAmount
      routerOption := some ⟨some true, none⟩
      routerConfig := some
        { path := some "/smart-router/alpha-router"
          protocols := some ["Oraidex", "OraidexV3"]
          dontAllowSwapAfter := some ["Oraidex", "OraidexV3"]
          maxSplits := none
          ignoreFee := none } }
  return (truthy (some simulated.amount)).getD subRelayerFee

def minimumAfterFees (subRelayerFee : String) : Except JsError String :=
  minimumReceiveText handler.swapData.simulateAmount handler.swapData.bridgeFee
    handler.swapData.userSlippage subRelayerFee

def calculateMinimumReceive : Handles String := do
  let subRelayerFee :=
    (truthy (handler.swapData.relayerFee.map RelayerFeeData.relayerAmount)).getD "0"
  if handler.swapData.originalToToken.coinGeckoId = some "oraichain-token" then
    lift (handler.minimumAfterFees subRelayerFee)
  else
    handler.getCosmWasmClient handler.common.chainId handler.common.rpc (some handler.common.gasPrice)
    let subRelayerFee ← lift (handler.simulateRelayerFee subRelayerFee)
    lift (handler.minimumAfterFees subRelayerFee)

def minimumReceive : Handles String :=
  if handler.option (·.isIbcWasm) then handler.calculateMinimumReceive
  else return handler.swapData.simulateAmount

def oraichainClient : Handles Unit := do
  let gasPrice ← lift handler.getGasPriceFromToken
  handler.getCosmWasmClient handler.common.chainId handler.common.rpc (some gasPrice)

def fromChainClient : Handles Unit := do
  let gasPrice ← lift handler.getGasPriceFromToken
  handler.getCosmWasmClient handler.swapData.originalFromToken.chainId
    handler.swapData.originalFromToken.rpc (some gasPrice)

def checkRelayerFee : Handles Unit :=
  if handler.option (·.skipRelayerFeeCheck) then return
  else do
    let isSufficient ← lift handler.checkFeeRelayer
    if isSufficient then return
    else lift (generateError ("Your swap amount " ++ amountText handler.swapData.fromAmount ++
      " cannot cover the fees for this transaction. Please try again with a higher swap amount"))

def checkChannelBalance : Handles Unit :=
  if handler.option (·.skipBalanceIbcCheck) then return
  else do
    let originalToToken := handler.swapData.originalToToken
    let ibcInfo ← lift (handler.getIbcInfo "Oraichain" originalToToken.chainId)
    handler.checkBalanceChannelIbc ibcInfo handler.swapData.originalFromToken originalToToken
      handler.swapData.simulateAmount

def checkBridgeBalance : Handles Unit :=
  if handler.option (·.skipBalanceIbcCheck) then return
  else handler.checkBalanceIBCOraichain handler.swapData.originalToToken
    handler.swapData.originalFromToken

def swap : Handles String := do
  let messages ← lift handler.generateMsgsSwap
  handler.getCosmWasmClient "Oraichain" handler.common.rpc (some handler.common.gasPrice)
  ask (.executeMultiple handler.swapData.sender.cosmos messages)

def encodedObjects : UniversalSwapType → Handles (List SignedMessage)
  | .oraichainToCosmos => handler.combineSwapMsgOraichain
  | .oraichainToEvm => do
    handler.checkRelayerFee
    handler.combineMsgEvm handler.swapData.sender.evm handler.swapData.sender.tron
  | universalSwapType => lift (generateError ("Universal swap type " ++ universalSwapType.text ++
      " is wrong. Should not call this function!"))

def swapAndTransferToOtherNetworks (universalSwapType : UniversalSwapType) : Handles String :=
  if handler.hasCosmosWallet then do
    handler.oraichainClient
    let oraiAddress ← handler.getKeplrAddr "Oraichain"
    let sender := handler.swapData.sender.cosmos
    if oraiAddress ≠ sender then
      lift (generateError ("There is a mismatch between the sender " ++ sender ++
        " versus the Oraichain address " ++ oraiAddress ++ ". Should not swap!"))
    else
      let encodedObjects ← handler.encodedObjects universalSwapType
      handler.checkChannelBalance
      ask (.signAndBroadcast handler.common.chainId sender encodedObjects)
  else lift (generateError "Cannot transfer and swap if the cosmos wallet is not initialized")

def evmSwapData (toTokenContractAddr : Option String) (destination : String) : EvmSwapData where
  fromToken := handler.swapData.originalFromToken
  toTokenContractAddr := toTokenContractAddr
  fromAmount := handler.swapData.fromAmount
  metamaskAddress := handler.swapData.sender.evm
  tronAddress := handler.swapData.sender.tron
  slippage := handler.swapData.userSlippage
  destination := destination
  simulatePrice := handler.swapData.simulatePrice

-- The swap on the chain of the from token, where both tokens are found there, and its destination.
def evmSwapTarget (swapRoute : String) : Option (Option String × String) :=
  let fromToken := handler.swapData.originalFromToken
  let toToken := handler.swapData.originalToToken
  if isEvmSwappable fromToken.chainId toToken.chainId fromToken.contractAddress
      toToken.contractAddress then
    some (toToken.contractAddress, "")
  else
    let toTokenSameFromChainId := getTokenOnSpecificChainId toToken.coinGeckoId fromToken.chainId
      (handler.common.flattenTokens.map (·.toTokenItemType))
    let found := toTokenSameFromChainId.getD toToken.toTokenItemType
    let destination := if toTokenSameFromChainId.isSome ∧ found.chainId ≠ toToken.chainId then swapRoute
      else ""
    if isEvmSwappable fromToken.chainId found.chainId fromToken.contractAddress
        found.contractAddress ∧ isSupportedNoPoolSwapEvm fromToken.coinGeckoId then
      some (found.contractAddress, destination)
    else none

def bridgeFromEvm (swapRoute : String) : Handles (Option String) := do
  handler.checkBridgeBalance
  handler.checkRelayerFee
  handler.transferEvmToIBC swapRoute

def switchNetwork : Handles Unit := handler.withEvmWallet
  (if isTron handler.swapData.originalFromToken.chainId then return
  else ask (.switchNetwork handler.swapData.originalFromToken.chainId))

def transferAndSwap (swapRoute : String) : Handles (Option String) :=
  let sender := handler.swapData.sender
  if truthy sender.evm = none ∧ truthy sender.tron = none then
    lift (generateError "Cannot call evm swap if the evm address is empty")
  else if handler.hasCosmosWallet then do
    handler.getCosmWasmClient handler.common.chainId handler.common.rpc none
    handler.switchNetwork
    match handler.evmSwapTarget swapRoute with
    | some (toTokenContractAddr, destination) =>
      some <$> handler.evmSwap (handler.evmSwapData toTokenContractAddr destination)
    | none => handler.bridgeFromEvm swapRoute
  else lift (generateError "Cannot transfer and swap if cosmos wallet is not initialized")

-- Noble tokens go over ibc-wasm, not over ibc-hooks.
def nobleReceiver (oraiAddress : String) : Except JsError String :=
  match truthy handler.swapData.recipientAddress with
  | none => .ok oraiAddress
  | some recipientAddress =>
    let isValidRecipient := checkValidateAddressWithNetwork handler.env recipientAddress "Oraichain"
    if isValidRecipient.isValid ∧ isValidRecipient.network = some "Oraichain" then
      .ok recipientAddress
    else generateError "Recipient address invalid! Only support bridge to Oraichain"

def cosmosTransfer (ibcInfo : IBCChannel) (amount oraiAddress completeSwapRoute : String) :
    Except JsError MsgTransfer := do
  let fromToken := handler.swapData.originalFromToken
  let swapRoute := hookArgs completeSwapRoute
  let contract := handler.getCwIcs20ContractAddr
  let token ← handler.coin amount fromToken.denom
  let hook : HookJson MemoText :=
    .wasm contract (.ibcHooksReceive "universal_swap" oraiAddress (.text swapRoute))
  let msgTransfer : MsgTransfer :=
    { sourcePort := ibcInfo.source
      sourceChannel := ibcInfo.channel
      receiver := contract
      token := token
      sender := handler.swapData.sender.cosmos
      memo := .json hook
      timeoutTimestamp := calculateTimeoutTimestamp ibcInfo.timeout handler.env.dateNow }
  if fromToken.chainId = "noble-1" then
    let receiver ← handler.nobleReceiver oraiAddress
    return { msgTransfer with receiver := receiver, memo := .text swapRoute }
  else return msgTransfer

def swapCosmosToOtherNetwork (destinationReceiver : String) : Handles String := do
  let fromToken := handler.swapData.originalFromToken
  handler.fromChainClient
  let amount ← lift (toAmount handler.swapData.fromAmount fromToken.decimals)
  let ibcInfo ← lift (handler.getIbcInfo fromToken.chainId "Oraichain")
  let oraiAddress ← handler.getKeplrAddr "Oraichain"
  let minimumReceive ← handler.minimumReceive
  let (completeSwapRoute, _) ← lift (handler.addOraiBridgeRoute
    ⟨oraiAddress, none, some destinationReceiver, none, none, none, none⟩ minimumReceive)
  let msgTransfer ← lift (handler.cosmosTransfer ibcInfo (String.ofList (bigIntText amount))
    oraiAddress completeSwapRoute)
  ask (.signAndBroadcast fromToken.chainId handler.swapData.sender.cosmos [.msgTransfer msgTransfer])

def transferAndSwapTon (swapRoute : String) : Handles String :=
  match truthy handler.swapData.sender.ton with
  | none => lift (generateError "Cannot call ton swap if the ton address is empty")
  | some tonAddress =>
    if handler.hasCosmosWallet then do
      handler.getCosmWasmClient handler.common.chainId handler.common.rpc none
      handler.checkBridgeBalance
      handler.checkRelayerFee
      let tonCenterUrl ← ask .getHttpEndpoint
      let receiver ← ask (.createTonBridgeHandler handler.swapData.originalToToken.rpc tonCenterUrl)
      ask (.sendToCosmos receiver handler.swapData.fromAmount handler.swapData.originalFromToken.denom
        (tonMemo swapRoute))
      return tonAddress
    else lift (generateError "Cannot transfer and swap if cosmos wallet is not initialized")

def swapsFromCosmos : UniversalSwapType → Bool
  | .otherNetworksToOraichain | .tonToOthers => false
  | _ => true

def smartRoutes (universalSwapType : UniversalSwapType) : Except JsError (List Route) :=
  match handler.swapData.alphaSmartRoutes with
  | none => .error .typeError
  | some [] => generateError
      ("Missing router universalSwapTypeFromCosmos: " ++ universalSwapType.text ++ "!")
  | some routes => .ok routes

def checkSmartBalance (universalSwapType : UniversalSwapType) : Handles Unit :=
  if handler.option (·.skipBalanceIbcCheck) = false ∧
      universalSwapType ∈ [.oraichainToEvm, .oraichainToCosmos] then do
    handler.fromChainClient
    handler.checkChannelBalance
  else return

def signSmartRoutes (universalSwapType : UniversalSwapType) (receiverAddresses : Addresses) :
    Handles String := do
  let routes ← lift (handler.smartRoutes universalSwapType)
  handler.checkSmartBalance universalSwapType
  let msgs ← lift (routes.mapM fun route => generateMsgSwap handler.env receiverAddresses
    handler.swapData.slippage route handler.swapData.recipientAddress)
  handler.fromChainClient
  ask (.signAndBroadcast handler.swapData.originalFromToken.chainId handler.swapData.sender.cosmos
    (msgs.map .smartRoute))

def alphaSmartRouterSwapNewMsg (swapRoute : String) (universalSwapType : UniversalSwapType)
    (receiverAddresses : Addresses) : Handles (Option String) :=
  if swapsFromCosmos universalSwapType then
    some <$> handler.signSmartRoutes universalSwapType receiverAddresses
  else if universalSwapType = .tonToOthers then some <$> handler.transferAndSwapTon swapRoute
  else handler.transferAndSwap swapRoute

def namesChain (routesFlatten : List SmartRouter.Entry) (chainId : String) : Bool :=
  routesFlatten.zipIdx.any fun route =>
    route.1.chainId = some chainId || handler.swapData.tokenOutChainIds route.2 = some chainId

-- The address on Injective and the one on Tron, where an entry of the routes names these chains.
def routeKeys : Handles (Option String × Option String) := do
  let routes := handler.swapData.alphaSmartRoutes.getD []
  if handler.option (·.isAlphaIbcWasm) = true ∧ routes ≠ [] then
    let routesFlatten ← lift (SmartRouter.flattenSmartRouters routes)
    let injAddress ← (if handler.namesChain routesFlatten "injective-1" then
        some <$> handler.getKeplrAddr "injective-1"
      else return none)
    let tronAddress ← (if handler.namesChain routesFlatten "0x2b6653dc" then
        some <$> lift (handler.tronToEthAddress handler.swapData.sender.tron)
      else return none)
    return (injAddress, tronAddress)
  else return (none, none)

def evmInfo (tronAddress : Option String) : Addresses := fun key =>
  if key = "ton" then handler.swapData.sender.ton
  else if key = "0x01" ∨ key = "0x38" then handler.swapData.sender.evm
  else if key = "0x2b6653dc" then tronAddress
  else none

def dispatch (prepared : PreparedSwap) : Handles (Option String) :=
  match prepared.universalSwapType with
  | .oraichainToOraichain => some <$> handler.swap
  | .oraichainToCosmos => some <$> handler.swapAndTransferToOtherNetworks .oraichainToCosmos
  | .oraichainToEvm => some <$> handler.swapAndTransferToOtherNetworks .oraichainToEvm
  | .cosmosToOthers => some <$> handler.swapCosmosToOtherNetwork prepared.toAddress
  | _ => handler.transferAndSwap prepared.swapRoute

def submit (prepared : PreparedSwap) : Handles (Option String) :=
  if handler.option (·.isAlphaIbcWasm) then do
    let receiverAddresses ← lift (generateAddress handler.codec prepared.oraiAddress
      prepared.injAddress handler.common.cosmosChains (some (handler.evmInfo prepared.tronAddress)))
    handler.alphaSmartRouterSwapNewMsg prepared.swapRoute prepared.universalSwapType receiverAddresses
  else handler.dispatch prepared

def validOraiAddress (oraiAddress : String) : Except JsError Unit :=
  if oraiAddress = "" then generateError "orai address and obridge address invalid!"
  else if (checkValidateAddressWithNetwork handler.env oraiAddress "Oraichain").isValid then .ok ()
  else generateError "orai get address invalid!"

def prepareSwap : Handles PreparedSwap := do
  let sender := handler.swapData.sender
  let toAddress ← handler.getToAddressUniversalSwap
  let oraiAddress ← handler.getKeplrAddr "Oraichain"
  lift (handler.validOraiAddress oraiAddress)
  let minimumReceive ← handler.minimumReceive
  let (injAddress, tronAddress) ← handler.routeKeys
  let (swapRoute, universalSwapType) ← lift (handler.addOraiBridgeRoute
    { sourceReceiver := oraiAddress
      injAddress := injAddress
      destReceiver := some toAddress
      recipientAddress := handler.swapData.recipientAddress
      evmAddress := sender.evm
      tronAddress := tronAddress
      tonAddress := sender.ton } minimumReceive)
  return ⟨toAddress, oraiAddress, swapRoute, universalSwapType, injAddress, tronAddress⟩

def processUniversalSwap : Handles (Option String) := do
  let prepared ← handler.prepareSwap
  handler.submit prepared

end Handler

end OraidexSdk.UniversalSwap
