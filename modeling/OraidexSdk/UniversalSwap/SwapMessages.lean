import OraidexSdk.UniversalSwap.BalanceChecks

namespace OraidexSdk.UniversalSwap
open Js Outcome Message Interaction Program

def oraichain2oraib : String := "channel-29"

-- calculateTimeoutTimestamp(timeout, dateNow), in nanoseconds
def calculateTimeoutTimestamp (timeout dateNow : Nat) : Nat := (dateNow / 1000 + timeout) * 1000000000

def findToTokenOnOraiBridge (fromCoingeckoId : Option String) (toNetwork : String)
    (cosmosTokens : List SwapToken) : Option SwapToken :=
  cosmosTokens.find? fun t => t.chainId = "oraibridge-subnet-2" && t.coinGeckoId = fromCoingeckoId &&
    truthy t.bridgeNetworkIdentifier = some toNetwork

def getEncodedExecuteContractMsgs (senderAddress : String) (msgs : List HandlerInstruction) :
    List SignedMessage :=
  msgs.map fun msg => .executeContract senderAddress { msg with funds := some (msg.funds.getD []) }

def convertInstructions (msgs : List ExecuteInstruction) : List HandlerInstruction :=
  msgs.map fun msg => ⟨msg.contractAddress, .convert msg.msg, msg.funds⟩

section ConvertReverse

variable (tokenMap : TokenMap) (network : NetworkConfig) (sender : String) (sendCoin : Coin)
  (amounts : Option AmountDetails) (tokenInfo : MappedTokenItem)

def convertReverse (denom balance : String) : Except JsError ExecuteInstruction := do
  let evmToken ← readDefined (tokenMap denom)
  let outputToken : TokenItemType :=
    { tokenInfo.toTokenItemType with
      denom := evmToken.denom, contractAddress := none, decimals := evmToken.decimals }
  generateConvertMsgs
    (.convertTokenReverse (some sender) (some tokenInfo.toTokenItemType) balance (some outputToken))
    network

def convertDenoms : List String → Except JsError (List ExecuteInstruction)
  | [] => .ok []
  | denom :: denoms =>
    if denom ≠ sendCoin.denom then convertDenoms denoms
    else do
      let amounts ← readDefined amounts
      if (numberOf (amounts sendCoin.denom)).ge (number sendCoin.amount.toList) then return []
      else
        match truthy (amounts tokenInfo.denom) with
        | some balance => return [← convertReverse tokenMap network sender tokenInfo denom balance]
        | none => convertDenoms denoms

def generateConvertCw20Erc20Message : Except JsError (List ExecuteInstruction) :=
  match tokenInfo.evmDenoms with
  | none => .ok []
  | some evmDenoms => convertDenoms tokenMap network sender sendCoin amounts tokenInfo evmDenoms

end ConvertReverse

namespace Handler

variable (handler : Handler)

def tokenMap : TokenMap := fun denom => (handler.common.tokenMap denom).map (·.toTokenItemType)

def network : NetworkConfig := ⟨handler.common.converter⟩

-- The swap through the router, or through the cw20 contract of the from token.
def routerInstruction (fromTokenOnOrai : SwapToken) (amount : Option String)
    (swap : ExecuteSwapOperations) (nativeFunds cw20Funds : Option (List Coin)) :
    HandlerInstruction :=
  match truthy fromTokenOnOrai.contractAddress with
  | none => ⟨handler.common.mixerRouter, .executeSwapOperations swap, nativeFunds⟩
  | some contractAddress =>
    ⟨contractAddress, .sendSwap handler.common.mixerRouter amount swap, cw20Funds⟩

def buildSwapMsgsFromSmartRoute (routes : List OraiswapV3.SmartRouterMsg)
    (fromTokenOnOrai : SwapToken) (toAddress : Option String) :
    Except JsError (List HandlerInstruction) :=
  routes.mapM fun route => do
    let minimumReceive ← smartMinimumReceive route.returnAmount handler.swapData.userSlippage
    let swapOps : ExecuteSwapOperations :=
      ⟨.smart route.swapOps, minimumReceive, toAddress, handler.swapData.affiliates⟩
    let fund := route.swapAmount.bind (tokenFund fromTokenOnOrai.toTokenItemType)
    return handler.routerInstruction fromTokenOnOrai route.swapAmount swapOps (handleSentFunds fund)
      (some [])

def smartSwapInstructions (fromTokenOnOrai : SwapToken) (toAddress : Option String) :
    Except JsError (List HandlerInstruction) :=
  match handler.swapData.alphaSmartRoutes.getD [] with
  | [] => .error (.thrown "Route not found")
  | routes =>
    if routes.any fun route => route.paths.any (·.chainId ≠ "Oraichain") then
      .error (.thrown "Only support routes in Oraichain!")
    else do
      let routesFlatten ← SmartRouter.flattenSmartRouters routes
      let generatedRoutes ← OraiswapV3.generateMsgsSmartRouterV2withV3 handler.toLowerCase
        (handler.common.cosmosTokens.map (·.toTokenItem)) routesFlatten
        (some (OraiswapV3.parseTokenInfo fromTokenOnOrai.toTokenItem))
      handler.buildSwapMsgsFromSmartRoute generatedRoutes fromTokenOnOrai toAddress

def swapInstruction (fromTokenOnOrai toTokenInOrai : SwapToken) (fromAmount : String)
    (toAddress : Option String) : Except JsError HandlerInstruction := do
  let minimumReceive ← calculateMinReceive handler.swapData.simulatePrice fromAmount
    handler.swapData.userSlippage fromTokenOnOrai.decimals
  let operations := generateSwapOperationMsgs
    (OraiswapV3.parseTokenInfo fromTokenOnOrai.toTokenItem)
    (OraiswapV3.parseTokenInfo toTokenInOrai.toTokenItem)
  let swapOps : ExecuteSwapOperations :=
    ⟨.pairs operations, minimumReceive, toAddress, handler.swapData.affiliates⟩
  let funds := handleSentFunds (tokenFund fromTokenOnOrai.toTokenItemType fromAmount)
  return handler.routerInstruction fromTokenOnOrai (some fromAmount) swapOps funds funds

def validRecipient (chainId : String) : Except JsError (Option String) :=
  match truthy handler.swapData.recipientAddress with
  | none => .ok none
  | some recipientAddress =>
    if (checkValidateAddressWithNetwork handler.env recipientAddress chainId).isValid then
      .ok (some recipientAddress)
    else generateError "Recipient address invalid!"

def convertInstructionsFor (token : SwapToken) : Except JsError (List HandlerInstruction) :=
  convertInstructions <$> generateConvertErc20Cw20Message handler.tokenMap handler.network none
    handler.swapData.amounts token.toMappedTokenItem

def swapInstructions (fromTokenOnOrai toTokenInOrai : SwapToken) :
    Except JsError (List HandlerInstruction) := do
  let amount ← toAmount handler.swapData.fromAmount fromTokenOnOrai.decimals
  let fromAmount := String.ofList (bigIntText amount)
  let msgConvertsFrom ← handler.convertInstructionsFor fromTokenOnOrai
  let msgConvertTo ← handler.convertInstructionsFor toTokenInOrai
  if truthy handler.swapData.simulatePrice = none ∨ handler.swapData.userSlippage.isNone then
    generateError ("Could not calculate the minimum receive value because there is no simulate " ++
      "price or user slippage")
  else
    let toAddress ← (if handler.swapData.originalToToken.chainId = "Oraichain" then
      handler.validRecipient "Oraichain" else .ok none)
    let msgs ← (if handler.option (·.isIbcWasm) then
        handler.smartSwapInstructions fromTokenOnOrai toAddress
      else List.singleton <$>
        handler.swapInstruction fromTokenOnOrai toTokenInOrai fromAmount toAddress)
    return msgConvertsFrom ++ msgConvertTo ++ msgs

def generateMsgsSwap : Except JsError (List HandlerInstruction) := do
  let fromTokenOnOrai ←
    handler.getTokenOnOraichain handler.swapData.originalFromToken.coinGeckoId false
  let toTokenInOrai ← handler.getTokenOnOraichain handler.swapData.originalToToken.coinGeckoId false
  match handler.swapInstructions fromTokenOnOrai toTokenInOrai with
  | .ok msgs => return msgs
  | .error error => generateError ("Error generateMsgsSwap: " ++ handler.stringifyMessage error)

-- Nothing where the catch of the source ends without a value.
def generateMsgsIbcWasm (ibcInfo : IBCChannel) (ibcReceiveAddr remoteDenom ibcMemo : String) :
    Except JsError (Option (List HandlerInstruction)) := do
  let toTokenInOrai ← handler.getTokenOnOraichain handler.swapData.originalToToken.coinGeckoId false
  match truthy (splitAt ibcInfo.source '.' 1) with
  | none => return none
  | some ibcWasmContractAddress =>
    let msg : TransferBack :=
      { localChannelId := ibcInfo.channel
        remoteAddress := ibcReceiveAddr
        remoteDenom := remoteDenom
        timeout := calculateTimeoutTimestamp ibcInfo.timeout handler.currentTimestamp
        memo := ibcMemo }
    match OraiswapV3.parseTokenInfo toTokenInOrai.toTokenItem with
    | .nativeToken denom => return some [⟨ibcWasmContractAddress, .transferToRemote msg,
        some [⟨denom, handler.swapData.simulateAmount⟩]⟩]
    | .token contractAddress => return some [⟨contractAddress,
        .sendTransfer ibcWasmContractAddress handler.swapData.simulateAmount msg, some []⟩]

def ibcWasmMessages (ibcInfo : IBCChannel) (ibcReceiveAddr remoteDenom ibcMemo : String) :
    Except JsError (List SignedMessage) := do
  let msgs ← readDefined (← handler.generateMsgsIbcWasm ibcInfo ibcReceiveAddr remoteDenom ibcMemo)
  return getEncodedExecuteContractMsgs handler.swapData.sender.cosmos msgs

def swapMessages : Except JsError (List SignedMessage) :=
  getEncodedExecuteContractMsgs handler.swapData.sender.cosmos <$> handler.generateMsgsSwap

-- The amount of the from token, in the token that its denom stands for on the EVM side.
def evmAmount (toTokenInOrai : SwapToken) : Except JsError Coin := do
  let evmToken ← readDefined (handler.common.tokenMap toTokenInOrai.denom)
  let amount ← toAmount handler.swapData.fromAmount evmToken.decimals
  handler.coin (String.ofList (bigIntText amount)) evmToken.denom

def convertBackMessages (evmAmount : Coin) : Except JsError (List SignedMessage) := do
  let tokenInfo ← handler.getTokenOnOraichain handler.swapData.originalToToken.coinGeckoId false
  let msgConvertReverses ← generateConvertCw20Erc20Message handler.tokenMap handler.network
    handler.swapData.sender.cosmos evmAmount handler.swapData.amounts tokenInfo.toMappedTokenItem
  return getEncodedExecuteContractMsgs handler.swapData.sender.cosmos
    (convertInstructions msgConvertReverses)

def transferAmount : Except JsError String :=
  match handler.swapData.affiliates.getD [] with
  | [] => .ok handler.swapData.simulateAmount
  | affiliates => withoutAffiliates handler.swapData.simulateAmount affiliates

def isSpecialChain : Bool :=
  handler.swapData.originalToToken.chainId ∈ ["kawaii_6886-1", "injective-1"]

def isSpecialCoingecko : Bool := handler.swapData.originalToToken.coinGeckoId.any
  (· ∈ ["kawaii-islands", "milky-token", "injective-protocol"])

def transferMessages (ibcInfo : IBCChannel) (toTokenInOrai : SwapToken) (ibcReceiveAddr : String) :
    Except JsError (List SignedMessage) :=
  if includes ibcInfo.source "wasm" then
    handler.ibcWasmMessages ibcInfo ibcReceiveAddr handler.swapData.originalToToken.denom ""
  else do
    let tokenAmount ← handler.transferAmount
    let token ← handler.coin tokenAmount toTokenInOrai.denom
    return [.msgTransfer
      { sourcePort := ibcInfo.source
        sourceChannel := ibcInfo.channel
        receiver := ibcReceiveAddr
        token := token
        sender := handler.swapData.sender.cosmos
        memo := .empty
        timeoutTimestamp := calculateTimeoutTimestamp ibcInfo.timeout handler.env.dateNow }]

def messagesToCosmos (ibcInfo : IBCChannel) (ibcReceiveAddr : String) :
    Except JsError (List SignedMessage) := do
  let toCoinGeckoId := handler.swapData.originalToToken.coinGeckoId
  let toTokenInOrai ← handler.getTokenOnOraichain toCoinGeckoId false
  let isConverted := handler.isSpecialChain && handler.isSpecialCoingecko
  let toTokenInOrai ← (if isConverted then handler.getTokenOnOraichain toCoinGeckoId true
    else .ok toTokenInOrai)
  let msgTransfer ← handler.transferMessages ibcInfo toTokenInOrai ibcReceiveAddr
  let msgConvert ← (if isConverted then
      handler.evmAmount toTokenInOrai >>= handler.convertBackMessages
    else .ok [])
  let msgExecuteSwap ← (if handler.swapData.originalFromToken.coinGeckoId = toCoinGeckoId then .ok []
    else handler.swapMessages)
  return msgExecuteSwap ++ msgConvert ++ msgTransfer

def combineSwapMsgOraichain : Handles (List SignedMessage) :=
  let toChainId := handler.swapData.originalToToken.chainId
  if toChainId = "Oraichain" then lift handler.swapMessages
  else do
    let ibcInfo ← lift (handler.getIbcInfo "Oraichain" toChainId)
    let recipientAddress ← lift (handler.validRecipient toChainId)
    let ibcReceiveAddr ← (match recipientAddress with
      | some recipientAddress => pure recipientAddress
      | none => handler.getKeplrAddr toChainId)
    if ibcReceiveAddr = "" then lift (generateError "Please login cosmos wallet!")
    else lift (handler.messagesToCosmos ibcInfo ibcReceiveAddr)

def getTranferAddress (metamaskAddress tronAddress : Option String) (channel : String) :
    Except JsError (Option String) := do
  let transferAddress ←
    (if handler.swapData.originalToToken.denomPrefix = some ORAI_BRIDGE_EVM_TRON_DENOM_PREFIX then
      some <$> handler.tronToEthAddress tronAddress
    else .ok metamaskAddress)
  let toTokenInOrai ← handler.getTokenOnOraichain handler.swapData.originalToToken.coinGeckoId false
  if truthy transferAddress = none ∧ (toTokenInOrai.evmDenoms.isSome ∨ channel = oraichain2oraib) then
    generateError "Please login metamask / tronlink!"
  else return transferAddress

def getIbcMemo (metamaskAddress tronAddress : Option String) (channel : String)
    (newToToken : SwapToken) (recipientAddress : Option String) : Except JsError String := do
  let originalChainId := handler.swapData.originalToToken.chainId
  let transferAddress ← (match truthy recipientAddress with
    | some recipientAddress =>
      if (checkValidateAddressWithNetwork handler.env recipientAddress originalChainId).isValid then
        if originalChainId = "0x2b6653dc" then some <$> handler.tronToEthAddress (some recipientAddress)
        else .ok (some recipientAddress)
      else generateError "Recipient address invalid!"
    | none => handler.getTranferAddress metamaskAddress tronAddress channel)
  return if newToToken.chainId = "oraibridge-subnet-2" then
    newToToken.denomPrefix.getD "undefined" ++ transferAddress.getD "undefined" else ""

-- KWT & MILKY tokens go over the old channel.
def oldTransferMessages (newToToken : SwapToken) (toAddress ibcMemo : String) :
    Except JsError (List SignedMessage) := do
  let toTokenInOrai ← handler.getTokenOnOraichain handler.swapData.originalToToken.coinGeckoId true
  let evmAmount ← handler.evmAmount toTokenInOrai
  let msgConvert ← handler.convertBackMessages evmAmount
  let fromChainInfos ← readDefined (ibcInfosOld.lookup handler.swapData.originalFromToken.chainId)
  let ibcInfo ← readDefined (fromChainInfos.lookup newToToken.chainId)
  return msgConvert ++ [.msgTransfer
    { sourcePort := ibcInfo.source
      sourceChannel := ibcInfo.channel
      receiver := toAddress
      token := evmAmount
      sender := handler.swapData.sender.cosmos
      memo := .text ibcMemo
      timeoutTimestamp := calculateTimeoutTimestamp ibcInfo.timeout handler.currentTimestamp }]

def isKawaiiToken : Bool := handler.swapData.originalToToken.coinGeckoId.any
  (· ∈ ["kawaii-islands", "milky-token"])

def messagesToEvm (msgExecuteSwap : List SignedMessage) (newToToken : SwapToken) (toAddress : String)
    (metamaskAddress tronAddress : Option String) : Except JsError (List SignedMessage) := do
  let ibcInfo ← handler.getIbcInfo handler.swapData.originalFromToken.chainId newToToken.chainId
  let ibcMemo ← handler.getIbcMemo metamaskAddress tronAddress ibcInfo.channel newToToken
    handler.swapData.recipientAddress
  let msgTransfer ← (if handler.isKawaiiToken then
      handler.oldTransferMessages newToToken toAddress ibcMemo
    else handler.ibcWasmMessages ibcInfo toAddress newToToken.denom ibcMemo)
  return msgExecuteSwap ++ msgTransfer

def combineMsgEvm (metamaskAddress tronAddress : Option String) : Handles (List SignedMessage) := do
  let originalToToken := handler.swapData.originalToToken
  let msgExecuteSwap ← lift
    (if handler.swapData.originalFromToken.coinGeckoId = originalToToken.coinGeckoId then .ok []
    else handler.swapMessages)
  let newToToken ← lift (readDefined (findToTokenOnOraiBridge originalToToken.coinGeckoId
    originalToToken.chainId handler.common.cosmosTokens))
  let toAddress ← handler.getKeplrAddr newToToken.chainId
  if toAddress = "" then lift (generateError "Please login cosmos wallet!")
  else lift (handler.messagesToEvm msgExecuteSwap newToToken toAddress metamaskAddress tronAddress)

end Handler

def SignedMessage.bridged? : SignedMessage → Option Coin
  | .msgTransfer value => some value.token
  | .executeContract _ ⟨_, .transferToRemote _, some [fund]⟩ => some fund
  | .executeContract _ ⟨contract, .sendTransfer _ amount _, _⟩ => some ⟨contract, amount⟩
  | _ => none

def SignedMessage.sender? : SignedMessage → Option String
  | .msgTransfer value => some value.sender
  | .executeContract sender _ => some sender
  | .smartRoute _ => none

def SignedMessage.isConversion : SignedMessage → Bool
  | .executeContract _ ⟨_, .convert _, _⟩ => true
  | _ => false

def HandlerMsg.stays : HandlerMsg → Bool
  | .convert _ | .executeSwapOperations _ | .sendSwap .. => true
  | _ => false

namespace Handler

variable {handler : Handler}

structure Local (handler : Handler) (messages : List SignedMessage) : Prop where
  sender : ∀ message ∈ messages, message.sender? = some handler.swapData.sender.cosmos
  bridged : ∀ message ∈ messages, message.bridged? = none

theorem Local.append {first second : List SignedMessage} (hfirst : handler.Local first)
    (hsecond : handler.Local second) : handler.Local (first ++ second) :=
  ⟨List.forall_mem_append.mpr ⟨hfirst.sender, hsecond.sender⟩,
    List.forall_mem_append.mpr ⟨hfirst.bridged, hsecond.bridged⟩⟩

def swapWhenNeeded (handler : Handler) (swap : List SignedMessage) : Prop :=
  if handler.swapData.originalFromToken.coinGeckoId = handler.swapData.originalToToken.coinGeckoId
  then swap = [] else handler.swapMessages = .ok swap

-- The swap, conversions on Oraichain, and one last message that hands one coin over.
structure Bundle (handler : Handler) (swap converts : List SignedMessage) (last : SignedMessage)
    (coin : Coin) : Prop where
  swapped : handler.swapWhenNeeded swap
  converted : ∀ message ∈ converts, message.isConversion = true
  stays : handler.Local (swap ++ converts)
  sender : last.sender? = some handler.swapData.sender.cosmos
  bridged : last.bridged? = some coin

theorem Bundle.bridged_once {swap converts : List SignedMessage} {last : SignedMessage} {coin : Coin}
    (h : handler.Bundle swap converts last coin) :
    (swap ++ converts ++ [last]).filterMap SignedMessage.bridged? = [coin] := by
  rw [List.filterMap_append, List.filterMap_eq_nil_iff.mpr h.stays.bridged,
    List.filterMap_cons_some h.bridged]
  rfl

end Handler

end OraidexSdk.UniversalSwap
