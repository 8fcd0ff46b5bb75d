import OraidexSdk.Message.Chains.Chain

namespace OraidexSdk.Message
open Js ChainMsg

structure OraichainMsg extends ChainMsg where
  destPrefix : String
  obridgeAddress : Option String
  on_oraichain : path.chainId = "Oraichain"

namespace OraichainMsg

def SWAP_VENUE_NAME : String := "oraidex"

def ENTRY_POINT_CONTRACT : String :=
  "orai1yglsm0u2x3xmct9kq3lxa654cshaxj9j5d9rw5enemkkkdjgzj7sr3gwt0"

def TON_BRIDGE_ADAPTER : String :=
  "orai159l8l9c5ckhqpuwdfgs9p4v599nqt3cjlfahalmtrhfuncnec2ms5mz60e"

def new (path : Path) (minimumReceive : String) (receiver currentChainAddress : Option String)
    (memo : MemoText) (destPrefix : String) (obridgeAddress : Option String) :
    Except JsError OraichainMsg := do
  let chain ← ChainMsg.new path minimumReceive receiver currentChainAddress memo
  if h : chain.path.chainId = "Oraichain" then return ⟨chain, destPrefix, obridgeAddress, h⟩
  else generateError "This path must be on Oraichain"

variable (env : Environment) (this : OraichainMsg)

def parseConverterMsgToPoolId (tokenIn tokenOut : String) : Pool :=
  if env.isCw20Token tokenIn then .converter CONVERTER_CONTRACT (.convertReverse tokenOut)
  else .converter CONVERTER_CONTRACT .convert

def visitAction (state : List SwapOperation × Option BridgeMsgInfo) (action : Action) :
    Except JsError (List SwapOperation × Option BridgeMsgInfo) :=
  match action.type with
  | .swap => do return (state.1 ++ (← swapAction action), state.2)
  | .convert =>
    let pool := parseConverterMsgToPoolId env action.tokenIn action.tokenOut
    .ok (state.1 ++ [⟨action.tokenIn, action.tokenOut, pool⟩], state.2)
  | .bridge =>
    match action.bridgeInfo with
    | none => .error .typeError
    | some bridgeInfo => .ok (state.1, some (bridgeMsgInfo env this.toChainMsg action bridgeInfo))
  | .other _ => generateError "Only support swap + convert + bridge on Oraichain"

def getSwapAndBridgeInfo : Except JsError (List SwapOperation × Option BridgeMsgInfo) :=
  this.path.actions.foldlM (visitAction env this) ([], none)

def setMinimumReceiveForSwap (slippage : Slippage) : Except JsError OraichainMsg := do
  let minimumReceive ← minimumReceiveFor slippage do
    let (_, bridgeInfo) ← getSwapAndBridgeInfo env this
    return (bridgeInfo.map (·.amount)).getD this.path.tokenOutAmount
  return { this with minimumReceive := minimumReceive }

def tonMsg (bridgeInfo : BridgeMsgInfo) (denom : String) : TonMsg :=
  let payload : TonPayload :=
    { toAddress := bridgeInfo.receiver
      denom := denom
      timeout := env.dateNow / 1000 + IBC_TRANSFER_TIMEOUT
      recoveryAddr := this.currentChainAddress }
  if env.isCw20Token bridgeInfo.fromToken then .bare payload else .bridgeToTon payload

-- The four values that the ibc wasm branches of getProtoForPostAction,
-- getPostAction and genBridgeMsg compute from the receiver.
def ibcWasmInfo (bridgeInfo : BridgeMsgInfo) : Except JsError (IbcWasmInfo MemoText) :=
  if env.isEthAddress this.receiver then
    if this.destPrefix = "" ∨ this.obridgeAddress.getD "" = "" then
      generateError "Missing prefix or Obridge address for bridge to EVM"
    else .ok
      { localChannelId := bridgeInfo.sourceChannel
        remoteAddress := this.obridgeAddress.getD ""
        remoteDenom := this.destPrefix ++ bridgeInfo.toToken
        memo := .text (this.destPrefix ++ this.receiver) }
  else .ok
    { localChannelId := bridgeInfo.sourceChannel
      remoteAddress := this.receiver
      remoteDenom := "" ++ bridgeInfo.toToken
      memo := this.memo }

def getProtoForPostAction (bridgeInfo : Option BridgeMsgInfo) :
    Except JsError (MemoPostAction MemoText) :=
  match bridgeInfo with
  | none => .ok (.transferMsg this.receiver)
  | some bridgeInfo =>
    if isTonChain bridgeInfo.toChain then
      match truthy (JETTONS_ADDRESS.lookup bridgeInfo.toToken) with
      | none => .error (.thrown
          ("getProtoForPostAction: jetton address of " ++ bridgeInfo.toToken ++ " not found!"))
      | some jettonToToken =>
        .ok (.contractCall TON_BRIDGE_ADAPTER (tonMsg env this bridgeInfo jettonToToken))
    else if bridgeInfo.sourcePort = "transfer" then
      .ok (.ibcTransferMsg
        { sourceChannel := bridgeInfo.sourceChannel
          sourcePort := bridgeInfo.sourcePort
          receiver := bridgeInfo.receiver
          memo := bridgeInfo.memo
          recoverAddress := this.currentChainAddress })
    else if startsWith bridgeInfo.sourcePort "wasm" then
      MemoPostAction.ibcWasmTransferMsg <$> ibcWasmInfo env this bridgeInfo
    else generateError "Missing postAction for ibc wasm memo"

def protoMemo (userSwap : Option UserSwap) (postSwapAction : MemoPostAction MemoText) :
    Memo MemoText where
  userSwap := userSwap
  minimumReceive := this.minimumReceive
  timeoutTimestamp := timeoutTimestamp env
  postSwapAction := postSwapAction
  recoveryAddr := this.currentChainAddress

def genMemoForIbcWasm : Except JsError MiddlewareResponse := do
  let (swapOps, bridgeInfo) ← getSwapAndBridgeInfo env this
  let userSwap := if swapOps.length = 0 then none else some ⟨SWAP_VENUE_NAME, swapOps⟩
  let postSwapAction ← getProtoForPostAction env this bridgeInfo
  return ⟨.proto (protoMemo env this userSwap postSwapAction), this.currentChainAddress⟩

def getPostAction (bridgeInfo : Option BridgeMsgInfo) : Except JsError (PostAction MemoText) :=
  match bridgeInfo with
  | none => .ok (.transfer this.receiver)
  | some bridgeInfo =>
    if isTonChain bridgeInfo.toChain then
      match truthy (JETTONS_ADDRESS.lookup bridgeInfo.toToken) with
      | none => .error (.thrown
          ("getPostAction: jetton address of " ++ bridgeInfo.toToken ++ " not found!"))
      | some jettonToToken =>
        .ok (.contractCall TON_BRIDGE_ADAPTER (tonMsg env this bridgeInfo jettonToToken))
    else if bridgeInfo.sourcePort = "transfer" then
      .ok (.ibcTransfer
        { sourceChannel := bridgeInfo.sourceChannel
          receiver := bridgeInfo.receiver
          memo := bridgeInfo.memo
          recoverAddress := this.currentChainAddress })
    else if startsWith bridgeInfo.sourcePort "wasm" then
      PostAction.ibcWasmTransfer <$> ibcWasmInfo env this bridgeInfo
    else generateError "Missing postAction for postAction in Oraichain"

def bridgeMemo (bridgeInfo : BridgeMsgInfo) : Except JsError MiddlewareResponse :=
  if isTonChain bridgeInfo.toChain then do
    let postSwapAction ← getProtoForPostAction env this (some bridgeInfo)
    let args := .proto (protoMemo env this none postSwapAction)
    return ⟨.json (.wasm IBC_WASM_CONTRACT
      (.ibcHooksReceive "universal_swap" this.currentChainAddress args)), IBC_WASM_CONTRACT⟩
  else if bridgeInfo.sourcePort = "transfer" then
    .ok (forwardMemo env this.toChainMsg bridgeInfo)
  else generateError "Error on generate memo as middleware: Only support ibc bridge & ton bridge"

def genMemoAsMiddleware : Except JsError MiddlewareResponse := do
  let (swapOps, bridgeInfo) ← getSwapAndBridgeInfo env this
  match swapOps.getLast?, bridgeInfo with
  | none, none => .error .typeError
  | none, some bridgeInfo => bridgeMemo env this bridgeInfo
  | some operation, bridgeInfo => do
    let postAction ← getPostAction env this bridgeInfo
    let msg := swapAndActionMsg env this.toChainMsg SWAP_VENUE_NAME swapOps operation.denomOut
      postAction
    return ⟨.json (.wasm ENTRY_POINT_CONTRACT (.swapAndAction msg)), ENTRY_POINT_CONTRACT⟩

def genBridgeMsg (bridgeInfo : BridgeMsgInfo) : Except JsError EncodeObject :=
  if bridgeInfo.sourcePort = "transfer" ∧ env.isCosmosChain bridgeInfo.toChain then
    .ok (transferObject env this.toChainMsg bridgeInfo)
  else if startsWith bridgeInfo.sourcePort "wasm" then do
    let info ← ibcWasmInfo env this bridgeInfo
    match truthy (splitAt bridgeInfo.sourcePort '.' 1) with
    | none =>
      generateError "IBC Wasm source port is invalid. Cannot transfer to the destination chain"
    | some contractAddr =>
      let msg : TransferBackMsg := ⟨info, timeoutTimestamp env⟩
      return executeObject env this.toChainMsg bridgeInfo.fromToken contractAddr
        (if env.isCw20Token bridgeInfo.fromToken then .transferBack msg else .transferToRemote msg)
  else if isTonChain bridgeInfo.toChain then
    match truthy (JETTONS_ADDRESS.lookup bridgeInfo.toToken) with
    | none => .error (.thrown ("jetton address of " ++ bridgeInfo.toToken ++ " not found!"))
    -- Unlike the post actions, the payload names toToken and not its jetton.
    | some _ => .ok (executeObject env this.toChainMsg bridgeInfo.fromToken TON_BRIDGE_ADAPTER
        (.ton (tonMsg env this bridgeInfo bridgeInfo.toToken)))
  else generateError
    "Error on generate executeMsg on Oraichain: Only support ibc, ibc wasm bridge, ton bridge"

def genExecuteMsg : Except JsError EncodeObject := do
  let (swapOps, bridgeInfo) ← getSwapAndBridgeInfo env this
  match swapOps.getLast?, bridgeInfo with
  | none, none => .error .typeError
  | none, some bridgeInfo => genBridgeMsg env this bridgeInfo
  | some operation, bridgeInfo => do
    let postAction ← getPostAction env this bridgeInfo
    let msg := swapAndActionMsg env this.toChainMsg SWAP_VENUE_NAME swapOps operation.denomOut
      postAction
    return executeObject env this.toChainMsg this.path.tokenIn ENTRY_POINT_CONTRACT
      (.swapAndAction msg)

end OraichainMsg

end OraidexSdk.Message
