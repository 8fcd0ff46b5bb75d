import OraidexSdk.Message.Chains.Chain

namespace OraidexSdk.Message
open Js ChainMsg

structure OsmosisMsg extends ChainMsg where
  on_osmosis : path.chainId = "osmosis-1"

namespace OsmosisMsg

def SWAP_VENUE_NAME : String := "osmosis-poolmanager"

def ENTRY_POINT_CONTRACT : String :=
  "osmo1h3jkejkcpthl45xrrm5geed3eq75p5rgfce9taufkwfr89k63muqweu2y7"

def new (path : Path) (minimumReceive : String) (receiver currentChainAddress : Option String)
    (memo : MemoText) : Except JsError OsmosisMsg := do
  let chain ← ChainMsg.new path minimumReceive receiver currentChainAddress memo
  if h : chain.path.chainId = "osmosis-1" then return ⟨chain, h⟩
  else generateError "This path must be on Osmosis"

variable (env : Environment) (this : OsmosisMsg)

def visitAction (state : List SwapOperation × Option BridgeMsgInfo) (action : Action) :
    Except JsError (List SwapOperation × Option BridgeMsgInfo) :=
  match action.type with
  | .swap => do return (state.1 ++ (← swapAction action), state.2)
  | .bridge =>
    match action.bridgeInfo with
    | none => .error .typeError
    | some bridgeInfo =>
      if bridgeInfo.port ≠ "transfer" then
        generateError ("Only support IBC bridge on " ++ this.path.chainId)
      else .ok (state.1, some (bridgeMsgInfo env this.toChainMsg action bridgeInfo))
  | _ => generateError "Only support swap + bridge on Osmosis"

def getSwapAndBridgeInfo : Except JsError (List SwapOperation × Option BridgeMsgInfo) :=
  this.path.actions.foldlM (visitAction env this) ([], none)

def setMinimumReceiveForSwap (slippage : Slippage) : Except JsError OsmosisMsg := do
  let minimumReceive ← minimumReceiveFor slippage do
    let (_, bridgeInfo) ← getSwapAndBridgeInfo env this
    return (bridgeInfo.map (·.amount)).getD this.path.tokenOutAmount
  return { this with minimumReceive := minimumReceive }

def getPostAction (bridgeInfo : Option BridgeMsgInfo) : Except JsError (PostAction MemoText) :=
  match bridgeInfo with
  | none => .ok (.transfer this.receiver)
  | some bridgeInfo =>
    if bridgeInfo.sourcePort = "transfer" then
      .ok (.ibcTransfer
        { sourceChannel := bridgeInfo.sourceChannel
          receiver := bridgeInfo.receiver
          memo := bridgeInfo.memo
          recoverAddress := this.currentChainAddress })
    else generateError ("Missing postAction for universalSwap on " ++ this.path.chainId)

def genMemoAsMiddleware : Except JsError MiddlewareResponse := do
  let (swapOps, bridgeInfo) ← getSwapAndBridgeInfo env this
  match swapOps.getLast?, bridgeInfo with
  | none, none => .error .typeError
  | none, some bridgeInfo =>
    if bridgeInfo.sourcePort ≠ "transfer" then
      generateError "Error on generate memo as middleware: Only support ibc bridge"
    else return forwardMemo env this.toChainMsg bridgeInfo
  | some operation, bridgeInfo => do
    let postAction ← getPostAction this bridgeInfo
    let msg := swapAndActionMsg env this.toChainMsg SWAP_VENUE_NAME swapOps operation.denomOut
      postAction
    return ⟨.json (.wasm ENTRY_POINT_CONTRACT (.swapAndAction msg)), ENTRY_POINT_CONTRACT⟩

def genExecuteMsg : Except JsError EncodeObject := do
  let (swapOps, bridgeInfo) ← getSwapAndBridgeInfo env this
  match swapOps.getLast?, bridgeInfo with
  | none, none => .error .typeError
  | none, some bridgeInfo =>
    if bridgeInfo.sourcePort = "transfer" then
      return transferObject env this.toChainMsg bridgeInfo
    else generateError "Error on generate executeMsg on Osmosis: Only support ibc transfer"
  | some operation, bridgeInfo => do
    let postAction ← getPostAction this bridgeInfo
    let msg := swapAndActionMsg env this.toChainMsg SWAP_VENUE_NAME swapOps operation.denomOut
      postAction
    return executeObject env this.toChainMsg this.path.tokenIn ENTRY_POINT_CONTRACT
      (.swapAndAction msg)

end OsmosisMsg

end OraidexSdk.Message
