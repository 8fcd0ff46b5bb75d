import OraidexSdk.Message.Chains.Chain

namespace OraidexSdk.Message
open Js ChainMsg

structure CosmosMsg extends ChainMsg

namespace CosmosMsg

def new (path : Path) (minimumReceive : String) (receiver currentChainAddress : Option String)
    (memo : MemoText) : Except JsError CosmosMsg := do
  return ⟨← ChainMsg.new path minimumReceive receiver currentChainAddress memo⟩

variable (env : Environment) (this : CosmosMsg)

-- The loop over the actions breaks or throws at the first of them.
def findBridgeInfo : Except JsError BridgeMsgInfo :=
  match this.path.actions with
  | [] => generateError "Bridge action not found in path actions"
  | action :: _ =>
    if action.type = .bridge then
      match action.bridgeInfo with
      | some bridgeInfo => .ok (bridgeMsgInfo env this.toChainMsg action bridgeInfo)
      | none => .error .typeError
    else generateError ("Only support bridge on " ++ this.path.chainId)

def getBridgeInfo : Except JsError BridgeMsgInfo := do
  let bridgeInfo ← findBridgeInfo env this
  if bridgeInfo.sourcePort ≠ "transfer" then
    generateError ("Only support IBC bridge on " ++ this.path.chainId)
  else return bridgeInfo

def setMinimumReceiveForSwap (slippage : Slippage) : Except JsError CosmosMsg := do
  let minimumReceive ← minimumReceiveFor slippage ((·.amount) <$> getBridgeInfo env this)
  return { this with minimumReceive := minimumReceive }

def genMemoAsMiddleware : Except JsError MiddlewareResponse := do
  return forwardMemo env this.toChainMsg (← getBridgeInfo env this)

def genExecuteMsg : Except JsError EncodeObject := do
  let bridgeInfo ← getBridgeInfo env this
  if bridgeInfo.sourcePort ≠ "transfer" then
    generateError "Error on generate executeMsg on Oraichain: Only support ibc transfer"
  else return transferObject env this.toChainMsg bridgeInfo

end CosmosMsg

end OraidexSdk.Message
