import OraidexSdk.Message.Data
import OraidexSdk.Common.Address
import OraidexSdk.Common.Constants
import OraidexSdk.BigDecimal.Model

namespace OraidexSdk.Message
open Js

def generateError {α : Type} (message : String) : Except JsError α := .error (.ex message)

def validatePath (path : Path) (hasSwap : Bool) : Except JsError Unit :=
  let numBridgeActions := (path.actions.filter (·.type = .bridge)).length
  if path.actions.length = 0 then generateError "Require at least one action"
  else if numBridgeActions > 1 then generateError "Only one Bridge action is allowed in the path"
  else if numBridgeActions = 1 ∧ path.actions.getLast?.any (·.type ≠ .bridge) then
    generateError "Bridge action must be the last in the path"
  else if hasSwap = false ∧ path.actions.any (fun a => a.type = .convert || a.type = .swap) then
    generateError "Don't support swap action"
  else .ok ()

-- A ChainMsg exists only for a path that validatePath lets through and for two
-- addresses that validateReceiver lets through.
structure ChainMsg where
  path : Path
  minimumReceive : String
  receiver : String
  currentChainAddress : String
  memo : MemoText
  valid : validatePath path true = .ok ()
  receiver_ne : receiver ≠ ""
  currentChainAddress_ne : currentChainAddress ≠ ""

-- A slippage enters only through the guard and the text of 1 - slippage.
structure Slippage where
  outside : Bool
  factor : String

namespace ChainMsg

def new (path : Path) (minimumReceive : String) (receiver currentChainAddress : Option String)
    (memo : MemoText) : Except JsError ChainMsg :=
  match hpath : validatePath path true with
  | .error e => .error e
  | .ok () =>
    if hreceiver : receiver.getD "" = "" then
      generateError ("Missing receiver when build msg in " ++ path.chainId)
    else if haddress : currentChainAddress.getD "" = "" then
      generateError ("Missing address of " ++ path.chainId)
    else .ok ⟨path, minimumReceive, receiver.getD "", currentChainAddress.getD "", memo, hpath,
      hreceiver, haddress⟩

variable (env : Environment) (this : ChainMsg)

def timeoutTimestamp : Nat := (env.dateNow / 1000 + IBC_TRANSFER_TIMEOUT) * 1000000000

-- The amount after the slippage guard, cut at the dot that BigDecimal prints.
def slippedAmount (slippage : Slippage) (returnAmount : String) : Except JsError String := do
  let product ← Script.contents (do
    BigDecimal.mul (← BigDecimal.new (.number slippage.factor) none) (.string returnAmount))
    ⟨0, fun _ => ⟨0, 0⟩⟩
  let minimumReceive := product.toText
  return String.ofList <| if '.' ∈ minimumReceive then (minimumReceive.splitOn '.').headD []
    else minimumReceive

def minimumReceiveFor (slippage : Slippage) (returnAmount : Except JsError String) :
    Except JsError String :=
  if slippage.outside then generateError "Slippage must be between 0 and 1"
  else do slippedAmount slippage (← returnAmount)

def swapOperations (denomIn : String) : List SwapInfo → List SwapOperation
  | [] => []
  | swapInfo :: rest =>
      ⟨denomIn, swapInfo.tokenOut, .poolId swapInfo.poolId⟩ :: swapOperations swapInfo.tokenOut rest

def swapAction (action : Action) : Except JsError (List SwapOperation) :=
  match action.swapInfo with
  | some swapInfo => .ok (swapOperations action.tokenIn swapInfo)
  | none => .error .typeError

def bridgeMsgInfo (action : Action) (bridgeInfo : BridgeInfo) : BridgeMsgInfo where
  amount := action.tokenInAmount
  sourceChannel := bridgeInfo.channel
  sourcePort := bridgeInfo.port
  memo := this.memo
  receiver := this.receiver
  timeout := timeoutTimestamp env
  fromToken := action.tokenIn
  toToken := action.tokenOut
  fromChain := this.path.chainId
  toChain := this.path.tokenOutChainId

def forwardMemo (bridgeInfo : BridgeMsgInfo) : MiddlewareResponse where
  receiver := this.currentChainAddress
  memo := .json (.forward
    { receiver := this.receiver
      port := bridgeInfo.sourcePort
      channel := bridgeInfo.sourceChannel
      timeout := timeoutTimestamp env
      retries := 2
      next := this.memo.orUndefined })

def transferObject (bridgeInfo : BridgeMsgInfo) : EncodeObject := .msgTransfer
  { sourcePort := bridgeInfo.sourcePort
    sourceChannel := bridgeInfo.sourceChannel
    receiver := this.receiver
    token := ⟨this.path.tokenIn, this.path.tokenInAmount⟩
    sender := this.currentChainAddress
    memo := this.memo
    timeoutTimestamp := timeoutTimestamp env }

def minAsset (tokenOutOfSwap : String) : MinAsset :=
  if env.isCw20Token tokenOutOfSwap then .cw20 this.minimumReceive tokenOutOfSwap
  else .native this.minimumReceive tokenOutOfSwap

def swapAndActionMsg (swapVenueName : String) (swapOps : List SwapOperation)
    (tokenOutOfSwap : String) (postAction : PostAction MemoText) : SwapAndAction MemoText where
  swapVenueName := swapVenueName
  operations := swapOps
  minAsset := minAsset env this tokenOutOfSwap
  timeoutTimestamp := timeoutTimestamp env
  postSwapAction := postAction

-- A cw20 token is sent to the contract, a native one is attached as funds.
def executeObject (fromToken contractAddr : String) (msg : ContractMsg) : EncodeObject :=
  .msgExecuteContract <|
    if env.isCw20Token fromToken then
      ⟨this.currentChainAddress, fromToken, .send contractAddr this.path.tokenInAmount msg, []⟩
    else
      ⟨this.currentChainAddress, contractAddr, .call msg,
        [⟨this.path.tokenIn, this.path.tokenInAmount⟩]⟩

end ChainMsg

end OraidexSdk.Message
