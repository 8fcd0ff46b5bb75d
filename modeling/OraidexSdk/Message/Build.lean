import OraidexSdk.Message.Chains.Cosmos
import OraidexSdk.Message.Chains.Osmosis
import OraidexSdk.Message.Chains.Oraichain

namespace OraidexSdk.Message
open Js

def getDestPrefixForBridgeToEvmOnOrai (chainId : String) : Except JsError String :=
  let prefixMap :=
    [("0x01", ORAI_BRIDGE_EVM_ETH_DENOM_PREFIX), ("0x38", ORAI_BRIDGE_EVM_DENOM_PREFIX),
      ("0x2b6653dc", ORAI_BRIDGE_EVM_TRON_DENOM_PREFIX)]
  match truthy (prefixMap.lookup chainId) with
  | some destPrefix => .ok destPrefix
  | none =>
    if startsWith chainId "0x" then
      generateError ("Don't support bridge from Oraichain to " ++ chainId)
    else .ok ""

def ORAIBRIDGE_SUBNET : String := "oraibridge-subnet-2"

section Build

variable (env : Environment) (addresses : String → Option String) (slippage : Slippage)

-- The case blocks that buildMemoSwap and buildExecuteMsg share.
def oraichainMsg (path : Path) (receiver : Option String) (memo : MemoText) :
    Except JsError OraichainMsg := do
  let destPrefix ← getDestPrefixForBridgeToEvmOnOrai path.tokenOutChainId
  let oBridgeAddress := addresses ORAIBRIDGE_SUBNET
  if oBridgeAddress.getD "" = "" ∧ env.isEvmChain path.tokenOutChainId = false then
    generateError ("Missing oBridge address for " ++ ORAIBRIDGE_SUBNET)
  else do
    let msg ← OraichainMsg.new path "1" receiver (addresses path.chainId) memo destPrefix
      oBridgeAddress
    msg.setMinimumReceiveForSwap env slippage

def osmosisMsg (path : Path) (receiver : Option String) (memo : MemoText) :
    Except JsError OsmosisMsg := do
  (← OsmosisMsg.new path "1" receiver (addresses path.chainId) memo).setMinimumReceiveForSwap env
    slippage

def cosmosMsg (path : Path) (receiver : Option String) (memo : MemoText) :
    Except JsError CosmosMsg :=
  if startsWith path.chainId "0x" then generateError "Don't support universal swap in EVM"
  else do
    (← CosmosMsg.new path "1" receiver (addresses path.chainId) memo).setMinimumReceiveForSwap env
      slippage

def usesIbcWasm (previousChain : Option String) : Bool :=
  (truthy previousChain).any fun chain =>
    chain = "noble-1" || env.isEvmChain chain || isTonChain chain

def buildMemoSwap (path : Path) (receiver : Option String) (memo : MemoText)
    (previousChain : Option String) : Except JsError MiddlewareResponse :=
  if path.chainId = "Oraichain" then do
    let msg ← oraichainMsg env addresses slippage path receiver memo
    if usesIbcWasm env previousChain then msg.genMemoForIbcWasm env
    else msg.genMemoAsMiddleware env
  else if path.chainId = "osmosis-1" then do
    (← osmosisMsg env addresses slippage path receiver memo).genMemoAsMiddleware env
  else do (← cosmosMsg env addresses slippage path receiver memo).genMemoAsMiddleware env

def buildExecuteMsg (path : Path) (receiver : Option String) (memo : MemoText) :
    Except JsError EncodeObject :=
  if path.chainId = "Oraichain" then do
    (← oraichainMsg env addresses slippage path receiver memo).genExecuteMsg env
  else if path.chainId = "osmosis-1" then do
    (← osmosisMsg env addresses slippage path receiver memo).genExecuteMsg env
  else do (← cosmosMsg env addresses slippage path receiver memo).genExecuteMsg env

-- The loop from the last path down to paths[1]: previousChain is the chain of the
-- path before, and the result is the memo and the receiver left in the variables.
def memoLoop (receiver : Option String) (previousChain : String) :
    List Path → Except JsError (MemoText × Option String)
  | [] => .ok (.empty, receiver)
  | path :: rest => do
    let (memo, receiver) ← memoLoop receiver path.chainId rest
    let swapInfo ← buildMemoSwap env addresses slippage path receiver memo (some previousChain)
    return (swapInfo.memo, some swapInfo.receiver)

def finalReceiver (tokenOutChainId : String) (recipientAddress : Option String)
    (caller : String) : Except JsError (Option String) :=
  match truthy recipientAddress with
  | none => .ok (addresses tokenOutChainId)
  | some recipient =>
    if (checkValidateAddressWithNetwork env recipient tokenOutChainId).isValid then
      .ok (some recipient)
    else generateError ("Recipient address invalid when " ++ caller ++ "!")

def generateMsgSwap (route : Route) (recipientAddress : Option String) :
    Except JsError EncodeObject :=
  match route.paths with
  | [] => generateError "Require at least 1 action"
  | path :: rest => do
    let receiver ← finalReceiver env addresses ((path :: rest).getLast (by simp)).tokenOutChainId
      recipientAddress "generateMsgSwap"
    let (memo, receiver) ← memoLoop env addresses slippage receiver path.chainId rest
    buildExecuteMsg env addresses slippage path receiver memo

def generateMemoSwap (route : Route) (recipientAddress previousChain : Option String) :
    Except JsError MiddlewareResponse :=
  match route.paths with
  | [] => .ok ⟨.empty, ""⟩
  | path :: rest => do
    let receiver ← finalReceiver env addresses ((path :: rest).getLast (by simp)).tokenOutChainId
      recipientAddress "generateMemoSwap"
    let (memo, receiver) ← memoLoop env addresses slippage receiver path.chainId rest
    buildMemoSwap env addresses slippage path receiver memo previousChain

end Build

end OraidexSdk.Message
