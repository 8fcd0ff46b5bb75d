import OraidexSdk.Message.Build
import OraidexSdk.Loops.Outcome

namespace OraidexSdk.Message
open Js Outcome ChainMsg

section Generate

variable {M : Type} (info : Except JsError (List SwapOperation × Option BridgeMsgInfo))
  (bridgeOnly : BridgeMsgInfo → Except JsError M)
  (postAction : Option BridgeMsgInfo → Except JsError (PostAction MemoText))
  (message : List SwapOperation → SwapOperation → PostAction MemoText → M)

-- What genMemoAsMiddleware and genExecuteMsg of the two chains with swaps have in common.
def generate : Except JsError M := do
  let (swapOps, bridgeInfo) ← info
  match swapOps.getLast?, bridgeInfo with
  | none, none => .error .typeError
  | none, some bridgeInfo => bridgeOnly bridgeInfo
  | some operation, bridgeInfo => do return message swapOps operation (← postAction bridgeInfo)

inductive Generated : M → Prop where
  | bridge {bridgeInfo : BridgeMsgInfo} {m : M} (hinfo : info = .ok ([], some bridgeInfo))
      (hbridge : bridgeOnly bridgeInfo = .ok m) : Generated m
  | swap {ops : List SwapOperation} {bridge : Option BridgeMsgInfo} {operation : SwapOperation}
      {post : PostAction MemoText} (hinfo : info = .ok (ops, bridge))
      (hlast : ops.getLast? = some operation) (hpost : postAction bridge = .ok post) :
      Generated (message ops operation post)

variable {info bridgeOnly postAction message}

theorem generate_cases {m : M} (h : generate info bridgeOnly postAction message = .ok m) :
    Generated info bridgeOnly postAction message m := by
  obtain ⟨⟨ops, bridge⟩, hinfo, h⟩ := bind_eq_ok.mp h
  cases hlast : ops.getLast? with
  | none =>
    simp only [hlast] at h
    cases List.getLast?_eq_none_iff.mp hlast
    cases bridge with
    | none => cases h
    | some bridgeInfo => exact .bridge hinfo h
  | some operation =>
    simp only [hlast] at h
    obtain ⟨post, hpost, h⟩ := bind_eq_ok.mp h
    cases h
    exact .swap hinfo hlast hpost

theorem generate_fails {Q : JsError → Prop} (hinfo : FailsWith Q info)
    (hbridge : ∀ bridgeInfo, FailsWith Q (bridgeOnly bridgeInfo))
    (hpost : ∀ bridge, FailsWith Q (postAction bridge)) (hempty : Q .typeError) :
    FailsWith Q (generate info bridgeOnly postAction message) := by
  refine FailsWith.bind hinfo ?_
  rintro ⟨ops, bridge⟩ -
  dsimp only
  split
  · exact FailsWith.error hempty
  · exact hbridge _
  · exact FailsWith.bind (hpost _) fun post _ => FailsWith.ok _

end Generate

variable (env : Environment)

def swapResponse (this : ChainMsg) (swapVenueName contract : String) (ops : List SwapOperation)
    (operation : SwapOperation) (post : PostAction MemoText) : MiddlewareResponse :=
  ⟨.json (.wasm contract (.swapAndAction
    (swapAndActionMsg env this swapVenueName ops operation.denomOut post))), contract⟩

def swapObject (this : ChainMsg) (swapVenueName contract : String) (ops : List SwapOperation)
    (operation : SwapOperation) (post : PostAction MemoText) : EncodeObject :=
  executeObject env this this.path.tokenIn contract (.swapAndAction
    (swapAndActionMsg env this swapVenueName ops operation.denomOut post))

namespace OraichainMsg

variable (this : OraichainMsg)

theorem genMemoAsMiddleware_eq :
    genMemoAsMiddleware env this = generate (getSwapAndBridgeInfo env this) (bridgeMemo env this)
      (getPostAction env this)
      (swapResponse env this.toChainMsg SWAP_VENUE_NAME ENTRY_POINT_CONTRACT) := rfl

theorem genExecuteMsg_eq :
    genExecuteMsg env this = generate (getSwapAndBridgeInfo env this) (genBridgeMsg env this)
      (getPostAction env this)
      (swapObject env this.toChainMsg SWAP_VENUE_NAME ENTRY_POINT_CONTRACT) := rfl

end OraichainMsg

namespace OsmosisMsg

variable (this : OsmosisMsg)

-- The branches for a path of a bridge alone, which stand inline in this class.
def bridgeMemo (bridgeInfo : BridgeMsgInfo) : Except JsError MiddlewareResponse :=
  if bridgeInfo.sourcePort ≠ "transfer" then
    generateError "Error on generate memo as middleware: Only support ibc bridge"
  else return forwardMemo env this.toChainMsg bridgeInfo

def bridgeObject (bridgeInfo : BridgeMsgInfo) : Except JsError EncodeObject :=
  if bridgeInfo.sourcePort = "transfer" then
    return transferObject env this.toChainMsg bridgeInfo
  else generateError "Error on generate executeMsg on Osmosis: Only support ibc transfer"

theorem genMemoAsMiddleware_eq :
    genMemoAsMiddleware env this = generate (getSwapAndBridgeInfo env this) (bridgeMemo env this)
      (getPostAction this)
      (swapResponse env this.toChainMsg SWAP_VENUE_NAME ENTRY_POINT_CONTRACT) := rfl

theorem genExecuteMsg_eq :
    genExecuteMsg env this = generate (getSwapAndBridgeInfo env this) (bridgeObject env this)
      (getPostAction this)
      (swapObject env this.toChainMsg SWAP_VENUE_NAME ENTRY_POINT_CONTRACT) := rfl

end OsmosisMsg

end OraidexSdk.Message
