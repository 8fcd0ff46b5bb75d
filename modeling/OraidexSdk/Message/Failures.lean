import OraidexSdk.Message.Generators
import OraidexSdk.BigDecimal.Flooring

namespace OraidexSdk.Message
open Js Outcome ChainMsg

def missingBridgeAddress : JsError := .ex ("Missing oBridge address for " ++ ORAIBRIDGE_SUBNET)

def missingPrefixOrAddress : JsError := .ex "Missing prefix or Obridge address for bridge to EVM"

def Unrelated (e : JsError) : Prop := e ≠ missingBridgeAddress ∧ e ≠ missingPrefixOrAddress

instance (e : JsError) : Decidable (Unrelated e) := inferInstanceAs (Decidable (_ ∧ _))

theorem append_ne {text other : String} {opening : List Char}
    (hother : other.toList.take 10 = opening) (htext : ¬ text.toList.take 10 <+: opening)
    (rest : String) : text ++ rest ≠ other := by
  rintro rfl
  rw [← hother, String.toList_append, List.take_append] at htext
  exact htext (List.prefix_append _ _)

theorem take_missingBridgeAddress :
    ("Missing oBridge address for " ++ ORAIBRIDGE_SUBNET).toList.take 10 =
      ['M', 'i', 's', 's', 'i', 'n', 'g', ' ', 'o', 'B'] := by
  simp

theorem take_missingPrefixOrAddress :
    "Missing prefix or Obridge address for bridge to EVM".toList.take 10 =
      ['M', 'i', 's', 's', 'i', 'n', 'g', ' ', 'p', 'r'] := by
  simp

-- Ten characters tell the other messages with an identifier in them from these two.
theorem unrelated_append {text : String}
    (htext : ¬ text.toList.take 10 <+: ['M', 'i', 's', 's', 'i', 'n', 'g', ' ', 'o', 'B'] ∧
      ¬ text.toList.take 10 <+: ['M', 'i', 's', 's', 'i', 'n', 'g', ' ', 'p', 'r'])
    (rest : String) : Unrelated (.ex (text ++ rest)) := by
  constructor
  · intro h
    exact append_ne take_missingBridgeAddress htext.1 rest (JsError.ex.inj h)
  · intro h
    exact append_ne take_missingPrefixOrAddress htext.2 rest (JsError.ex.inj h)

theorem fails_literal {α : Type} {e : JsError} (h : Unrelated e) :
    FailsWith Unrelated (.error e : Except JsError α) := FailsWith.error h

theorem bigInt_fails (cs : List Char) : FailsWith Unrelated (Js.bigInt cs) := by
  rw [Js.bigInt]
  split
  · exact FailsWith.ok _
  · exact fails_literal (by decide)

theorem parse_fails (text : List Char) (decimals : Option Nat) :
    FailsWith Unrelated (BigDecimal.parse text decimals) := by
  rw [BigDecimal.parse]
  exact FailsWith.ite (fun _ => (bigInt_fails _).map _) fun _ => (bigInt_fails _).map _

theorem slippedAmount_fails (slippage : Slippage) (returnAmount : String) :
    FailsWith Unrelated (slippedAmount slippage returnAmount) := by
  have hproduct := BigDecimal.contents_fresh BigDecimal.mulKernel ⟨0, fun _ => ⟨0, 0⟩⟩
    (.number slippage.factor) (BigDecimal.string_not_object returnAmount)
  have hcontents : FailsWith Unrelated (Script.contents (do
      BigDecimal.mul (← BigDecimal.new (.number slippage.factor) none) (.string returnAmount))
      ⟨0, fun _ => ⟨0, 0⟩⟩) := by
    refine hproduct ▸ FailsWith.bind (parse_fails _ _) fun x _ => ?_
    exact FailsWith.bind (parse_fails _ _) fun o _ => FailsWith.map _ (FailsWith.ok _)
  exact FailsWith.bind hcontents fun product _ => FailsWith.ok _

theorem minimumReceiveFor_fails (slippage : Slippage) {returnAmount : Except JsError String}
    (h : FailsWith Unrelated returnAmount) :
    FailsWith Unrelated (minimumReceiveFor slippage returnAmount) := by
  refine FailsWith.ite (fun _ => fails_literal (by decide)) fun _ => ?_
  exact FailsWith.bind h fun amount _ => slippedAmount_fails slippage amount

theorem validatePath_fails (path : Path) (hasSwap : Bool) :
    FailsWith Unrelated (validatePath path hasSwap) := by
  refine FailsWith.ite (fun _ => fails_literal (by decide)) fun _ => ?_
  refine FailsWith.ite (fun _ => fails_literal (by decide)) fun _ => ?_
  refine FailsWith.ite (fun _ => fails_literal (by decide)) fun _ => ?_
  exact FailsWith.ite (fun _ => fails_literal (by decide)) fun _ => FailsWith.ok _

theorem chainMsg_new_fails (path : Path) (minimumReceive : String)
    (receiver currentChainAddress : Option String) (memo : MemoText) :
    FailsWith Unrelated (ChainMsg.new path minimumReceive receiver currentChainAddress memo) := by
  unfold ChainMsg.new
  split
  · rename_i e hpath
    exact fails_literal (validatePath_fails path true e hpath)
  · split
    · exact fails_literal (unrelated_append (by simp) _)
    · split
      · exact fails_literal (unrelated_append (by simp) _)
      · exact FailsWith.ok _

theorem swapAction_fails (action : Action) : FailsWith Unrelated (swapAction action) := by
  unfold swapAction
  split
  · exact FailsWith.ok _
  · exact fails_literal (by decide)

theorem getDestPrefix_fails (chainId : String) :
    FailsWith Unrelated (getDestPrefixForBridgeToEvmOnOrai chainId) := by
  unfold getDestPrefixForBridgeToEvmOnOrai
  dsimp only
  split
  · exact FailsWith.ok _
  · refine FailsWith.ite (fun _ => ?_) fun _ => FailsWith.ok _
    exact fails_literal (unrelated_append (by simp) _)

theorem finalReceiver_fails (env : Environment) (addresses : String → Option String)
    (tokenOutChainId : String) (recipientAddress : Option String) :
    FailsWith Unrelated
      (finalReceiver env addresses tokenOutChainId recipientAddress "generateMsgSwap") := by
  unfold finalReceiver
  split
  · exact FailsWith.ok _
  · exact FailsWith.ite (fun _ => FailsWith.ok _) fun _ => fails_literal (by decide)

namespace OraichainMsg

variable (env : Environment) (this : OraichainMsg)

theorem new_fails (path : Path) (minimumReceive : String)
    (receiver currentChainAddress : Option String) (memo : MemoText) (destPrefix : String)
    (obridgeAddress : Option String) :
    FailsWith Unrelated (OraichainMsg.new path minimumReceive receiver currentChainAddress memo
      destPrefix obridgeAddress) := by
  refine FailsWith.bind (chainMsg_new_fails _ _ _ _ _) fun chain _ => ?_
  split
  · exact FailsWith.ok _
  · exact fails_literal (by decide)

theorem visitAction_fails (state : List SwapOperation × Option BridgeMsgInfo) (action : Action) :
    FailsWith Unrelated (visitAction env this state action) := by
  unfold visitAction
  split
  · exact FailsWith.bind (swapAction_fails action) fun ops _ => FailsWith.ok _
  · exact FailsWith.ok _
  · split
    · exact fails_literal (by decide)
    · exact FailsWith.ok _
  · exact fails_literal (by decide)

theorem getSwapAndBridgeInfo_fails : FailsWith Unrelated (getSwapAndBridgeInfo env this) :=
  FailsWith.foldlM (visitAction_fails env this) _ _

theorem setMinimumReceiveForSwap_fails (slippage : Slippage) :
    FailsWith Unrelated (setMinimumReceiveForSwap env this slippage) := by
  refine FailsWith.bind ?_ fun minimumReceive _ => FailsWith.ok _
  apply minimumReceiveFor_fails
  exact FailsWith.bind (getSwapAndBridgeInfo_fails env this) fun info _ => FailsWith.ok _

end OraichainMsg

namespace OsmosisMsg

variable (env : Environment) (this : OsmosisMsg)

theorem visitAction_fails (state : List SwapOperation × Option BridgeMsgInfo) (action : Action) :
    FailsWith Unrelated (visitAction env this state action) := by
  unfold visitAction
  split
  · exact FailsWith.bind (swapAction_fails action) fun ops _ => FailsWith.ok _
  · split
    · exact fails_literal (by decide)
    · refine FailsWith.ite (fun _ => ?_) fun _ => FailsWith.ok _
      exact fails_literal (unrelated_append (by simp) _)
  · exact fails_literal (by decide)

theorem getSwapAndBridgeInfo_fails : FailsWith Unrelated (getSwapAndBridgeInfo env this) :=
  FailsWith.foldlM (visitAction_fails env this) _ _

theorem getPostAction_fails (bridgeInfo : Option BridgeMsgInfo) :
    FailsWith Unrelated (getPostAction this bridgeInfo) := by
  unfold getPostAction
  split
  · exact FailsWith.ok _
  · refine FailsWith.ite (fun _ => FailsWith.ok _) fun _ => ?_
    exact fails_literal (unrelated_append (by simp) _)

theorem genMemoAsMiddleware_fails : FailsWith Unrelated (genMemoAsMiddleware env this) := by
  rw [genMemoAsMiddleware_eq]
  refine generate_fails (getSwapAndBridgeInfo_fails env this) (fun bridgeInfo => ?_)
    (getPostAction_fails this) (by decide)
  exact FailsWith.ite (fun _ => fails_literal (by decide)) fun _ => FailsWith.ok _

theorem genExecuteMsg_fails : FailsWith Unrelated (genExecuteMsg env this) := by
  rw [genExecuteMsg_eq]
  refine generate_fails (getSwapAndBridgeInfo_fails env this) (fun bridgeInfo => ?_)
    (getPostAction_fails this) (by decide)
  exact FailsWith.ite (fun _ => FailsWith.ok _) fun _ => fails_literal (by decide)

end OsmosisMsg

theorem osmosisMsg_fails (env : Environment) (addresses : String → Option String)
    (slippage : Slippage) (path : Path) (receiver : Option String) (memo : MemoText) :
    FailsWith Unrelated (osmosisMsg env addresses slippage path receiver memo) := by
  refine FailsWith.bind ?_ fun msg _ => ?_
  · refine FailsWith.bind (chainMsg_new_fails _ _ _ _ _) fun chain _ => ?_
    split
    · exact FailsWith.ok _
    · exact fails_literal (by decide)
  · refine FailsWith.bind ?_ fun minimumReceive _ => FailsWith.ok _
    apply minimumReceiveFor_fails
    exact FailsWith.bind (OsmosisMsg.getSwapAndBridgeInfo_fails env msg) fun info _ => FailsWith.ok _

namespace CosmosMsg

variable (env : Environment) (this : CosmosMsg)

theorem getBridgeInfo_fails : FailsWith Unrelated (getBridgeInfo env this) := by
  refine FailsWith.bind ?_ fun bridgeInfo _ => ?_
  · unfold findBridgeInfo
    split
    · exact fails_literal (by decide)
    · split
      · split
        · exact FailsWith.ok _
        · exact fails_literal (by decide)
      · exact fails_literal (unrelated_append (by simp) _)
  · refine FailsWith.ite (fun _ => ?_) fun _ => FailsWith.ok _
    exact fails_literal (unrelated_append (by simp) _)

theorem genMemoAsMiddleware_fails : FailsWith Unrelated (genMemoAsMiddleware env this) :=
  FailsWith.bind (getBridgeInfo_fails env this) fun _ _ => FailsWith.ok _

theorem genExecuteMsg_fails : FailsWith Unrelated (genExecuteMsg env this) := by
  refine FailsWith.bind (getBridgeInfo_fails env this) fun bridgeInfo _ => ?_
  exact FailsWith.ite (fun _ => fails_literal (by decide)) fun _ => FailsWith.ok _

end CosmosMsg

theorem cosmosMsg_fails (env : Environment) (addresses : String → Option String)
    (slippage : Slippage) (path : Path) (receiver : Option String) (memo : MemoText) :
    FailsWith Unrelated (cosmosMsg env addresses slippage path receiver memo) := by
  refine FailsWith.ite (fun _ => fails_literal (by decide)) fun _ => ?_
  refine FailsWith.bind ?_ fun msg _ => ?_
  · exact FailsWith.bind (chainMsg_new_fails _ _ _ _ _) fun chain _ => FailsWith.ok _
  · refine FailsWith.bind ?_ fun minimumReceive _ => FailsWith.ok _
    exact minimumReceiveFor_fails slippage ((CosmosMsg.getBridgeInfo_fails env msg).map _)

end OraidexSdk.Message
