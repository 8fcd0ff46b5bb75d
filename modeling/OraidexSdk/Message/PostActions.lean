import OraidexSdk.Message.Slippage
import OraidexSdk.Ordered.Keyed

namespace OraidexSdk.Message
open Js Outcome ChainMsg

def MinAsset.amount : MinAsset → String
  | cw20 amount _ | native amount _ => amount

structure SameSwap (memo : Memo MemoText) (msg : SwapAndAction MemoText) : Prop where
  userSwap : memo.userSwap = some ⟨msg.swapVenueName, msg.operations⟩
  minimumReceive : memo.minimumReceive = msg.minAsset.amount
  timeoutTimestamp : memo.timeoutTimestamp = msg.timeoutTimestamp
  postSwapAction : memo.postSwapAction = msg.postSwapAction.proto

inductive SameRequest : MiddlewareResponse → MiddlewareResponse → Prop where
  | swap {memo : Memo MemoText} {msg : SwapAndAction MemoText} (same : SameSwap memo msg)
      (receiver contract : String) :
      SameRequest ⟨.proto memo, receiver⟩ ⟨.json (.wasm contract (.swapAndAction msg)), contract⟩

def SameTonPayload (env : Environment) (this : OraichainMsg) (bridgeInfo : BridgeMsgInfo) : Prop :=
  ∃ obj contract msg, this.genBridgeMsg env bridgeInfo = .ok obj ∧
    openMessage obj = ⟨[], .call contract msg⟩ ∧
    this.getPostAction env (some bridgeInfo) = .ok (.contractCall contract msg) ∧
    this.getProtoForPostAction env (some bridgeInfo) = .ok (.contractCall contract msg)

namespace OraichainMsg

variable (env : Environment) (this : OraichainMsg)

theorem minAsset_amount (token : String) :
    (minAsset env this.toChainMsg token).amount = this.minimumReceive := by
  rw [minAsset]
  split <;> rfl

theorem memo_matches_middleware (hswap : pathOperations env this.path ≠ []) :
    Agree SameRequest (genMemoForIbcWasm env this) (genMemoAsMiddleware env this) ∧
      ∀ bridgeInfo, Agree (fun proto action => proto = action.proto)
        (getProtoForPostAction env this bridgeInfo) (getPostAction env this bridgeInfo) := by
  refine ⟨?_, getProtoForPostAction_agrees⟩
  rw [genMemoForIbcWasm, genMemoAsMiddleware]
  cases hinfo : getSwapAndBridgeInfo env this with
  | error e => exact .error e e
  | ok info =>
    obtain ⟨ops, bridge⟩ := info
    obtain ⟨hops, -⟩ := getSwapAndBridgeInfo_reads hinfo
    rw [← hops] at hswap
    have hlen : ¬ ops.length = 0 := fun h => hswap (List.length_eq_zero_iff.mp h)
    have hlast : ops.getLast? = some (ops.getLast hswap) := List.getLast?_eq_some_getLast hswap
    simp only [bind, Except.bind, hlast]
    refine (getProtoForPostAction_agrees bridge).bind ?_
    rintro _ action rfl
    refine .ok (.swap ⟨?_, (minAsset_amount env this _).symm, rfl, rfl⟩ _ _)
    exact if_neg hlen

theorem swap_memo_matches_middleware :
    Agree SameRequest (swapMsgOnOraichain.genMemoForIbcWasm exampleEnvironment)
      (swapMsgOnOraichain.genMemoAsMiddleware exampleEnvironment) :=
  (memo_matches_middleware exampleEnvironment swapMsgOnOraichain (by decide)).1

theorem truthy_jetton {token jetton : String} (h : JETTONS_ADDRESS.lookup token = some jetton) :
    truthy (JETTONS_ADDRESS.lookup token) = some jetton := by
  have hne : ∀ p ∈ JETTONS_ADDRESS, p.2 ≠ "" := by decide
  rw [h, truthy, Option.filter_some]
  exact if_pos (decide_eq_true (hne _ (Keyed.mem_of_lookup h)))

theorem jetton_self_iff {token jetton : String} (h : JETTONS_ADDRESS.lookup token = some jetton) :
    jetton = token ↔ token = TON_CONTRACT := by
  constructor
  · rintro rfl
    have hself : ∀ p ∈ JETTONS_ADDRESS, p.2 = p.1 → p.1 = TON_CONTRACT := by decide
    exact hself _ (Keyed.mem_of_lookup h) rfl
  · rintro rfl
    rw [JETTONS_ADDRESS, List.lookup_cons_self] at h
    exact (Option.some.inj h).symm

variable {env this} {bridgeInfo : BridgeMsgInfo}

theorem genBridgeMsg_ton (hton : bridgeInfo.toChain = "ton")
    (hport : startsWith bridgeInfo.sourcePort "wasm" = false) {jetton : String}
    (hjetton : JETTONS_ADDRESS.lookup bridgeInfo.toToken = some jetton)
    (hcosmos : ¬ (bridgeInfo.sourcePort = "transfer" ∧ env.isCosmosChain "ton" = true)) :
    genBridgeMsg env this bridgeInfo =
      .ok (executeObject env this.toChainMsg bridgeInfo.fromToken TON_BRIDGE_ADAPTER
        (.ton (tonMsg env this bridgeInfo bridgeInfo.toToken))) := by
  have hchain : isTonChain bridgeInfo.toChain = true := decide_eq_true hton
  rw [← hton] at hcosmos
  rw [genBridgeMsg, if_neg hcosmos, hport, if_neg Bool.false_ne_true, if_pos hchain,
    truthy_jetton hjetton]

theorem getPostAction_ton (hton : bridgeInfo.toChain = "ton") {jetton : String}
    (hjetton : JETTONS_ADDRESS.lookup bridgeInfo.toToken = some jetton) :
    getPostAction env this (some bridgeInfo) =
      .ok (.contractCall TON_BRIDGE_ADAPTER (tonMsg env this bridgeInfo jetton)) := by
  have hchain : isTonChain bridgeInfo.toChain = true := decide_eq_true hton
  rw [getPostAction]
  simp only [if_pos hchain, truthy_jetton hjetton]

theorem getProtoForPostAction_ton (hton : bridgeInfo.toChain = "ton") {jetton : String}
    (hjetton : JETTONS_ADDRESS.lookup bridgeInfo.toToken = some jetton) :
    getProtoForPostAction env this (some bridgeInfo) =
      .ok (.contractCall TON_BRIDGE_ADAPTER (tonMsg env this bridgeInfo jetton)) := by
  have hchain : isTonChain bridgeInfo.toChain = true := decide_eq_true hton
  rw [getProtoForPostAction]
  simp only [if_pos hchain, truthy_jetton hjetton]

theorem tonMsg_denom (denom : String) : (tonMsg env this bridgeInfo denom).payload.denom = denom := by
  rw [tonMsg]
  split <;> rfl

theorem executeObject_ton {contract fromToken : String} {denom jetton : String}
    (h : openMessage (executeObject env this.toChainMsg fromToken contract
        (.ton (tonMsg env this bridgeInfo denom))) =
      ⟨[], .call contract (tonMsg env this bridgeInfo jetton)⟩) : denom = jetton := by
  rw [executeObject_layer, ContractMsg.layer] at h
  injection h with _ hexit
  injection hexit with _ hmsg
  have hdenom := congrArg (·.payload.denom) hmsg
  simpa only [tonMsg_denom] using hdenom

theorem ton_payload_iff (hton : bridgeInfo.toChain = "ton")
    (hport : startsWith bridgeInfo.sourcePort "wasm" = false)
    (hknown : (JETTONS_ADDRESS.lookup bridgeInfo.toToken).isSome = true) :
    SameTonPayload env this bridgeInfo ↔ bridgeInfo.toToken = TON_CONTRACT ∧
      ¬ (bridgeInfo.sourcePort = "transfer" ∧ env.isCosmosChain "ton" = true) := by
  obtain ⟨jetton, hjetton⟩ := Option.isSome_iff_exists.mp hknown
  rw [SameTonPayload, getPostAction_ton hton hjetton, getProtoForPostAction_ton hton hjetton,
    ← jetton_self_iff hjetton]
  constructor
  · rintro ⟨obj, contract, msg, hobj, hopen, hpost, -⟩
    cases hpost
    have hcosmos : ¬ (bridgeInfo.sourcePort = "transfer" ∧ env.isCosmosChain "ton" = true) := by
      intro htransfer
      rw [genBridgeMsg, hton, if_pos htransfer] at hobj
      cases hobj
      cases hopen
    refine ⟨?_, hcosmos⟩
    rw [genBridgeMsg_ton hton hport hjetton hcosmos] at hobj
    cases hobj
    exact (executeObject_ton hopen).symm
  · rintro ⟨rfl, hcosmos⟩
    refine ⟨_, _, _, genBridgeMsg_ton hton hport hjetton hcosmos, ?_, rfl, rfl⟩
    rw [executeObject_layer]
    rfl

def tonBridgeOf (token : String) : BridgeMsgInfo :=
  ⟨"100", "channel-1", "", .empty, "UQtonuser", 0, "ton20_usdt", token, "Oraichain", "ton"⟩

theorem ton_contract_same_payload :
    SameTonPayload exampleEnvironment swapMsgOnOraichain (tonBridgeOf TON_CONTRACT) :=
  (ton_payload_iff rfl (by decide) (by decide)).mpr ⟨rfl, by decide⟩

theorem usdt_payload_differs :
    ¬ SameTonPayload exampleEnvironment swapMsgOnOraichain (tonBridgeOf TON20_USDT_CONTRACT) := by
  rintro ⟨obj, contract, msg, hobj, hopen, hpost, -⟩
  have hjetton : JETTONS_ADDRESS.lookup TON20_USDT_CONTRACT =
      some "EQANiP_ggkS0lJbR12xmDNT7hgqphdnVG0cCiJN6BN35Z498" := by decide
  rw [getPostAction_ton rfl hjetton] at hpost
  rw [genBridgeMsg_ton rfl (by decide) hjetton (by decide)] at hobj
  cases hpost
  cases hobj
  exact absurd (executeObject_ton hopen) (by decide)

end OraichainMsg

end OraidexSdk.Message
