import OraidexSdk.Message.Layers
import OraidexSdk.Message.Generators
import OraidexSdk.Loops.Agreement

namespace OraidexSdk.Message
open Js Outcome ChainMsg

section Path

variable (env : Environment)

def actionOperations (action : Action) : List SwapOperation :=
  match action.type with
  | .swap => swapOperations action.tokenIn (action.swapInfo.getD [])
  | .convert => [⟨action.tokenIn, action.tokenOut,
      OraichainMsg.parseConverterMsgToPoolId env action.tokenIn action.tokenOut⟩]
  | _ => []

def pathOperations (path : Path) : List SwapOperation :=
  path.actions.flatMap (actionOperations env)

def lastBridge (actions : List Action) : Option Action :=
  actions.getLast?.filter (·.type = .bridge)

def bridgeAction (path : Path) : Option Action := lastBridge path.actions

theorem lastBridge_concat (done : List Action) (a : Action) :
    lastBridge (done ++ [a]) = if a.type = .bridge then some a else none := by
  simp [lastBridge, Option.filter_some]

theorem lastBridge_mem {actions : List Action} {a : Action} (h : lastBridge actions = some a) :
    a ∈ actions ∧ a.type = .bridge := by
  obtain ⟨hlast, htype⟩ := Option.filter_eq_some_iff.mp h
  exact ⟨List.mem_of_getLast? hlast, of_decide_eq_true htype⟩

theorem actions_split {path : Path} (h : validatePath path true = .ok ()) :
    ∃ init last, path.actions = init ++ [last] ∧ ∀ a ∈ init, a.type ≠ .bridge := by
  simp only [validatePath] at h
  split at h
  · cases h
  · rename_i hlen
    split at h
    · cases h
    · rename_i hcount
      split at h
      · cases h
      · rename_i hlast
        obtain ⟨init, last, hsplit⟩ : ∃ init last, path.actions = init ++ [last] :=
          ⟨_, _, (List.dropLast_append_getLast (List.ne_nil_of_length_pos (by omega))).symm⟩
        refine ⟨init, last, hsplit, fun a ha hbridge => ?_⟩
        have hpos : 0 < (init.filter (·.type = .bridge)).length :=
          List.length_pos_of_mem (List.mem_filter.mpr ⟨ha, by simpa using hbridge⟩)
        rw [hsplit, List.filter_append, List.length_append] at hcount hlast
        by_cases htype : last.type = .bridge
        · have hone : ([last].filter (·.type = .bridge)).length = 1 := by simp [htype]
          omega
        · have hzero : ([last].filter (·.type = .bridge)).length = 0 := by simp [htype]
          exact hlast ⟨by omega, by simpa using htype⟩

theorem operations_ne_nil {path : Path} {ops : List SwapOperation} {operation : SwapOperation}
    (hops : ops = pathOperations env path) (hlast : ops.getLast? = some operation) :
    pathOperations env path ≠ [] := by
  rw [← hops]
  rintro rfl
  cases hlast

def BridgeRead (this : ChainMsg) (actions : List Action) (bridge : Option BridgeMsgInfo) : Prop :=
  (lastBridge actions = none ∧ bridge = none) ∨
    ∃ a b, lastBridge actions = some a ∧ a.bridgeInfo = some b ∧
      bridge = some (bridgeMsgInfo env this a b)

theorem BridgeRead.of_some {this : ChainMsg} {actions : List Action} {bridgeInfo : BridgeMsgInfo}
    (h : BridgeRead env this actions (some bridgeInfo)) :
    ∃ a b, lastBridge actions = some a ∧ a.bridgeInfo = some b ∧
      bridgeInfo = bridgeMsgInfo env this a b := by
  rcases h with ⟨-, hnone⟩ | ⟨a, b, ha, hb, hsome⟩
  · cases hnone
  · exact ⟨a, b, ha, hb, Option.some.inj hsome⟩

def Visits (this : ChainMsg) (visit : List SwapOperation × Option BridgeMsgInfo → Action →
    Except JsError (List SwapOperation × Option BridgeMsgInfo)) : Prop :=
  ∀ s a t, visit s a = .ok t → t.1 = s.1 ++ actionOperations env a ∧
    ((a.type ≠ .bridge ∧ t.2 = s.2) ∨ (a.type = .bridge ∧
      ∃ b, a.bridgeInfo = some b ∧ t.2 = some (bridgeMsgInfo env this a b)))

theorem swapAction_operations {a : Action} (htype : a.type = .swap) {ops : List SwapOperation}
    (h : swapAction a = .ok ops) : ops = actionOperations env a := by
  rw [swapAction] at h
  rw [actionOperations, htype]
  split at h
  · rename_i infos hinfo
    cases h
    simp [hinfo]
  · cases h

variable {env}

theorem Visits.run {this : ChainMsg} {visit} (hv : Visits env this visit)
    {ops : List SwapOperation} {bridge : Option BridgeMsgInfo}
    (hrun : this.path.actions.foldlM visit ([], none) = .ok (ops, bridge)) :
    ops = pathOperations env this.path ∧ BridgeRead env this this.path.actions bridge := by
  obtain ⟨init, last, hsplit, hinit⟩ := actions_split this.valid
  refine foldlM_induct (P := fun done s => s.1 = done.flatMap (actionOperations env) ∧
    BridgeRead env this done s.2) ⟨rfl, .inl ⟨rfl, rfl⟩⟩ ?_ hrun
  rintro done a s t hdone ⟨hops, hbridge⟩ hvisit
  have hnone : s.2 = none := by
    rcases hbridge with ⟨-, hnone⟩ | ⟨b, -, hb, -⟩
    · exact hnone
    · obtain ⟨hmem, htype⟩ := lastBridge_mem hb
      rw [hsplit] at hdone
      have hdone : done <+: init := by
        rcases List.prefix_concat_iff.mp hdone with heq | hlt
        · exact (List.append_inj' heq rfl).1 ▸ List.prefix_rfl
        · exact (List.prefix_append done [a]).trans hlt
      exact absurd htype (hinit b (hdone.subset hmem))
  obtain ⟨hops', hread⟩ := hv s a t hvisit
  refine ⟨?_, ?_⟩
  · rw [hops', hops, List.flatMap_append, List.flatMap_singleton]
  · rw [BridgeRead, lastBridge_concat]
    rcases hread with ⟨htype, ht⟩ | ⟨htype, b, hb, ht⟩
    · exact .inl ⟨if_neg htype, ht.trans hnone⟩
    · exact .inr ⟨a, b, if_pos htype, hb, ht⟩

end Path

theorem orUndefined_getD (m : MemoText) : m.orUndefined.getD .empty = m := by
  unfold MemoText.orUndefined
  split <;> rfl

-- Everything a layer can do with what it is given: pay on the same chain, hand
-- receiver and memo to a packet, write the EVM recipient into a text, or call
-- the TON bridge.
inductive Leaves (env : Environment) (path : Path) (receiver : String) (memo : MemoText)
    (destPrefix : String) (obridgeAddress : Option String) : Exit → Prop where
  | pay (hbridge : bridgeAction path = none) :
      Leaves env path receiver memo destPrefix obridgeAddress (.pay receiver)
  | packet {a : Action} {b : BridgeInfo} (hbridge : bridgeAction path = some a)
      (hinfo : a.bridgeInfo = some b) (hport : b.port = "transfer") :
      Leaves env path receiver memo destPrefix obridgeAddress (.packet b.channel receiver memo)
  | wasm {a : Action} {b : BridgeInfo} (hbridge : bridgeAction path = some a)
      (hinfo : a.bridgeInfo = some b) (hport : startsWith b.port "wasm" = true)
      (hchain : path.chainId = "Oraichain") (heth : env.isEthAddress receiver = false) :
      Leaves env path receiver memo destPrefix obridgeAddress
        (.wasm ⟨b.channel, receiver, a.tokenOut, memo⟩)
  | evm {a : Action} {b : BridgeInfo} (hbridge : bridgeAction path = some a)
      (hinfo : a.bridgeInfo = some b) (hport : startsWith b.port "wasm" = true)
      (hchain : path.chainId = "Oraichain") (heth : env.isEthAddress receiver = true)
      (hnonempty : destPrefix ≠ "") (hobridge : obridgeAddress.getD "" ≠ "") :
      Leaves env path receiver memo destPrefix obridgeAddress
        (.wasm ⟨b.channel, obridgeAddress.getD "", destPrefix ++ a.tokenOut,
          .text (destPrefix ++ receiver)⟩)
  | ton {a : Action} {b : BridgeInfo} {contract : String} {msg : TonMsg}
      (hbridge : bridgeAction path = some a) (hinfo : a.bridgeInfo = some b)
      (hton : path.tokenOutChainId = "ton") (hto : msg.payload.toAddress = receiver) :
      Leaves env path receiver memo destPrefix obridgeAddress (.call contract msg)

structure Reads (env : Environment) (path : Path) (receiver : String) (memo : MemoText)
    (destPrefix : String) (obridgeAddress : Option String) (layer : Layer) : Prop where
  operations : layer.operations = pathOperations env path
  leaves : Leaves env path receiver memo destPrefix obridgeAddress layer.exit

structure Responds (env : Environment) (path : Path) (receiver : String) (memo : MemoText)
    (destPrefix : String) (obridgeAddress : Option String) (r : MiddlewareResponse) : Prop where
  layer : ∃ l, openMemo r.memo = some l ∧
    Reads env path receiver memo destPrefix obridgeAddress l
  hook : ∀ contract msg, r.memo = .json (.wasm contract msg) → r.receiver = contract

namespace OraichainMsg

variable {env : Environment} {this : OraichainMsg}

theorem visits : Visits env this.toChainMsg (visitAction env this) := by
  intro s a t h
  rw [visitAction] at h
  cases htype : a.type with
  | swap =>
    rw [htype] at h
    obtain ⟨ops, hops, ht⟩ := bind_eq_ok.mp h
    cases ht
    exact ⟨by rw [swapAction_operations env htype hops], .inl ⟨nofun, rfl⟩⟩
  | convert =>
    rw [htype] at h
    cases h
    exact ⟨by rw [actionOperations, htype], .inl ⟨nofun, rfl⟩⟩
  | bridge =>
    rw [htype] at h
    cases hb : a.bridgeInfo with
    | none =>
      rw [hb] at h
      cases h
    | some b =>
      rw [hb] at h
      cases h
      refine ⟨?_, .inr ⟨rfl, b, rfl, rfl⟩⟩
      rw [actionOperations, htype, List.append_nil]
  | other name =>
    rw [htype] at h
    cases h

theorem getSwapAndBridgeInfo_reads {ops : List SwapOperation} {bridge : Option BridgeMsgInfo}
    (h : getSwapAndBridgeInfo env this = .ok (ops, bridge)) :
    ops = pathOperations env this.path ∧
      BridgeRead env this.toChainMsg this.path.actions bridge :=
  visits.run h

theorem ibcWasmInfo_leaves {a : Action} {b : BridgeInfo} (hbridge : bridgeAction this.path = some a)
    (hinfo : a.bridgeInfo = some b) (hport : startsWith b.port "wasm" = true)
    {info : IbcWasmInfo MemoText}
    (h : ibcWasmInfo env this (bridgeMsgInfo env this.toChainMsg a b) = .ok info) :
    Leaves env this.path this.receiver this.memo this.destPrefix this.obridgeAddress
      (.wasm info) := by
  rw [ibcWasmInfo] at h
  split at h
  · rename_i heth
    split at h
    · cases h
    · rename_i hset
      rw [not_or] at hset
      cases h
      exact .evm hbridge hinfo hport this.on_oraichain heth hset.1 hset.2
  · rename_i heth
    cases h
    rw [String.empty_append]
    exact .wasm hbridge hinfo hport this.on_oraichain (Bool.not_eq_true _ ▸ heth)

theorem tonMsg_toAddress (bridgeInfo : BridgeMsgInfo) (denom : String) :
    (tonMsg env this bridgeInfo denom).payload.toAddress = bridgeInfo.receiver := by
  rw [tonMsg]
  split <;> rfl

variable {bridge : Option BridgeMsgInfo}

theorem tonMsg_leaves {a : Action} {b : BridgeInfo} (hbridge : bridgeAction this.path = some a)
    (hinfo : a.bridgeInfo = some b) (hton : isTonChain this.path.tokenOutChainId = true)
    (contract denom : String) :
    Leaves env this.path this.receiver this.memo this.destPrefix this.obridgeAddress
      (.call contract (tonMsg env this (bridgeMsgInfo env this.toChainMsg a b) denom)) :=
  .ton hbridge hinfo (of_decide_eq_true hton) (tonMsg_toAddress _ _)

theorem getPostAction_leaves
    (hread : BridgeRead env this.toChainMsg this.path.actions bridge)
    {post : PostAction MemoText} (h : getPostAction env this bridge = .ok post) :
    Leaves env this.path this.receiver this.memo this.destPrefix this.obridgeAddress post.exit := by
  rcases hread with ⟨hnone, rfl⟩ | ⟨a, b, hbridge, hinfo, rfl⟩
  · cases h
    exact .pay hnone
  · rw [getPostAction] at h
    split at h
    · rename_i hton
      split at h
      · cases h
      · cases h
        exact tonMsg_leaves hbridge hinfo hton _ _
    · split at h
      · rename_i hport
        cases h
        exact .packet hbridge hinfo hport
      · split at h
        · rename_i hport
          obtain ⟨info, hwasm, hpost⟩ := map_eq_ok.mp h
          cases hpost
          exact ibcWasmInfo_leaves hbridge hinfo hport hwasm
        · cases h

theorem getProtoForPostAction_agrees (bridge : Option BridgeMsgInfo) :
    Agree (fun p a => p = a.proto) (getProtoForPostAction env this bridge)
      (getPostAction env this bridge) := by
  cases bridge with
  | none => exact .ok rfl
  | some b =>
    rw [getProtoForPostAction, getPostAction]
    split
    · cases truthy (JETTONS_ADDRESS.lookup b.toToken) with
      | none => exact .error _ _
      | some jettonToToken => exact .ok rfl
    · split
      · rename_i hport
        rw [hport]
        exact .ok rfl
      · split
        · refine (Agree.refl (ibcWasmInfo env this b)).map ?_
          rintro info _ rfl
          rfl
        · exact .error _ _

theorem getProtoForPostAction_leaves
    (hread : BridgeRead env this.toChainMsg this.path.actions bridge)
    {post : MemoPostAction MemoText} (h : getProtoForPostAction env this bridge = .ok post) :
    Leaves env this.path this.receiver this.memo this.destPrefix this.obridgeAddress post.exit := by
  obtain ⟨a, ha, rfl⟩ := (getProtoForPostAction_agrees bridge).ok_of_left h
  rw [PostAction.proto_exit]
  exact getPostAction_leaves hread ha

end OraichainMsg

theorem forwardMemo_reads {env : Environment} {this : ChainMsg} {a : Action} {b : BridgeInfo}
    (hbridge : bridgeAction this.path = some a) (hinfo : a.bridgeInfo = some b)
    (hport : b.port = "transfer") (hops : pathOperations env this.path = []) (destPrefix : String)
    (obridgeAddress : Option String) :
    Responds env this.path this.receiver this.memo destPrefix obridgeAddress
      (forwardMemo env this (bridgeMsgInfo env this a b)) := by
  refine ⟨⟨_, rfl, hops.symm, ?_⟩, nofun⟩
  simp only [Forward.layer, orUndefined_getD]
  exact .packet hbridge hinfo hport

theorem transferObject_reads {env : Environment} {this : ChainMsg} {a : Action} {b : BridgeInfo}
    (hbridge : bridgeAction this.path = some a) (hinfo : a.bridgeInfo = some b)
    (hport : b.port = "transfer") (hops : pathOperations env this.path = []) (destPrefix : String)
    (obridgeAddress : Option String) :
    Reads env this.path this.receiver this.memo destPrefix obridgeAddress
      (openMessage (transferObject env this (bridgeMsgInfo env this a b))) :=
  ⟨hops.symm, .packet hbridge hinfo hport⟩

theorem executeObject_layer (env : Environment) (this : ChainMsg) (fromToken contract : String)
    (msg : ContractMsg) :
    openMessage (executeObject env this fromToken contract msg) = msg.layer contract := by
  rw [executeObject]
  split <;> rfl

namespace OraichainMsg

variable {env : Environment} {this : OraichainMsg} {ops : List SwapOperation}
  {bridge : Option BridgeMsgInfo}

theorem protoMemo_layer (userSwap : Option UserSwap) (post : MemoPostAction MemoText) :
    (protoMemo env this userSwap post).layer =
      ⟨(userSwap.map (·.operations)).getD [], post.exit⟩ := rfl

theorem genMemoForIbcWasm_responds {r : MiddlewareResponse}
    (h : genMemoForIbcWasm env this = .ok r) :
    Responds env this.path this.receiver this.memo this.destPrefix this.obridgeAddress r ∧
      r.receiver = this.currentChainAddress := by
  obtain ⟨⟨ops, bridge⟩, hinfo, h⟩ := bind_eq_ok.mp h
  obtain ⟨hops, hread⟩ := getSwapAndBridgeInfo_reads hinfo
  obtain ⟨post, hpost, h⟩ := bind_eq_ok.mp h
  cases h
  refine ⟨⟨⟨_, rfl, ?_, getProtoForPostAction_leaves hread hpost⟩, nofun⟩, rfl⟩
  rw [protoMemo_layer, ← hops]
  split
  · rename_i hlen
    exact (List.length_eq_zero_iff.mp hlen).symm
  · rfl

def memoReceiver (env : Environment) (this : OraichainMsg) : String :=
  if pathOperations env this.path ≠ [] then ENTRY_POINT_CONTRACT
  else if isTonChain this.path.tokenOutChainId then IBC_WASM_CONTRACT
  else this.currentChainAddress

theorem bridgeMemo_responds {a : Action} {b : BridgeInfo} (hbridge : bridgeAction this.path = some a)
    (hinfo : a.bridgeInfo = some b) (hops : pathOperations env this.path = [])
    {r : MiddlewareResponse}
    (h : bridgeMemo env this (bridgeMsgInfo env this.toChainMsg a b) = .ok r) :
    Responds env this.path this.receiver this.memo this.destPrefix this.obridgeAddress r ∧
      r.receiver = memoReceiver env this := by
  rw [memoReceiver, if_neg (not_not.mpr hops)]
  rw [bridgeMemo] at h
  split at h
  · rename_i hton
    obtain ⟨post, hpost, h⟩ := bind_eq_ok.mp h
    cases h
    have hleaves := getProtoForPostAction_leaves (.inr ⟨a, b, hbridge, hinfo, rfl⟩) hpost
    refine ⟨⟨⟨_, rfl, hops.symm, hleaves⟩, ?_⟩, (if_pos hton).symm⟩
    rintro contract msg ⟨⟩
    rfl
  · rename_i hton
    split at h
    · rename_i hport
      cases h
      exact ⟨forwardMemo_reads hbridge hinfo hport hops _ _, (if_neg hton).symm⟩
    · cases h

theorem genMemoAsMiddleware_responds {r : MiddlewareResponse}
    (h : genMemoAsMiddleware env this = .ok r) :
    Responds env this.path this.receiver this.memo this.destPrefix this.obridgeAddress r ∧
      r.receiver = memoReceiver env this := by
  rw [genMemoAsMiddleware_eq] at h
  cases generate_cases h with
  | bridge hinfo hmemo =>
    obtain ⟨hops, hread⟩ := getSwapAndBridgeInfo_reads hinfo
    obtain ⟨a, b, hbridge, hb, rfl⟩ := hread.of_some
    exact bridgeMemo_responds hbridge hb hops.symm hmemo
  | swap hinfo hlast hpost =>
    obtain ⟨hops, hread⟩ := getSwapAndBridgeInfo_reads hinfo
    have hne := operations_ne_nil env hops hlast
    refine ⟨⟨⟨_, rfl, hops, getPostAction_leaves hread hpost⟩, ?_⟩, (if_pos hne).symm⟩
    rintro contract msg ⟨⟩
    rfl

theorem genBridgeMsg_reads {a : Action} {b : BridgeInfo} (hbridge : bridgeAction this.path = some a)
    (hinfo : a.bridgeInfo = some b) (hops : pathOperations env this.path = []) {msg : EncodeObject}
    (h : genBridgeMsg env this (bridgeMsgInfo env this.toChainMsg a b) = .ok msg) :
    Reads env this.path this.receiver this.memo this.destPrefix this.obridgeAddress
      (openMessage msg) := by
  rw [genBridgeMsg] at h
  split at h
  · rename_i hport
    cases h
    exact transferObject_reads hbridge hinfo hport.1 hops _ _
  · split at h
    · rename_i hport
      obtain ⟨info, hwasm, h⟩ := bind_eq_ok.mp h
      have hleaves := ibcWasmInfo_leaves hbridge hinfo hport hwasm
      split at h
      · cases h
      · cases h
        rw [executeObject_layer]
        split
        · exact ⟨hops.symm, hleaves⟩
        · exact ⟨hops.symm, hleaves⟩
    · split at h
      · rename_i hton
        split at h
        · cases h
        · cases h
          rw [executeObject_layer]
          exact ⟨hops.symm, tonMsg_leaves hbridge hinfo hton _ _⟩
      · cases h

theorem genExecuteMsg_reads {msg : EncodeObject} (h : genExecuteMsg env this = .ok msg) :
    Reads env this.path this.receiver this.memo this.destPrefix this.obridgeAddress
      (openMessage msg) := by
  rw [genExecuteMsg_eq] at h
  cases generate_cases h with
  | bridge hinfo hmsg =>
    obtain ⟨hops, hread⟩ := getSwapAndBridgeInfo_reads hinfo
    obtain ⟨a, b, hbridge, hb, rfl⟩ := hread.of_some
    exact genBridgeMsg_reads hbridge hb hops.symm hmsg
  | swap hinfo hlast hpost =>
    obtain ⟨hops, hread⟩ := getSwapAndBridgeInfo_reads hinfo
    rw [swapObject, executeObject_layer]
    exact ⟨hops, getPostAction_leaves hread hpost⟩

end OraichainMsg

namespace OsmosisMsg

variable {env : Environment} {this : OsmosisMsg}

theorem visits : Visits env this.toChainMsg (visitAction env this) := by
  intro s a t h
  rw [visitAction] at h
  cases htype : a.type with
  | swap =>
    rw [htype] at h
    obtain ⟨ops, hops, ht⟩ := bind_eq_ok.mp h
    cases ht
    exact ⟨by rw [swapAction_operations env htype hops], .inl ⟨nofun, rfl⟩⟩
  | bridge =>
    rw [htype] at h
    cases hb : a.bridgeInfo with
    | none =>
      rw [hb] at h
      cases h
    | some b =>
      simp only [hb] at h
      split at h
      · cases h
      · cases h
        refine ⟨?_, .inr ⟨rfl, b, rfl, rfl⟩⟩
        rw [actionOperations, htype, List.append_nil]
  | convert =>
    rw [htype] at h
    cases h
  | other name =>
    rw [htype] at h
    cases h

theorem getPostAction_leaves {bridge : Option BridgeMsgInfo}
    (hread : BridgeRead env this.toChainMsg this.path.actions bridge)
    {post : PostAction MemoText} (h : getPostAction this bridge = .ok post) :
    Leaves env this.path this.receiver this.memo "" none post.exit := by
  rcases hread with ⟨hnone, rfl⟩ | ⟨a, b, hbridge, hinfo, rfl⟩
  · cases h
    exact .pay hnone
  · rw [getPostAction] at h
    split at h
    · rename_i hport
      cases h
      exact .packet hbridge hinfo hport
    · cases h

def memoReceiver (env : Environment) (this : OsmosisMsg) : String :=
  if pathOperations env this.path ≠ [] then ENTRY_POINT_CONTRACT else this.currentChainAddress

theorem genMemoAsMiddleware_responds {r : MiddlewareResponse}
    (h : genMemoAsMiddleware env this = .ok r) :
    Responds env this.path this.receiver this.memo "" none r ∧
      r.receiver = memoReceiver env this := by
  rw [genMemoAsMiddleware_eq] at h
  cases generate_cases h with
  | bridge hinfo hmemo =>
    obtain ⟨hops, hread⟩ := visits.run hinfo
    obtain ⟨a, b, hbridge, hb, rfl⟩ := hread.of_some
    have hreceiver : this.currentChainAddress = memoReceiver env this :=
      (if_neg (not_not.mpr hops.symm)).symm
    rw [bridgeMemo] at hmemo
    split at hmemo
    · cases hmemo
    · rename_i hport
      cases hmemo
      exact ⟨forwardMemo_reads hbridge hb (not_not.mp hport) hops.symm _ _, hreceiver⟩
  | swap hinfo hlast hpost =>
    obtain ⟨hops, hread⟩ := visits.run hinfo
    have hne := operations_ne_nil env hops hlast
    refine ⟨⟨⟨_, rfl, hops, getPostAction_leaves hread hpost⟩, ?_⟩, (if_pos hne).symm⟩
    rintro contract msg ⟨⟩
    rfl

theorem genExecuteMsg_reads {msg : EncodeObject} (h : genExecuteMsg env this = .ok msg) :
    Reads env this.path this.receiver this.memo "" none (openMessage msg) := by
  rw [genExecuteMsg_eq] at h
  cases generate_cases h with
  | bridge hinfo hmsg =>
    obtain ⟨hops, hread⟩ := visits.run hinfo
    obtain ⟨a, b, hbridge, hb, rfl⟩ := hread.of_some
    rw [bridgeObject] at hmsg
    split at hmsg
    · rename_i hport
      cases hmsg
      exact transferObject_reads hbridge hb hport hops.symm _ _
    · cases hmsg
  | swap hinfo hlast hpost =>
    obtain ⟨hops, hread⟩ := visits.run hinfo
    rw [swapObject, executeObject_layer]
    exact ⟨hops, getPostAction_leaves hread hpost⟩

end OsmosisMsg

namespace CosmosMsg

variable {env : Environment} {this : CosmosMsg}

theorem actions_of_bridge_first {path : Path} (hvalid : validatePath path true = .ok ()) {a : Action}
    {rest : List Action} (h : path.actions = a :: rest) (htype : a.type = .bridge) : rest = [] := by
  obtain ⟨init, last, hsplit, hinit⟩ := actions_split hvalid
  cases init with
  | nil => exact (List.cons.inj (h.symm.trans hsplit)).2
  | cons first init =>
    have hfirst : a = first := (List.cons.inj (h.symm.trans hsplit)).1
    exact absurd (hfirst ▸ htype) (hinit first List.mem_cons_self)

theorem getBridgeInfo_reads {bridge : BridgeMsgInfo} (h : getBridgeInfo env this = .ok bridge) :
    ∃ a b, bridgeAction this.path = some a ∧ a.bridgeInfo = some b ∧ b.port = "transfer" ∧
      bridge = bridgeMsgInfo env this.toChainMsg a b ∧ pathOperations env this.path = [] := by
  obtain ⟨read, hread, h⟩ := bind_eq_ok.mp h
  split at h
  · cases h
  · rename_i hport
    cases h
    rw [findBridgeInfo] at hread
    split at hread
    · cases hread
    · rename_i a rest hactions
      split at hread
      · rename_i htype
        split at hread
        · rename_i b hb
          cases hread
          have hrest := actions_of_bridge_first this.valid hactions htype
          rw [hrest] at hactions
          refine ⟨a, b, ?_, hb, not_not.mp hport, rfl, ?_⟩
          · rw [bridgeAction, hactions]
            exact (lastBridge_concat [] a).trans (if_pos htype)
          · rw [pathOperations, hactions, List.flatMap_singleton, actionOperations, htype]
        · cases hread
      · cases hread

theorem genMemoAsMiddleware_responds {r : MiddlewareResponse}
    (h : genMemoAsMiddleware env this = .ok r) :
    Responds env this.path this.receiver this.memo "" none r ∧
      r.receiver = this.currentChainAddress := by
  obtain ⟨bridge, hbridge, h⟩ := bind_eq_ok.mp h
  obtain ⟨a, b, ha, hb, hport, rfl, hops⟩ := getBridgeInfo_reads hbridge
  cases h
  exact ⟨forwardMemo_reads ha hb hport hops _ _, rfl⟩

theorem genExecuteMsg_reads {msg : EncodeObject} (h : genExecuteMsg env this = .ok msg) :
    Reads env this.path this.receiver this.memo "" none (openMessage msg) := by
  obtain ⟨bridge, hbridge, h⟩ := bind_eq_ok.mp h
  obtain ⟨a, b, ha, hb, hport, rfl, hops⟩ := getBridgeInfo_reads hbridge
  split at h
  · cases h
  · cases h
    exact transferObject_reads ha hb hport hops _ _

end CosmosMsg

end OraidexSdk.Message
