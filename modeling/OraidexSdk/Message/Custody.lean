import OraidexSdk.Message.Nesting

namespace OraidexSdk.Message
open Js Outcome Envelope ChainMsg

def PostAction.owners : PostAction MemoText → List String
  | ibcTransfer info => [info.recoverAddress]
  | contractCall _ msg => [msg.payload.recoveryAddr]
  | _ => []

def MemoPostAction.owners : MemoPostAction MemoText → List String
  | ibcTransferMsg msg => [msg.recoverAddress]
  | contractCall _ msg => [msg.payload.recoveryAddr]
  | _ => []

def Memo.owners (m : Memo MemoText) : List String := m.recoveryAddr :: m.postSwapAction.owners

def ContractMsg.owners : ContractMsg → List String
  | .swapAndAction m => m.postSwapAction.owners
  | .transferBack _ | .transferToRemote _ => []
  | .ton msg => [msg.payload.recoveryAddr]

def ExecuteMsg.owners : ExecuteMsg → List String
  | .call msg | .send _ _ msg => msg.owners

def EncodeObject.owners : EncodeObject → List String
  | .msgTransfer value => [value.sender]
  | .msgExecuteContract value => value.sender :: value.msg.owners

structure OwnedLayer where
  owners : List String
  memo : MemoText

-- Unlike openMemo this also opens a hook whose arguments are no proto memo.
def openOwners : MemoText → Option OwnedLayer
  | .text _ => none
  | .json (.forward f) => some ⟨[], f.next.getD .empty⟩
  | .json (.wasm _ (.swapAndAction m)) => some ⟨m.postSwapAction.owners, m.postSwapAction.exit.memo⟩
  | .json (.wasm _ (.ibcHooksReceive _ oraiReceiver (.proto m))) =>
      some ⟨oraiReceiver :: m.owners, m.postSwapAction.exit.memo⟩
  | .json (.wasm _ (.ibcHooksReceive _ oraiReceiver args)) => some ⟨[oraiReceiver], args⟩
  | .proto m => some ⟨m.owners, m.postSwapAction.exit.memo⟩

theorem openOwners_memo {m : MemoText} {l : Layer} (h : openMemo m = some l) :
    ∃ owned, openOwners m = some owned ∧ owned.memo = l.exit.memo := by
  cases m with
  | text s => cases h
  | proto memo =>
    cases h
    exact ⟨_, rfl, rfl⟩
  | json hook =>
    cases hook with
    | forward f =>
      cases h
      exact ⟨_, rfl, rfl⟩
    | wasm contract msg =>
      cases msg with
      | swapAndAction action =>
        cases h
        exact ⟨_, rfl, rfl⟩
      | ibcHooksReceive func oraiReceiver args =>
        cases args with
        | proto memo =>
          cases h
          exact ⟨_, rfl, rfl⟩
        | _ => cases h

theorem openOwners_lt (m : MemoText) (owned : OwnedLayer) (h : openOwners m = some owned) :
    owned.memo.size < m.size := by
  cases hopen : openMemo m with
  | some l =>
    obtain ⟨owned', howned, hmemo⟩ := openOwners_memo hopen
    rw [← Option.some.inj (howned.symm.trans h), hmemo]
    exact openMemo_lt m l hopen
  | none =>
    cases m with
    | text s => cases h
    | proto memo => cases hopen
    | json hook =>
      cases hook with
      | forward f => cases hopen
      | wasm contract msg =>
        cases msg with
        | swapAndAction action => cases hopen
        | ibcHooksReceive func oraiReceiver args =>
          have hsize := args.size_le
          cases args with
          | proto memo => cases hopen
          | _ =>
            cases h
            simp only [MemoText.size, MemoText.json.sizeOf_spec, HookJson.wasm.sizeOf_spec,
              HookMsg.ibcHooksReceive.sizeOf_spec] at hsize ⊢
            omega

def ownership : Envelope MemoText OwnedLayer :=
  ⟨openOwners, (·.memo), MemoText.size, openOwners_lt⟩

def memoOwners (m : MemoText) : List (List String) := (ownership.unwrap m).map (·.owners)

def messageOwners (msg : EncodeObject) : List (List String) :=
  msg.owners :: memoOwners (openMessage msg).exit.memo

def Keeps (user : String) (owners : List String) : Prop := ∀ owner ∈ owners, owner = user

def MemoKeeps (user : String) (m : MemoText) : Prop :=
  ∃ owned, openOwners m = some owned ∧ Keeps user owned.owners

def KeptBy (addresses : String → Option String) (path : Path) (owners : List String) : Prop :=
  ∃ user, user ≠ "" ∧ addresses path.chainId = some user ∧ Keeps user owners

theorem PostAction.proto_owners (a : PostAction MemoText) : a.proto.owners = a.owners := by
  cases a <;> rfl

theorem executeObject_owners {env : Environment} {this : ChainMsg} {fromToken contract : String}
    {msg : ContractMsg} (h : Keeps this.currentChainAddress msg.owners) :
    Keeps this.currentChainAddress (executeObject env this fromToken contract msg).owners := by
  rw [executeObject]
  split
  · exact List.forall_mem_cons.mpr ⟨rfl, h⟩
  · exact List.forall_mem_cons.mpr ⟨rfl, h⟩

namespace OraichainMsg

variable {env : Environment} {this : OraichainMsg}

theorem tonMsg_recovery (bridgeInfo : BridgeMsgInfo) (denom : String) :
    (tonMsg env this bridgeInfo denom).payload.recoveryAddr = this.currentChainAddress := by
  rw [tonMsg]
  split <;> rfl

theorem getPostAction_owners {bridge : Option BridgeMsgInfo} {post : PostAction MemoText}
    (h : getPostAction env this bridge = .ok post) :
    Keeps this.currentChainAddress post.owners := by
  cases bridge with
  | none =>
    cases h
    exact List.forall_mem_nil _
  | some bridgeInfo =>
    rw [getPostAction] at h
    split at h
    · split at h
      · cases h
      · cases h
        exact List.forall_mem_singleton.mpr (tonMsg_recovery bridgeInfo _)
    · split at h
      · cases h
        exact List.forall_mem_singleton.mpr rfl
      · split at h
        · obtain ⟨info, -, rfl⟩ := map_eq_ok.mp h
          exact List.forall_mem_nil _
        · cases h

theorem getProtoForPostAction_owners {bridge : Option BridgeMsgInfo}
    {post : MemoPostAction MemoText} (h : getProtoForPostAction env this bridge = .ok post) :
    Keeps this.currentChainAddress post.owners := by
  obtain ⟨a, ha, rfl⟩ := (getProtoForPostAction_agrees bridge).ok_of_left h
  rw [PostAction.proto_owners]
  exact getPostAction_owners ha

theorem genMemoForIbcWasm_owners {r : MiddlewareResponse} (h : genMemoForIbcWasm env this = .ok r) :
    MemoKeeps this.currentChainAddress r.memo := by
  obtain ⟨⟨ops, bridge⟩, -, h⟩ := bind_eq_ok.mp h
  obtain ⟨post, hpost, h⟩ := bind_eq_ok.mp h
  cases h
  exact ⟨_, rfl, List.forall_mem_cons.mpr ⟨rfl, getProtoForPostAction_owners hpost⟩⟩

theorem bridgeMemo_owners {bridgeInfo : BridgeMsgInfo} {r : MiddlewareResponse}
    (h : bridgeMemo env this bridgeInfo = .ok r) :
    MemoKeeps this.currentChainAddress r.memo := by
  rw [bridgeMemo] at h
  split at h
  · obtain ⟨post, hpost, h⟩ := bind_eq_ok.mp h
    cases h
    have hmemo : Keeps this.currentChainAddress (protoMemo env this none post).owners :=
      List.forall_mem_cons.mpr ⟨rfl, getProtoForPostAction_owners hpost⟩
    exact ⟨_, rfl, List.forall_mem_cons.mpr ⟨rfl, hmemo⟩⟩
  · split at h
    · cases h
      exact ⟨_, rfl, List.forall_mem_nil _⟩
    · cases h

theorem genMemoAsMiddleware_owners {r : MiddlewareResponse}
    (h : genMemoAsMiddleware env this = .ok r) :
    MemoKeeps this.currentChainAddress r.memo := by
  rw [genMemoAsMiddleware_eq] at h
  cases generate_cases h with
  | bridge _ hmemo => exact bridgeMemo_owners hmemo
  | swap _ _ hpost => exact ⟨_, rfl, getPostAction_owners hpost⟩

theorem genBridgeMsg_owners {bridgeInfo : BridgeMsgInfo} {msg : EncodeObject}
    (h : genBridgeMsg env this bridgeInfo = .ok msg) :
    Keeps this.currentChainAddress msg.owners := by
  rw [genBridgeMsg] at h
  split at h
  · cases h
    exact List.forall_mem_singleton.mpr rfl
  · split at h
    · obtain ⟨info, -, h⟩ := bind_eq_ok.mp h
      split at h
      · cases h
      · cases h
        apply executeObject_owners
        split <;> exact List.forall_mem_nil _
    · split at h
      · split at h
        · cases h
        · cases h
          exact executeObject_owners (List.forall_mem_singleton.mpr (tonMsg_recovery bridgeInfo _))
      · cases h

theorem genExecuteMsg_owners {msg : EncodeObject} (h : genExecuteMsg env this = .ok msg) :
    Keeps this.currentChainAddress msg.owners := by
  rw [genExecuteMsg_eq] at h
  cases generate_cases h with
  | bridge _ hmsg => exact genBridgeMsg_owners hmsg
  | swap _ _ hpost => exact executeObject_owners (getPostAction_owners hpost)

end OraichainMsg

namespace OsmosisMsg

variable {env : Environment} {this : OsmosisMsg}

theorem getPostAction_owners {bridge : Option BridgeMsgInfo} {post : PostAction MemoText}
    (h : getPostAction this bridge = .ok post) :
    Keeps this.currentChainAddress post.owners := by
  cases bridge with
  | none =>
    cases h
    exact List.forall_mem_nil _
  | some bridgeInfo =>
    rw [getPostAction] at h
    split at h
    · cases h
      exact List.forall_mem_singleton.mpr rfl
    · cases h

theorem bridgeMemo_owners {bridgeInfo : BridgeMsgInfo} {r : MiddlewareResponse}
    (h : bridgeMemo env this bridgeInfo = .ok r) : MemoKeeps this.currentChainAddress r.memo := by
  rw [bridgeMemo] at h
  split at h
  · cases h
  · cases h
    exact ⟨_, rfl, List.forall_mem_nil _⟩

theorem genMemoAsMiddleware_owners {r : MiddlewareResponse}
    (h : genMemoAsMiddleware env this = .ok r) :
    MemoKeeps this.currentChainAddress r.memo := by
  rw [genMemoAsMiddleware_eq] at h
  cases generate_cases h with
  | bridge _ hmemo => exact bridgeMemo_owners hmemo
  | swap _ _ hpost => exact ⟨_, rfl, getPostAction_owners hpost⟩

theorem bridgeObject_owners {bridgeInfo : BridgeMsgInfo} {msg : EncodeObject}
    (h : bridgeObject env this bridgeInfo = .ok msg) :
    Keeps this.currentChainAddress msg.owners := by
  rw [bridgeObject] at h
  split at h
  · cases h
    exact List.forall_mem_singleton.mpr rfl
  · cases h

theorem genExecuteMsg_owners {msg : EncodeObject} (h : genExecuteMsg env this = .ok msg) :
    Keeps this.currentChainAddress msg.owners := by
  rw [genExecuteMsg_eq] at h
  cases generate_cases h with
  | bridge _ hmsg => exact bridgeObject_owners hmsg
  | swap _ _ hpost => exact executeObject_owners (getPostAction_owners hpost)

end OsmosisMsg

namespace CosmosMsg

variable {env : Environment} {this : CosmosMsg}

theorem genMemoAsMiddleware_owners {r : MiddlewareResponse}
    (h : genMemoAsMiddleware env this = .ok r) :
    MemoKeeps this.currentChainAddress r.memo := by
  obtain ⟨bridge, -, h⟩ := bind_eq_ok.mp h
  cases h
  exact ⟨_, rfl, List.forall_mem_nil _⟩

theorem genExecuteMsg_owners {msg : EncodeObject} (h : genExecuteMsg env this = .ok msg) :
    Keeps this.currentChainAddress msg.owners := by
  obtain ⟨bridge, -, h⟩ := bind_eq_ok.mp h
  split at h
  · cases h
  · cases h
    exact List.forall_mem_singleton.mpr rfl

end CosmosMsg

section Build

variable {env : Environment} {addresses : String → Option String} {slippage : Slippage}

theorem Remembers.kept {this : ChainMsg} {path : Path} {receiver : Option String} {memo : MemoText}
    (h : Remembers this path receiver (addresses path.chainId) memo) {owners : List String}
    (hkeeps : Keeps this.currentChainAddress owners) : KeptBy addresses path owners :=
  ⟨_, this.currentChainAddress_ne, h.address, hkeeps⟩

theorem buildMemoSwap_owners {path : Path} {receiver previousChain : Option String}
    {memo : MemoText} {r : MiddlewareResponse}
    (h : buildMemoSwap env addresses slippage path receiver memo previousChain = .ok r) :
    ∃ owned, openOwners r.memo = some owned ∧ KeptBy addresses path owned.owners := by
  rw [buildMemoSwap] at h
  split at h
  · obtain ⟨this, hthis, hgen⟩ := bind_eq_ok.mp h
    have hkeeps : MemoKeeps this.currentChainAddress r.memo := by
      split at hgen
      · exact OraichainMsg.genMemoForIbcWasm_owners hgen
      · exact OraichainMsg.genMemoAsMiddleware_owners hgen
    obtain ⟨owned, hopen, howners⟩ := hkeeps
    exact ⟨owned, hopen, (oraichainMsg_ok hthis).1.kept howners⟩
  · split at h
    · obtain ⟨this, hthis, hgen⟩ := bind_eq_ok.mp h
      obtain ⟨owned, hopen, howners⟩ := OsmosisMsg.genMemoAsMiddleware_owners hgen
      exact ⟨owned, hopen, (osmosisMsg_ok hthis).kept howners⟩
    · obtain ⟨this, hthis, hgen⟩ := bind_eq_ok.mp h
      obtain ⟨owned, hopen, howners⟩ := CosmosMsg.genMemoAsMiddleware_owners hgen
      exact ⟨owned, hopen, (cosmosMsg_ok hthis).1.kept howners⟩

theorem buildExecuteMsg_owners {path : Path} {receiver : Option String} {memo : MemoText}
    {msg : EncodeObject} (h : buildExecuteMsg env addresses slippage path receiver memo = .ok msg) :
    KeptBy addresses path msg.owners := by
  rw [buildExecuteMsg] at h
  split at h
  · obtain ⟨this, hthis, hgen⟩ := bind_eq_ok.mp h
    exact (oraichainMsg_ok hthis).1.kept (OraichainMsg.genExecuteMsg_owners hgen)
  · split at h
    · obtain ⟨this, hthis, hgen⟩ := bind_eq_ok.mp h
      exact (osmosisMsg_ok hthis).kept (OsmosisMsg.genExecuteMsg_owners hgen)
    · obtain ⟨this, hthis, hgen⟩ := bind_eq_ok.mp h
      exact (cosmosMsg_ok hthis).1.kept (CosmosMsg.genExecuteMsg_owners hgen)

def LayersKept (addresses : String → Option String) (paths : List Path)
    (layers : List (List String)) : Prop :=
  ∀ (i : Nat) owners, layers[i]? = some owners →
    ∃ path, paths[i]? = some path ∧ KeptBy addresses path owners

theorem LayersKept.text (addresses : String → Option String) (paths : List Path) (s : String) :
    LayersKept addresses paths (memoOwners (.text s)) := by
  rw [memoOwners, unwrap_closed (E := ownership) rfl]
  intro i owners hi
  cases hi

theorem LayersKept.cons {path : Path} {rest : List Path} {owners : List String}
    {layers : List (List String)} (hkept : KeptBy addresses path owners)
    (h : LayersKept addresses rest layers) :
    LayersKept addresses (path :: rest) (owners :: layers) := by
  intro i owners' hi
  cases i with
  | zero =>
    cases hi
    exact ⟨path, rfl, hkept⟩
  | succ i => exact h i owners' hi

theorem Leaves.layersKept {path : Path} {receiver destPrefix : String} {memo : MemoText}
    {obridgeAddress : Option String} {e : Exit}
    (hleaves : Leaves env path receiver memo destPrefix obridgeAddress e) {rest : List Path}
    (h : LayersKept addresses rest (memoOwners memo)) :
    LayersKept addresses rest (memoOwners e.memo) := by
  rcases hleaves.memo_cases with hmemo | ⟨s, hmemo⟩
  · rw [hmemo]
    exact h
  · rw [hmemo]
    exact .text addresses rest s

theorem buildMemoSwap_layersKept {path : Path} {rest : List Path}
    {receiver previousChain : Option String} {memo : MemoText} {r : MiddlewareResponse}
    (h : buildMemoSwap env addresses slippage path receiver memo previousChain = .ok r)
    (hrest : LayersKept addresses rest (memoOwners memo)) :
    LayersKept addresses (path :: rest) (memoOwners r.memo) := by
  obtain ⟨paid, l, -, hopen, hlayer⟩ := (buildMemoSwap_step h).layer
  obtain ⟨owned, howned, hkept⟩ := buildMemoSwap_owners h
  obtain ⟨owned', howned', hmemo⟩ := openOwners_memo hopen
  obtain rfl := Option.some.inj (howned.symm.trans howned')
  rw [memoOwners, unwrap_opened (E := ownership) howned, List.map_cons]
  refine LayersKept.cons hkept ?_
  change LayersKept addresses rest (memoOwners owned.memo)
  rw [hmemo]
  exact hlayer.leaves.layersKept hrest

theorem memoLoop_layersKept {receiver : Option String} {rest : List Path} :
    ∀ {previousChain : String} {memo : MemoText} {receiver' : Option String},
      memoLoop env addresses slippage receiver previousChain rest = .ok (memo, receiver') →
      LayersKept addresses rest (memoOwners memo) := by
  induction rest with
  | nil =>
    intro previousChain memo receiver' h
    cases h
    exact .text addresses [] ""
  | cons next rest ih =>
    intro previousChain memo receiver' h
    obtain ⟨⟨memo', receiver''⟩, hrest, h⟩ := bind_eq_ok.mp h
    obtain ⟨response, hbuild, h⟩ := bind_eq_ok.mp h
    cases h
    exact buildMemoSwap_layersKept hbuild (ih hrest)

theorem recovery_addresses_kept (env : Environment) (addresses : String → Option String)
    (slippage : Slippage) (route : Route) (recipientAddress previousChain : Option String) :
    (∀ msg, generateMsgSwap env addresses slippage route recipientAddress = .ok msg →
      LayersKept addresses route.paths (messageOwners msg)) ∧
    (∀ r, generateMemoSwap env addresses slippage route recipientAddress previousChain = .ok r →
      LayersKept addresses route.paths (memoOwners r.memo)) := by
  constructor
  · intro msg h
    rw [generateMsgSwap] at h
    split at h
    · cases h
    · rename_i path rest hpaths
      obtain ⟨receiver, -, h⟩ := bind_eq_ok.mp h
      obtain ⟨⟨memo, receiver'⟩, hloop, hexecute⟩ := bind_eq_ok.mp h
      obtain ⟨paid, -, hlayer⟩ := buildExecuteMsg_layer hexecute
      rw [hpaths]
      exact LayersKept.cons (buildExecuteMsg_owners hexecute)
        (hlayer.leaves.layersKept (memoLoop_layersKept hloop))
  · intro r h
    rw [generateMemoSwap] at h
    split at h
    · cases h
      exact .text addresses _ ""
    · rename_i path rest hpaths
      obtain ⟨receiver, -, h⟩ := bind_eq_ok.mp h
      obtain ⟨⟨memo, receiver'⟩, hloop, hbuild⟩ := bind_eq_ok.mp h
      rw [hpaths]
      exact buildMemoSwap_layersKept hbuild (memoLoop_layersKept hloop)

end Build

theorem two_paths_kept :
    ∃ msg, generateMsgSwap exampleEnvironment exampleAddresses exampleSlippage
        ⟨"100", "50", [bridgeFromOsmosis, swapOnOraichain]⟩ none = .ok msg ∧
      LayersKept exampleAddresses [bridgeFromOsmosis, swapOnOraichain] (messageOwners msg) := by
  have hrun : ∃ msg, generateMsgSwap exampleEnvironment exampleAddresses exampleSlippage
      ⟨"100", "50", [bridgeFromOsmosis, swapOnOraichain]⟩ none = .ok msg := ⟨_, rfl⟩
  obtain ⟨msg, hmsg⟩ := hrun
  exact ⟨msg, hmsg, (recovery_addresses_kept _ _ _ _ _ none).1 msg hmsg⟩

end OraidexSdk.Message
