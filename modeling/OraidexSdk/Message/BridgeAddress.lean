import OraidexSdk.Loops.Lookup
import OraidexSdk.Message.Failures
import OraidexSdk.Message.Nesting

namespace OraidexSdk.Message
open Js Outcome OptionalLookup ChainMsg

-- How a path ends: with a memo for the ibc wasm module, a memo for another
-- middleware, or the message that the sender signs.
inductive Finish where
  | ibcWasm
  | middleware
  | execute
deriving DecidableEq, Repr

def bridgesByWasm (finish : Finish) (hasSwap toTon : Bool) (port : String) : Bool :=
  startsWith port "wasm" &&
    match finish with
    | .ibcWasm => ! toTon
    | .middleware => hasSwap && ! toTon
    | .execute => ! (hasSwap && toTon)

-- What a finished path does with the bridge address: nothing unless it writes, and then
-- it needs a prefix and an address.
structure ReadsAddress {β : Type} (noPrefix writes : Prop) (g : String → Except JsError β) : Prop where
  same : ¬ writes → ∀ x y, g x = g y
  quiet : ¬ writes → ∀ x, FailsWith Unrelated (g x)
  stops : writes → ∀ x, noPrefix ∨ x = "" → g x = .error missingPrefixOrAddress
  passes : writes → ¬ noPrefix → ∀ x, x ≠ "" → FailsWith Unrelated (g x)

namespace ReadsAddress

variable {β γ : Type} {noPrefix writes : Prop} {g : String → Except JsError β}

theorem const (hwrites : ¬ writes) (hg : ∀ x y, g x = g y) (h : FailsWith Unrelated (g "")) :
    ReadsAddress noPrefix writes g where
  same := fun _ => hg
  quiet := fun _ x => hg "" x ▸ h
  stops := fun hw => absurd hw hwrites
  passes := fun hw => absurd hw hwrites

theorem ite {c : Prop} [Decidable c] {f : String → Except JsError β}
    (hf : c → ReadsAddress noPrefix writes f) (hg : ¬ c → ReadsAddress noPrefix writes g) :
    ReadsAddress noPrefix writes fun x => if c then f x else g x := by
  by_cases hc : c
  · simp only [hc, if_true]
    exact hf hc
  · simp only [hc, if_false]
    exact hg hc

theorem bind (h : ReadsAddress noPrefix writes g) {k : String → β → Except JsError γ}
    (hsame : ∀ b x y, k x b = k y b) (hk : ∀ b x, FailsWith Unrelated (k x b)) :
    ReadsAddress noPrefix writes fun x => g x >>= k x where
  same := by
    intro hw x y
    rw [h.same hw x y, funext fun b => hsame b x y]
  quiet := fun hw x => FailsWith.bind (h.quiet hw x) fun b _ => hk b x
  stops := by
    intro hw x hx
    rw [h.stops hw x hx]
    rfl
  passes := fun hw hp x hx => FailsWith.bind (h.passes hw hp x hx) fun b _ => hk b x

theorem map (h : ReadsAddress noPrefix writes g) (f : β → γ) :
    ReadsAddress noPrefix writes fun x => f <$> g x := by
  simp only [map_eq_pure_bind]
  exact h.bind (fun _ _ _ => rfl) fun _ _ => FailsWith.ok _

theorem of_iff {writes' : Prop} (h : ReadsAddress noPrefix writes g) (hw : writes' ↔ writes) :
    ReadsAddress noPrefix writes' g := by
  rw [propext hw]
  exact h

end ReadsAddress

namespace OraichainMsg

variable (env : Environment)

def setBridge (this : OraichainMsg) (obridgeAddress : Option String) : OraichainMsg :=
  { this with obridgeAddress := obridgeAddress }

def withBridge (this : OraichainMsg) (obridgeAddress : String) : OraichainMsg :=
  this.setBridge (some obridgeAddress)

def WritesEvm (finish : Finish) (this : OraichainMsg) : Prop :=
  env.isEthAddress this.receiver = true ∧
    ∃ swapOps bridgeInfo, getSwapAndBridgeInfo env this = .ok (swapOps, some bridgeInfo) ∧
      bridgesByWasm finish (! swapOps.isEmpty) (isTonChain bridgeInfo.toChain)
        bridgeInfo.sourcePort = true

variable {env} (this : OraichainMsg)

theorem info_withBridge (x : String) :
    getSwapAndBridgeInfo env (this.withBridge x) = getSwapAndBridgeInfo env this := rfl

theorem ibcWasmInfo_evm (bridgeInfo : BridgeMsgInfo) (heth : env.isEthAddress this.receiver = true)
    (x : String) :
    ibcWasmInfo env (this.withBridge x) bridgeInfo =
      if this.destPrefix = "" ∨ x = "" then .error missingPrefixOrAddress
      else .ok ⟨bridgeInfo.sourceChannel, x, this.destPrefix ++ bridgeInfo.toToken,
        .text (this.destPrefix ++ this.receiver)⟩ :=
  if_pos heth

theorem ibcWasmInfo_plain (bridgeInfo : BridgeMsgInfo)
    (heth : ¬ env.isEthAddress this.receiver = true) (x : String) :
    ibcWasmInfo env (this.withBridge x) bridgeInfo =
      .ok ⟨bridgeInfo.sourceChannel, this.receiver, "" ++ bridgeInfo.toToken, this.memo⟩ :=
  if_neg heth

theorem ibcWasmInfo_reads_address (bridgeInfo : BridgeMsgInfo) :
    ReadsAddress (this.destPrefix = "") (env.isEthAddress this.receiver = true)
      fun x => ibcWasmInfo env (this.withBridge x) bridgeInfo where
  same := by
    intro heth x y
    rw [ibcWasmInfo_plain this bridgeInfo heth x, ibcWasmInfo_plain this bridgeInfo heth y]
  quiet := by
    intro heth x
    rw [ibcWasmInfo_plain this bridgeInfo heth x]
    exact FailsWith.ok _
  stops := by
    intro heth x hx
    rw [ibcWasmInfo_evm this bridgeInfo heth x, if_pos hx]
  passes := by
    intro heth hdest x hx
    rw [ibcWasmInfo_evm this bridgeInfo heth x, if_neg (not_or.mpr ⟨hdest, hx⟩)]
    exact FailsWith.ok _

def WasmBranch (env : Environment) (this : OraichainMsg) (bridgeInfo : BridgeMsgInfo) : Prop :=
  env.isEthAddress this.receiver = true ∧ isTonChain bridgeInfo.toChain = false ∧
    startsWith bridgeInfo.sourcePort "wasm" = true

theorem transfer_not_wasm {port : String} (h : startsWith port "wasm" = true) :
    port ≠ "transfer" := by
  rintro rfl
  exact absurd h (by decide)

theorem branches_read {β : Type} (bridgeInfo : BridgeMsgInfo) {ton transfer other : String → Except JsError β}
    (wasm : IbcWasmInfo MemoText → β) (hton : ∀ x y, ton x = ton y)
    (hton_fails : FailsWith Unrelated (ton "")) (htransfer : ∀ x y, transfer x = transfer y)
    (htransfer_fails : FailsWith Unrelated (transfer "")) (hother : ∀ x y, other x = other y)
    (hother_fails : FailsWith Unrelated (other "")) :
    ReadsAddress (this.destPrefix = "") (WasmBranch env this bridgeInfo) fun x =>
      if isTonChain bridgeInfo.toChain then ton x
      else if bridgeInfo.sourcePort = "transfer" then transfer x
      else if startsWith bridgeInfo.sourcePort "wasm" then
        wasm <$> ibcWasmInfo env (this.withBridge x) bridgeInfo
      else other x := by
  refine ReadsAddress.ite (fun htonChain => ?_) fun htonChain => ?_
  · have hbranch : ¬ WasmBranch env this bridgeInfo := by
      rintro ⟨-, hno, -⟩
      rw [htonChain] at hno
      cases hno
    exact ReadsAddress.const hbranch hton hton_fails
  · refine ReadsAddress.ite (fun hport => ?_) fun hport => ?_
    · have hbranch : ¬ WasmBranch env this bridgeInfo := fun h => transfer_not_wasm h.2.2 hport
      exact ReadsAddress.const hbranch htransfer htransfer_fails
    · refine ReadsAddress.ite (fun hwasm => ?_) fun hwasm => ?_
      · have hbranch : WasmBranch env this bridgeInfo ↔ env.isEthAddress this.receiver = true :=
          and_iff_left ⟨Bool.eq_false_iff.mpr htonChain, hwasm⟩
        exact ((ibcWasmInfo_reads_address this bridgeInfo).map wasm).of_iff hbranch
      · have hbranch : ¬ WasmBranch env this bridgeInfo := fun h => hwasm h.2.2
        exact ReadsAddress.const hbranch hother hother_fails

theorem jetton_fails {β : Type} (denom before after : String) (call : String → β) :
    FailsWith Unrelated (match truthy (JETTONS_ADDRESS.lookup denom) with
      | none => (.error (.thrown (before ++ denom ++ after)) : Except JsError β)
      | some jettonToToken => .ok (call jettonToToken)) := by
  split
  · exact fails_literal ⟨nofun, nofun⟩
  · exact FailsWith.ok _

theorem getPostAction_reads_address (bridgeInfo : BridgeMsgInfo) :
    ReadsAddress (this.destPrefix = "") (WasmBranch env this bridgeInfo)
      fun x => getPostAction env (this.withBridge x) (some bridgeInfo) :=
  branches_read this bridgeInfo PostAction.ibcWasmTransfer (fun _ _ => rfl) (jetton_fails _ _ _ _)
    (fun _ _ => rfl) (FailsWith.ok _) (fun _ _ => rfl) (fails_literal (by decide))

theorem getProtoForPostAction_reads_address (bridgeInfo : BridgeMsgInfo) :
    ReadsAddress (this.destPrefix = "") (WasmBranch env this bridgeInfo)
      fun x => getProtoForPostAction env (this.withBridge x) (some bridgeInfo) :=
  branches_read this bridgeInfo MemoPostAction.ibcWasmTransferMsg (fun _ _ => rfl)
    (jetton_fails _ _ _ _) (fun _ _ => rfl) (FailsWith.ok _) (fun _ _ => rfl)
    (fails_literal (by decide))

variable {this}

theorem not_writesEvm_of_error {finish : Finish} {e : JsError}
    (h : getSwapAndBridgeInfo env this = .error e) : ¬ WritesEvm env finish this := by
  rintro ⟨-, swapOps, bridgeInfo, hok, -⟩
  rw [h] at hok
  cases hok

theorem not_writesEvm_of_none {finish : Finish} {swapOps : List SwapOperation}
    (h : getSwapAndBridgeInfo env this = .ok (swapOps, none)) : ¬ WritesEvm env finish this := by
  rintro ⟨-, ops, bridgeInfo, hok, -⟩
  rw [h] at hok
  cases hok

theorem writesEvm_iff {finish : Finish} {swapOps : List SwapOperation} {bridgeInfo : BridgeMsgInfo}
    (h : getSwapAndBridgeInfo env this = .ok (swapOps, some bridgeInfo)) :
    WritesEvm env finish this ↔ env.isEthAddress this.receiver = true ∧
      bridgesByWasm finish (! swapOps.isEmpty) (isTonChain bridgeInfo.toChain)
        bridgeInfo.sourcePort = true := by
  constructor
  · rintro ⟨heth, ops, info, hok, hwasm⟩
    rw [h] at hok
    cases hok
    exact ⟨heth, hwasm⟩
  · rintro ⟨heth, hwasm⟩
    exact ⟨heth, swapOps, bridgeInfo, h, hwasm⟩

theorem writesEvm_iff_branch {finish : Finish} {swapOps : List SwapOperation}
    {bridgeInfo : BridgeMsgInfo}
    (h : getSwapAndBridgeInfo env this = .ok (swapOps, some bridgeInfo))
    (hfinish : finish = .ibcWasm ∨ swapOps ≠ []) :
    WritesEvm env finish this ↔ WasmBranch env this bridgeInfo := by
  rw [writesEvm_iff h, WasmBranch]
  rcases hfinish with rfl | hne
  · simp [bridgesByWasm, and_comm]
  · cases finish <;> simp [bridgesByWasm, hne, and_comm]

theorem genMemoForIbcWasm_reads_address (this : OraichainMsg) :
    ReadsAddress (this.destPrefix = "") (WritesEvm env .ibcWasm this)
      fun x => genMemoForIbcWasm env (this.withBridge x) := by
  simp only [genMemoForIbcWasm, info_withBridge]
  cases h : getSwapAndBridgeInfo env this with
  | error e =>
    have he := getSwapAndBridgeInfo_fails env this e h
    exact ReadsAddress.const (not_writesEvm_of_error h) (fun _ _ => rfl) (fails_literal he)
  | ok info =>
    obtain ⟨swapOps, bridge⟩ := info
    simp only [ok_bind]
    cases bridge with
    | none => exact ReadsAddress.const (not_writesEvm_of_none h) (fun _ _ => rfl) (FailsWith.ok _)
    | some bridgeInfo =>
      have hbranch : WritesEvm env .ibcWasm this ↔ WasmBranch env this bridgeInfo :=
        writesEvm_iff_branch h (.inl rfl)
      exact ((getProtoForPostAction_reads_address this bridgeInfo).of_iff hbranch).bind (fun _ _ _ => rfl)
        fun _ _ => FailsWith.ok _

theorem generate_reads_address {M : Type} (this : OraichainMsg) {finish : Finish}
    {bridgeOnly : String → BridgeMsgInfo → Except JsError M}
    {message : String → List SwapOperation → SwapOperation → PostAction MemoText → M}
    (hmessage : ∀ x y, message x = message y)
    (hbridge : ∀ bridgeInfo, getSwapAndBridgeInfo env this = .ok ([], some bridgeInfo) →
      ReadsAddress (this.destPrefix = "") (WritesEvm env finish this) fun x => bridgeOnly x bridgeInfo) :
    ReadsAddress (this.destPrefix = "") (WritesEvm env finish this) fun x =>
      generate (getSwapAndBridgeInfo env this) (bridgeOnly x) (getPostAction env (this.withBridge x))
        (message x) := by
  unfold generate
  cases h : getSwapAndBridgeInfo env this with
  | error e =>
    have he := getSwapAndBridgeInfo_fails env this e h
    exact ReadsAddress.const (not_writesEvm_of_error h) (fun _ _ => rfl) (fails_literal he)
  | ok info =>
    obtain ⟨swapOps, bridgeInfo⟩ := info
    simp only [ok_bind]
    cases hlast : swapOps.getLast? with
    | none =>
      cases List.getLast?_eq_none_iff.mp hlast
      cases bridgeInfo with
      | none =>
        exact ReadsAddress.const (not_writesEvm_of_none h) (fun _ _ => rfl) (fails_literal (by decide))
      | some bridgeInfo => exact hbridge bridgeInfo h
    | some operation =>
      have hne : swapOps ≠ [] := by
        rintro rfl
        cases hlast
      cases bridgeInfo with
      | none =>
        refine ReadsAddress.const (not_writesEvm_of_none h) (fun x y => ?_) (FailsWith.ok _)
        simp only [hmessage x y]
        rfl
      | some bridgeInfo =>
        have hbranch : WritesEvm env finish this ↔ WasmBranch env this bridgeInfo :=
          writesEvm_iff_branch h (.inr hne)
        refine ((getPostAction_reads_address this bridgeInfo).of_iff hbranch).bind (fun _ x y => ?_)
          fun _ _ => FailsWith.ok _
        rw [hmessage x y]

theorem bridgeMemo_reads_address (this : OraichainMsg) {bridgeInfo : BridgeMsgInfo}
    (h : getSwapAndBridgeInfo env this = .ok ([], some bridgeInfo)) :
    ReadsAddress (this.destPrefix = "") (WritesEvm env .middleware this)
      fun x => bridgeMemo env (this.withBridge x) bridgeInfo := by
  have hwrites : ¬ WritesEvm env .middleware this := by
    rw [writesEvm_iff h]
    simp [bridgesByWasm]
  unfold bridgeMemo
  refine ReadsAddress.ite (fun hton => ?_) fun hton => ?_
  · have hbranch : ¬ WasmBranch env this bridgeInfo := by
      rintro ⟨-, hno, -⟩
      rw [hton] at hno
      cases hno
    have hpost : ReadsAddress (this.destPrefix = "") (WasmBranch env this bridgeInfo)
        fun x => getProtoForPostAction env (this.withBridge x) (some bridgeInfo) :=
      getProtoForPostAction_reads_address this bridgeInfo
    refine ReadsAddress.const hwrites (fun x y => ?_) ?_
    · simp only [hpost.same hbranch x y]
      rfl
    · exact FailsWith.bind (hpost.quiet hbranch "") fun _ _ => FailsWith.ok _
  · refine ReadsAddress.const hwrites (fun _ _ => rfl) ?_
    exact FailsWith.ite (fun _ => FailsWith.ok _) fun _ => fails_literal (by decide)

theorem genBridgeMsg_reads_address (this : OraichainMsg) {bridgeInfo : BridgeMsgInfo}
    (h : getSwapAndBridgeInfo env this = .ok ([], some bridgeInfo)) :
    ReadsAddress (this.destPrefix = "") (WritesEvm env .execute this)
      fun x => genBridgeMsg env (this.withBridge x) bridgeInfo := by
  have hwrites : WritesEvm env .execute this ↔ env.isEthAddress this.receiver = true ∧
      startsWith bridgeInfo.sourcePort "wasm" = true := by
    rw [writesEvm_iff h]
    simp [bridgesByWasm]
  unfold genBridgeMsg
  refine ReadsAddress.ite (fun hport => ?_) fun hport => ?_
  · have hno : ¬ WritesEvm env .execute this := fun hw =>
      transfer_not_wasm (hwrites.mp hw).2 hport.1
    exact ReadsAddress.const hno (fun _ _ => rfl) (FailsWith.ok _)
  · refine ReadsAddress.ite (fun hwasm => ?_) fun hwasm => ?_
    · have hbranch : WritesEvm env .execute this ↔ env.isEthAddress this.receiver = true :=
        hwrites.trans (and_iff_left hwasm)
      refine ((ibcWasmInfo_reads_address this bridgeInfo).of_iff hbranch).bind (fun _ _ _ => rfl) ?_
      intro info x
      split
      · exact fails_literal (by decide)
      · exact FailsWith.ok _
    · have hno : ¬ WritesEvm env .execute this := fun hw => hwasm (hwrites.mp hw).2
      refine ReadsAddress.const hno (fun _ _ => rfl) ?_
      refine FailsWith.ite (fun _ => jetton_fails _ _ _ _) fun _ => fails_literal (by decide)

theorem genMemoAsMiddleware_reads_address (this : OraichainMsg) :
    ReadsAddress (this.destPrefix = "") (WritesEvm env .middleware this)
      fun x => genMemoAsMiddleware env (this.withBridge x) := by
  simp only [genMemoAsMiddleware_eq, info_withBridge]
  exact generate_reads_address this (fun _ _ => rfl) fun _ => bridgeMemo_reads_address this

theorem genExecuteMsg_reads_address (this : OraichainMsg) :
    ReadsAddress (this.destPrefix = "") (WritesEvm env .execute this)
      fun x => genExecuteMsg env (this.withBridge x) := by
  simp only [genExecuteMsg_eq, info_withBridge]
  exact generate_reads_address this (fun _ _ => rfl) fun _ => genBridgeMsg_reads_address this

end OraichainMsg

-- One turn of the loop, or the message after it: what the variables hold before.
structure Turn where
  path : Path
  receiver : Option String
  memo : MemoText
  finish : Finish

section Run

variable (env : Environment) (addresses : String → Option String) (slippage : Slippage)

-- An undefined address and an empty one are the same to every check.
def withBridgeAddress (address : String) : String → Option String :=
  Function.update addresses ORAIBRIDGE_SUBNET (some address)

def Turn.prepared (turn : Turn) (destPrefix : String) : Except JsError OraichainMsg := do
  let msg ← OraichainMsg.new turn.path "1" turn.receiver (addresses turn.path.chainId) turn.memo
    destPrefix none
  msg.setMinimumReceiveForSwap env slippage

-- A turn that stops without a bridge address: at the guard, for a destination that is
-- not an EVM chain, or where it writes the address for one that is.
inductive Turn.Asks (turn : Turn) : JsError → Prop where
  | guard {destPrefix : String} (hchain : turn.path.chainId = "Oraichain")
      (hdest : getDestPrefixForBridgeToEvmOnOrai turn.path.tokenOutChainId = .ok destPrefix)
      (hevm : env.isEvmChain turn.path.tokenOutChainId = false) :
      Turn.Asks turn missingBridgeAddress
  | write {destPrefix : String} {msg : OraichainMsg} (hchain : turn.path.chainId = "Oraichain")
      (hdest : getDestPrefixForBridgeToEvmOnOrai turn.path.tokenOutChainId = .ok destPrefix)
      (hevm : env.isEvmChain turn.path.tokenOutChainId = true) (hne : destPrefix ≠ "")
      (hmsg : turn.prepared env addresses slippage destPrefix = .ok msg)
      (hwrites : OraichainMsg.WritesEvm env turn.finish msg) :
      Turn.Asks turn missingPrefixOrAddress

inductive Turn.Refuses (turn : Turn) : JsError → Prop where
  | write {msg : OraichainMsg} (hchain : turn.path.chainId = "Oraichain")
      (hdest : getDestPrefixForBridgeToEvmOnOrai turn.path.tokenOutChainId = .ok "")
      (hmsg : turn.prepared env addresses slippage "" = .ok msg)
      (hwrites : OraichainMsg.WritesEvm env turn.finish msg) :
      Turn.Refuses turn missingPrefixOrAddress

variable {env addresses slippage}

theorem new_setBridge (path : Path) (receiver currentChainAddress : Option String)
    (memo : MemoText) (destPrefix : String) (obridgeAddress : Option String) :
    OraichainMsg.new path "1" receiver currentChainAddress memo destPrefix obridgeAddress =
      (·.setBridge obridgeAddress) <$>
        OraichainMsg.new path "1" receiver currentChainAddress memo destPrefix none := by
  unfold OraichainMsg.new
  cases ChainMsg.new path "1" receiver currentChainAddress memo with
  | error e => rfl
  | ok chain =>
    simp only [ok_bind]
    split
    · rfl
    · rfl

theorem setMinimumReceive_setBridge (msg : OraichainMsg) (obridgeAddress : Option String) :
    (msg.setBridge obridgeAddress).setMinimumReceiveForSwap env slippage =
      (·.setBridge obridgeAddress) <$> msg.setMinimumReceiveForSwap env slippage := by
  unfold OraichainMsg.setMinimumReceiveForSwap
  rw [map_bind]
  rfl

theorem oraichainMsg_eq (turn : Turn) :
    oraichainMsg env addresses slippage turn.path turn.receiver turn.memo =
      (do
        let destPrefix ← getDestPrefixForBridgeToEvmOnOrai turn.path.tokenOutChainId
        if (addresses ORAIBRIDGE_SUBNET).getD "" = "" ∧
            env.isEvmChain turn.path.tokenOutChainId = false then
          .error missingBridgeAddress
        else
          (·.setBridge (addresses ORAIBRIDGE_SUBNET)) <$>
            turn.prepared env addresses slippage destPrefix) := by
  unfold oraichainMsg
  refine bind_congr fun destPrefix => ?_
  dsimp only
  split
  · rfl
  · rw [new_setBridge, Turn.prepared]
    cases OraichainMsg.new turn.path "1" turn.receiver (addresses turn.path.chainId) turn.memo
      destPrefix none with
    | error e => rfl
    | ok msg => exact setMinimumReceive_setBridge msg (addresses ORAIBRIDGE_SUBNET)

theorem prepared_congr {addresses' : String → Option String} {turn : Turn}
    (h : addresses turn.path.chainId = addresses' turn.path.chainId) (destPrefix : String) :
    turn.prepared env addresses slippage destPrefix =
      turn.prepared env addresses' slippage destPrefix := by
  rw [Turn.prepared, Turn.prepared, h]

theorem oraichainMsg_withBridge {turn : Turn} (hchain : turn.path.chainId = "Oraichain")
    (address : String) :
    oraichainMsg env (withBridgeAddress addresses address) slippage turn.path turn.receiver turn.memo =
      (do
        let destPrefix ← getDestPrefixForBridgeToEvmOnOrai turn.path.tokenOutChainId
        if address = "" ∧ env.isEvmChain turn.path.tokenOutChainId = false then
          .error missingBridgeAddress
        else (·.withBridge address) <$> turn.prepared env addresses slippage destPrefix) := by
  have hbridge : withBridgeAddress addresses address ORAIBRIDGE_SUBNET = some address :=
    Function.update_self _ _ _
  have hcurrent : withBridgeAddress addresses address turn.path.chainId =
      addresses turn.path.chainId := by
    rw [hchain]
    exact Function.update_of_ne (by decide) _ _
  rw [oraichainMsg_eq]
  simp only [hbridge, Option.getD_some, prepared_congr hcurrent]
  rfl

theorem prepared_destPrefix {turn : Turn} {destPrefix : String} {msg : OraichainMsg}
    (h : turn.prepared env addresses slippage destPrefix = .ok msg) : msg.destPrefix = destPrefix := by
  obtain ⟨fresh, hfresh, hset⟩ := bind_eq_ok.mp h
  obtain ⟨minimumReceive, -, hmsg⟩ := bind_eq_ok.mp hset
  cases hmsg
  obtain ⟨chain, -, hnew⟩ := bind_eq_ok.mp hfresh
  split at hnew
  · cases hnew
    rfl
  · cases hnew

theorem prepared_fails (turn : Turn) (destPrefix : String) :
    FailsWith Unrelated (turn.prepared env addresses slippage destPrefix) :=
  FailsWith.bind (OraichainMsg.new_fails _ _ _ _ _ _ _) fun msg _ =>
    OraichainMsg.setMinimumReceiveForSwap_fails env msg slippage

section Oraichain

variable {β : Type} {turn : Turn} {g : OraichainMsg → Except JsError β} {destPrefix : String}

theorem oraichain_run (hchain : turn.path.chainId = "Oraichain")
    (hdest : getDestPrefixForBridgeToEvmOnOrai turn.path.tokenOutChainId = .ok destPrefix)
    {x : String} (hpass : x = "" → env.isEvmChain turn.path.tokenOutChainId = true) :
    (oraichainMsg env (withBridgeAddress addresses x) slippage turn.path turn.receiver turn.memo >>=
      g) = turn.prepared env addresses slippage destPrefix >>= fun msg => g (msg.withBridge x) := by
  have hguard : ¬ (x = "" ∧ env.isEvmChain turn.path.tokenOutChainId = false) := by
    rintro ⟨hx, hevm⟩
    rw [hpass hx] at hevm
    cases hevm
  rw [oraichainMsg_withBridge hchain, hdest, ok_bind, if_neg hguard]
  cases turn.prepared env addresses slippage destPrefix with
  | error e => rfl
  | ok msg => rfl

theorem oraichain_refused (hchain : turn.path.chainId = "Oraichain")
    (hdest : getDestPrefixForBridgeToEvmOnOrai turn.path.tokenOutChainId = .ok destPrefix)
    (hevm : env.isEvmChain turn.path.tokenOutChainId = false) :
    (oraichainMsg env (withBridgeAddress addresses "") slippage turn.path turn.receiver turn.memo >>=
      g) = .error missingBridgeAddress := by
  rw [oraichainMsg_withBridge hchain, hdest, ok_bind, if_pos ⟨rfl, hevm⟩]
  rfl

variable (hg : ∀ msg : OraichainMsg, ReadsAddress (msg.destPrefix = "")
  (OraichainMsg.WritesEvm env turn.finish msg) fun x => g (msg.withBridge x))
include hg

theorem oraichain_blind (hchain : turn.path.chainId = "Oraichain")
    (hquiet : ∀ e, ¬ turn.Asks env addresses slippage e) (x y : String) :
    (oraichainMsg env (withBridgeAddress addresses x) slippage turn.path turn.receiver turn.memo >>=
      g) = oraichainMsg env (withBridgeAddress addresses y) slippage turn.path turn.receiver
        turn.memo >>= g := by
  cases hdest : getDestPrefixForBridgeToEvmOnOrai turn.path.tokenOutChainId with
  | error e =>
    rw [oraichainMsg_withBridge hchain, oraichainMsg_withBridge hchain, hdest]
    rfl
  | ok destPrefix =>
    have hevm : env.isEvmChain turn.path.tokenOutChainId = true := by
      by_contra hno
      exact hquiet _ (.guard hchain hdest (Bool.eq_false_iff.mpr hno))
    rw [oraichain_run hchain hdest fun _ => hevm, oraichain_run hchain hdest fun _ => hevm]
    cases hmsg : turn.prepared env addresses slippage destPrefix with
    | error e => rfl
    | ok msg =>
      by_cases hwrites : OraichainMsg.WritesEvm env turn.finish msg
      · have hempty : destPrefix = "" := by
          by_contra hne
          exact hquiet _ (.write hchain hdest hevm hne hmsg hwrites)
        have hnone := (prepared_destPrefix hmsg).trans hempty
        exact ((hg msg).stops hwrites x (.inl hnone)).trans
          ((hg msg).stops hwrites y (.inl hnone)).symm
      · exact (hg msg).same hwrites x y

theorem oraichain_fails (hchain : turn.path.chainId = "Oraichain") {x : String} (hx : x ≠ "") :
    FailsWith (fun e => Unrelated e ∨ turn.Refuses env addresses slippage e)
      (oraichainMsg env (withBridgeAddress addresses x) slippage turn.path turn.receiver turn.memo >>=
        g) := by
  cases hdest : getDestPrefixForBridgeToEvmOnOrai turn.path.tokenOutChainId with
  | error e =>
    rw [oraichainMsg_withBridge hchain, hdest]
    exact FailsWith.error (.inl (getDestPrefix_fails _ e hdest))
  | ok destPrefix =>
    rw [oraichain_run hchain hdest fun h => absurd h hx]
    cases hmsg : turn.prepared env addresses slippage destPrefix with
    | error e => exact FailsWith.error (.inl (prepared_fails turn destPrefix e hmsg))
    | ok msg =>
      by_cases hwrites : OraichainMsg.WritesEvm env turn.finish msg
      · by_cases hempty : destPrefix = ""
        · subst hempty
          intro e he
          have hstop := (hg msg).stops hwrites x (.inl (prepared_destPrefix hmsg))
          cases hstop.symm.trans he
          exact .inr (.write hchain hdest hmsg hwrites)
        · have hne : msg.destPrefix ≠ "" := by
            rw [prepared_destPrefix hmsg]
            exact hempty
          exact FailsWith.mono (fun _ => .inl) ((hg msg).passes hwrites hne x hx)
      · exact FailsWith.mono (fun _ => .inl) ((hg msg).quiet hwrites x)

theorem oraichain_depends (hchain : turn.path.chainId = "Oraichain") :
    Depends (Turn.Asks env addresses slippage) (Turn.Refuses env addresses slippage) Unrelated ""
      (fun _ => [turn]) fun x =>
        oraichainMsg env (withBridgeAddress addresses x) slippage turn.path turn.receiver turn.memo >>=
          g := by
  apply Depends.single
  · exact fun hquiet => oraichain_blind hg hchain hquiet
  · intro e hasks
    cases hasks with
    | guard _ hdest hevm => exact oraichain_refused hchain hdest hevm
    | write _ hdest hevm hne hmsg hwrites =>
      rw [oraichain_run hchain hdest fun _ => hevm, hmsg]
      exact (hg _).stops hwrites "" (.inr rfl)
  · intro e hrefuses x hx
    cases hrefuses with
    | write _ hdest hmsg hwrites =>
      rw [oraichain_run hchain hdest fun h => absurd h hx, hmsg]
      exact (hg _).stops hwrites x (.inl (prepared_destPrefix hmsg))
  · exact fun x hx => oraichain_fails hg hchain hx

end Oraichain

theorem oraichain_congr {β : Type} {addresses' : String → Option String} (turn : Turn)
    (hcurrent : addresses' turn.path.chainId = addresses turn.path.chainId)
    (hbridge : (addresses' ORAIBRIDGE_SUBNET).getD "" = (addresses ORAIBRIDGE_SUBNET).getD "")
    {g : OraichainMsg → Except JsError β}
    (hg : ∀ (msg : OraichainMsg) (o : Option String), g (msg.setBridge o) = g (msg.withBridge (o.getD ""))) :
    (oraichainMsg env addresses' slippage turn.path turn.receiver turn.memo >>= g) =
      oraichainMsg env addresses slippage turn.path turn.receiver turn.memo >>= g := by
  rw [oraichainMsg_eq, oraichainMsg_eq, hbridge]
  simp only [bind_assoc]
  refine bind_congr fun destPrefix => ?_
  split
  · rfl
  · rw [prepared_congr hcurrent]
    cases turn.prepared env addresses slippage destPrefix with
    | error e => rfl
    | ok msg =>
      calc g (msg.setBridge (addresses' ORAIBRIDGE_SUBNET))
          = g (msg.withBridge ((addresses' ORAIBRIDGE_SUBNET).getD "")) := hg msg _
        _ = g (msg.withBridge ((addresses ORAIBRIDGE_SUBNET).getD "")) := by rw [hbridge]
        _ = g (msg.setBridge (addresses ORAIBRIDGE_SUBNET)) := (hg msg _).symm

theorem osmosis_congr {addresses' : String → Option String} {path : Path}
    (hcurrent : addresses' path.chainId = addresses path.chainId) (receiver : Option String)
    (memo : MemoText) :
    osmosisMsg env addresses' slippage path receiver memo =
      osmosisMsg env addresses slippage path receiver memo := by
  rw [osmosisMsg, osmosisMsg, hcurrent]

theorem cosmos_congr {addresses' : String → Option String} {path : Path}
    (hcurrent : addresses' path.chainId = addresses path.chainId) (receiver : Option String)
    (memo : MemoText) :
    cosmosMsg env addresses' slippage path receiver memo =
      cosmosMsg env addresses slippage path receiver memo := by
  rw [cosmosMsg, cosmosMsg, hcurrent]

theorem buildMemoSwap_congr {addresses' : String → Option String} {path : Path}
    (hcurrent : addresses' path.chainId = addresses path.chainId)
    (hbridge : (addresses' ORAIBRIDGE_SUBNET).getD "" = (addresses ORAIBRIDGE_SUBNET).getD "")
    (receiver : Option String) (memo : MemoText) (previousChain : Option String) :
    buildMemoSwap env addresses' slippage path receiver memo previousChain =
      buildMemoSwap env addresses slippage path receiver memo previousChain := by
  unfold buildMemoSwap
  split
  · split
    · refine oraichain_congr ⟨path, receiver, memo, .ibcWasm⟩ hcurrent hbridge ?_
      rintro msg (_ | o) <;> rfl
    · refine oraichain_congr ⟨path, receiver, memo, .middleware⟩ hcurrent hbridge ?_
      rintro msg (_ | o) <;> rfl
  · rw [osmosis_congr hcurrent, cosmos_congr hcurrent]

theorem buildExecuteMsg_congr {addresses' : String → Option String} {path : Path}
    (hcurrent : addresses' path.chainId = addresses path.chainId)
    (hbridge : (addresses' ORAIBRIDGE_SUBNET).getD "" = (addresses ORAIBRIDGE_SUBNET).getD "")
    (receiver : Option String) (memo : MemoText) :
    buildExecuteMsg env addresses' slippage path receiver memo =
      buildExecuteMsg env addresses slippage path receiver memo := by
  unfold buildExecuteMsg
  split
  · refine oraichain_congr ⟨path, receiver, memo, .execute⟩ hcurrent hbridge ?_
    rintro msg (_ | o) <;> rfl
  · rw [osmosis_congr hcurrent, cosmos_congr hcurrent]

theorem memoLoop_congr {addresses' : String → Option String} {receiver : Option String}
    (hbridge : (addresses' ORAIBRIDGE_SUBNET).getD "" = (addresses ORAIBRIDGE_SUBNET).getD "") :
    ∀ (rest : List Path) (previousChain : String),
      (∀ path ∈ rest, addresses' path.chainId = addresses path.chainId) →
      memoLoop env addresses' slippage receiver previousChain rest =
        memoLoop env addresses slippage receiver previousChain rest := by
  intro rest
  induction rest with
  | nil => exact fun _ _ => rfl
  | cons path rest ih =>
    intro previousChain hcurrent
    obtain ⟨hpath, hrest⟩ := List.forall_mem_cons.mp hcurrent
    simp only [memoLoop, ih path.chainId hrest, buildMemoSwap_congr hpath hbridge]

def relevantChains (route : Route) : List String :=
  route.paths.map (·.chainId) ++ (route.paths.getLast?.map (·.tokenOutChainId)).toList

theorem chainId_relevant {route : Route} {path : Path} (h : path ∈ route.paths) :
    path.chainId ∈ relevantChains route :=
  List.mem_append_left _ (List.mem_map_of_mem h)

theorem last_relevant {route : Route} {path : Path} (h : route.paths.getLast? = some path) :
    path.tokenOutChainId ∈ relevantChains route := by
  apply List.mem_append_right
  rw [h]
  exact List.mem_cons_self

theorem finalReceiver_congr {addresses' : String → Option String} {tokenOutChainId : String}
    (h : addresses' tokenOutChainId = addresses tokenOutChainId) (recipientAddress : Option String)
    (caller : String) :
    finalReceiver env addresses' tokenOutChainId recipientAddress caller =
      finalReceiver env addresses tokenOutChainId recipientAddress caller := by
  rw [finalReceiver, finalReceiver, h]

theorem generateMsgSwap_congr {addresses' : String → Option String} (route : Route)
    (recipientAddress : Option String)
    (hchains : ∀ chain ∈ relevantChains route, addresses' chain = addresses chain)
    (hbridge : (addresses' ORAIBRIDGE_SUBNET).getD "" = (addresses ORAIBRIDGE_SUBNET).getD "") :
    generateMsgSwap env addresses' slippage route recipientAddress =
      generateMsgSwap env addresses slippage route recipientAddress := by
  have hcurrent : ∀ path ∈ route.paths, addresses' path.chainId = addresses path.chainId :=
    fun path hpath => hchains _ (chainId_relevant hpath)
  have hlast : ∀ path, route.paths.getLast? = some path →
      addresses' path.tokenOutChainId = addresses path.tokenOutChainId :=
    fun path hpath => hchains _ (last_relevant hpath)
  unfold generateMsgSwap
  cases hpaths : route.paths with
  | nil => rfl
  | cons path rest =>
    rw [hpaths] at hcurrent hlast
    obtain ⟨hpath, hrest⟩ := List.forall_mem_cons.mp hcurrent
    have hfinal := hlast _ (List.getLast?_eq_some_getLast (List.cons_ne_nil path rest))
    simp only [finalReceiver_congr hfinal, memoLoop_congr hbridge rest path.chainId hrest,
      buildExecuteMsg_congr hpath hbridge]

variable (env addresses slippage)

def finishAfter (previousChain : String) : Finish :=
  if usesIbcWasm env (some previousChain) then .ibcWasm else .middleware

def loopTurns (receiver : Option String) : String → List Path → List Turn
  | _, [] => []
  | previousChain, path :: rest =>
    loopTurns receiver path.chainId rest ++
      reached (memoLoop env addresses slippage receiver path.chainId rest) fun left =>
        [⟨path, left.2, left.1, finishAfter env previousChain⟩]

def turns (route : Route) (recipientAddress : Option String) : List Turn :=
  match route.paths with
  | [] => []
  | path :: rest =>
    reached (finalReceiver env addresses
        ((path :: rest).getLast (List.cons_ne_nil path rest)).tokenOutChainId recipientAddress
        "generateMsgSwap") fun receiver =>
      loopTurns env addresses slippage receiver path.chainId rest ++
        reached (memoLoop env addresses slippage receiver path.chainId rest) fun left =>
          [⟨path, left.2, left.1, .execute⟩]

variable {env addresses slippage}

theorem withBridgeAddress_other {chain : String} (h : chain ≠ ORAIBRIDGE_SUBNET) (address : String) :
    withBridgeAddress addresses address chain = addresses chain :=
  Function.update_of_ne h _ _

theorem other_depends {β : Type} {turn : Turn} (hpath : turn.path.chainId ≠ ORAIBRIDGE_SUBNET)
    (hchain : turn.path.chainId ≠ "Oraichain") {onOsmosis : OsmosisMsg → Except JsError β}
    {onCosmos : CosmosMsg → Except JsError β} (hosmosis : ∀ msg, FailsWith Unrelated (onOsmosis msg))
    (hcosmos : ∀ msg, FailsWith Unrelated (onCosmos msg)) :
    Depends (Turn.Asks env addresses slippage) (Turn.Refuses env addresses slippage) Unrelated ""
      (fun _ => [turn]) fun x =>
        if turn.path.chainId = "osmosis-1" then
          osmosisMsg env (withBridgeAddress addresses x) slippage turn.path turn.receiver turn.memo >>=
            onOsmosis
        else
          cosmosMsg env (withBridgeAddress addresses x) slippage turn.path turn.receiver turn.memo >>=
            onCosmos := by
  have hcurrent : ∀ x, withBridgeAddress addresses x turn.path.chainId = addresses turn.path.chainId :=
    withBridgeAddress_other hpath
  simp only [osmosis_congr (hcurrent _), cosmos_congr (hcurrent _)]
  apply Depends.quiet
  · intro e hasks
    cases hasks with
    | guard h _ _ => exact hchain h
    | write h _ _ _ _ _ => exact hchain h
  · intro e hrefuses
    cases hrefuses with
    | write h _ _ _ => exact hchain h
  · refine FailsWith.ite (fun _ => ?_) fun _ => ?_
    · exact FailsWith.bind (osmosisMsg_fails _ _ _ _ _ _) fun msg _ => hosmosis msg
    · exact FailsWith.bind (cosmosMsg_fails _ _ _ _ _ _) fun msg _ => hcosmos msg

theorem buildMemoSwap_depends {path : Path} (hpath : path.chainId ≠ ORAIBRIDGE_SUBNET)
    (receiver : Option String) (memo : MemoText) (previousChain : String) :
    Depends (Turn.Asks env addresses slippage) (Turn.Refuses env addresses slippage) Unrelated ""
      (fun _ => [⟨path, receiver, memo, finishAfter env previousChain⟩]) fun x =>
        buildMemoSwap env (withBridgeAddress addresses x) slippage path receiver memo
          (some previousChain) := by
  unfold buildMemoSwap
  by_cases horaichain : path.chainId = "Oraichain"
  · simp only [horaichain, if_true]
    by_cases hibc : usesIbcWasm env (some previousChain) = true
    · have hfinish : finishAfter env previousChain = .ibcWasm := if_pos hibc
      simp only [hibc, if_true, hfinish]
      exact oraichain_depends OraichainMsg.genMemoForIbcWasm_reads_address horaichain
    · have hfinish : finishAfter env previousChain = .middleware := if_neg hibc
      simp only [hibc, hfinish]
      exact oraichain_depends OraichainMsg.genMemoAsMiddleware_reads_address horaichain
  · simp only [horaichain, if_false]
    exact other_depends hpath horaichain (OsmosisMsg.genMemoAsMiddleware_fails env)
      (CosmosMsg.genMemoAsMiddleware_fails env)

theorem buildExecuteMsg_depends {path : Path} (hpath : path.chainId ≠ ORAIBRIDGE_SUBNET)
    (receiver : Option String) (memo : MemoText) :
    Depends (Turn.Asks env addresses slippage) (Turn.Refuses env addresses slippage) Unrelated ""
      (fun _ => [⟨path, receiver, memo, .execute⟩]) fun x =>
        buildExecuteMsg env (withBridgeAddress addresses x) slippage path receiver memo := by
  unfold buildExecuteMsg
  by_cases horaichain : path.chainId = "Oraichain"
  · simp only [horaichain, if_true]
    exact oraichain_depends OraichainMsg.genExecuteMsg_reads_address horaichain
  · simp only [horaichain, if_false]
    exact other_depends hpath horaichain (OsmosisMsg.genExecuteMsg_fails env)
      (CosmosMsg.genExecuteMsg_fails env)

theorem memoLoop_depends {receiver : Option String} :
    ∀ (rest : List Path) (previousChain : String), (∀ path ∈ rest, path.chainId ≠ ORAIBRIDGE_SUBNET) →
      Depends (Turn.Asks env addresses slippage) (Turn.Refuses env addresses slippage) Unrelated ""
        (fun x => loopTurns env (withBridgeAddress addresses x) slippage receiver previousChain rest)
        fun x => memoLoop env (withBridgeAddress addresses x) slippage receiver previousChain rest := by
  intro rest
  induction rest with
  | nil => exact fun _ _ => Depends.const (FailsWith.ok _)
  | cons path rest ih =>
    intro previousChain hpaths
    obtain ⟨hpath, hrest⟩ := List.forall_mem_cons.mp hpaths
    refine (ih path.chainId hrest).bind fun (memo, receiver) => ?_
    exact (buildMemoSwap_depends hpath receiver memo previousChain).map fun swapInfo =>
      (swapInfo.memo, some swapInfo.receiver)

theorem generateMsgSwap_depends {route : Route}
    (hroute : ORAIBRIDGE_SUBNET ∉ relevantChains route) (recipientAddress : Option String) :
    Depends (Turn.Asks env addresses slippage) (Turn.Refuses env addresses slippage) Unrelated ""
      (fun x => turns env (withBridgeAddress addresses x) slippage route recipientAddress)
      fun x => generateMsgSwap env (withBridgeAddress addresses x) slippage route recipientAddress := by
  have hcurrent : ∀ path ∈ route.paths, path.chainId ≠ ORAIBRIDGE_SUBNET := by
    intro path hpath heq
    exact hroute (heq ▸ chainId_relevant hpath)
  have hlast : ∀ path, route.paths.getLast? = some path →
      path.tokenOutChainId ≠ ORAIBRIDGE_SUBNET := by
    intro path hpath heq
    exact hroute (heq ▸ last_relevant hpath)
  unfold generateMsgSwap turns
  cases hpaths : route.paths with
  | nil => exact Depends.const (fails_literal (by decide))
  | cons path rest =>
    rw [hpaths] at hcurrent hlast
    obtain ⟨hpath, hrest⟩ := List.forall_mem_cons.mp hcurrent
    have hfinal := hlast _ (List.getLast?_eq_some_getLast (List.cons_ne_nil path rest))
    simp only [finalReceiver_congr (withBridgeAddress_other hfinal _)]
    refine (Depends.const (finalReceiver_fails env addresses _ recipientAddress)).bind ?_
    intro receiver
    refine (memoLoop_depends rest path.chainId hrest).bind fun (memo, receiver) => ?_
    exact buildExecuteMsg_depends hpath receiver memo

theorem asks_related {turn : Turn} {e : JsError} (h : turn.Asks env addresses slippage e) :
    ¬ Unrelated e := by
  cases h with
  | guard _ _ _ => exact fun hno => hno.1 rfl
  | write _ _ _ _ _ _ => exact fun hno => hno.2 rfl

-- Only whether the bridge address is blank, and what it is if not, is left to vary.
theorem generateMsgSwap_same_iff {route : Route} (hroute : ORAIBRIDGE_SUBNET ∉ relevantChains route)
    (recipientAddress : Option String) :
    (∀ addresses' : String → Option String,
      (∀ chain ∈ relevantChains route, addresses' chain = addresses chain) →
        generateMsgSwap env addresses' slippage route recipientAddress =
          generateMsgSwap env addresses slippage route recipientAddress) ↔
      ∀ x y, generateMsgSwap env (withBridgeAddress addresses x) slippage route recipientAddress =
        generateMsgSwap env (withBridgeAddress addresses y) slippage route recipientAddress := by
  have hchains : ∀ x, ∀ chain ∈ relevantChains route,
      withBridgeAddress addresses x chain = addresses chain := by
    intro x chain hchain
    apply withBridgeAddress_other
    rintro rfl
    exact hroute hchain
  have hblank : ∀ x, (withBridgeAddress addresses x ORAIBRIDGE_SUBNET).getD "" = x := by
    intro x
    rw [withBridgeAddress, Function.update_self, Option.getD_some]
  constructor
  · intro hsame x y
    exact (hsame _ (hchains x)).trans (hsame _ (hchains y)).symm
  · intro hsame addresses' hagree
    have hnormal : ∀ other : String → Option String,
        (∀ chain ∈ relevantChains route, other chain = addresses chain) →
        generateMsgSwap env other slippage route recipientAddress =
          generateMsgSwap env
            (withBridgeAddress addresses ((other ORAIBRIDGE_SUBNET).getD "")) slippage route
            recipientAddress := by
      intro other hother
      apply generateMsgSwap_congr
      · intro chain hchain
        rw [hother chain hchain, hchains _ chain hchain]
      · rw [hblank]
    rw [hnormal addresses' hagree, hnormal addresses fun _ _ => rfl]
    exact hsame _ _

theorem bridge_address_irrelevant_iff (env : Environment) (slippage : Slippage) (route : Route)
    (recipientAddress : Option String) (addresses : String → Option String) :
    (∀ addresses' : String → Option String,
      (∀ chain ∈ relevantChains route, addresses' chain = addresses chain) →
        generateMsgSwap env addresses' slippage route recipientAddress =
          generateMsgSwap env addresses slippage route recipientAddress) ↔
      ORAIBRIDGE_SUBNET ∈ relevantChains route ∨
        (∀ turn ∈ turns env (withBridgeAddress addresses "") slippage route recipientAddress,
          ∀ e, ¬ turn.Asks env addresses slippage e) ∨
        ∃ e, (∃ turn ∈ turns env (withBridgeAddress addresses "") slippage route recipientAddress,
            turn.Asks env addresses slippage e) ∧
          ∀ address, address ≠ "" →
            ∃ turn ∈ turns env (withBridgeAddress addresses address) slippage route recipientAddress,
              turn.Refuses env addresses slippage e := by
  by_cases hroute : ORAIBRIDGE_SUBNET ∈ relevantChains route
  · refine iff_of_true (fun addresses' hagree => ?_) (.inl hroute)
    exact generateMsgSwap_congr route recipientAddress hagree (by rw [hagree _ hroute])
  · rw [generateMsgSwap_same_iff hroute, or_iff_right hroute]
    exact (generateMsgSwap_depends hroute recipientAddress).same_iff fun _ _ => asks_related

end Run

theorem missing_address_stops_swap :
    (∀ path ∈ [swapOnOraichain], exampleEnvironment.isEvmChain path.tokenOutChainId = false) ∧
      (∀ chain ∈ relevantChains ⟨"100", "50", [swapOnOraichain]⟩,
        Function.update exampleAddresses ORAIBRIDGE_SUBNET none chain = exampleAddresses chain) ∧
      generateMsgSwap exampleEnvironment (Function.update exampleAddresses ORAIBRIDGE_SUBNET none)
        exampleSlippage ⟨"100", "50", [swapOnOraichain]⟩ none =
          .error (.ex "Missing oBridge address for oraibridge-subnet-2") ∧
      ∃ msg, generateMsgSwap exampleEnvironment exampleAddresses exampleSlippage
        ⟨"100", "50", [swapOnOraichain]⟩ none = .ok msg :=
  ⟨by decide, by decide, rfl, _, rfl⟩

end OraidexSdk.Message
