import OraidexSdk.Message.PostActions
import OraidexSdk.Loops.Walk

namespace OraidexSdk.Message
open Js Outcome ChainMsg

-- What the router promises about the actions of one path.
structure LinkedActions (path : Path) : Prop where
  linked : path.actions.IsChain fun a next => next.tokenIn = a.tokenOut
  swaps : ∀ a ∈ path.actions, a.type = .swap →
    ∃ infos last, a.swapInfo = some infos ∧ infos.getLast? = some last ∧ last.tokenOut = a.tokenOut

-- The token an action leaves on the chain: a bridge sends what it is given.
def sentToken (a : Action) : String := if a.type = .bridge then a.tokenIn else a.tokenOut

def sentAsset (path : Path) : Option String := path.actions.getLast?.map sentToken

def MinAsset.asset : MinAsset → String
  | cw20 _ address => address
  | native _ denom => denom

def swapRequest : EncodeObject → Option (SwapAndAction MemoText)
  | .msgExecuteContract ⟨_, _, .call (.swapAndAction msg), _⟩ => some msg
  | .msgExecuteContract ⟨_, _, .send _ _ (.swapAndAction msg), _⟩ => some msg
  | _ => none

def swapHook : MemoText → Option (SwapAndAction MemoText)
  | .json (.wasm _ (.swapAndAction msg)) => some msg
  | _ => none

structure Connected (env : Environment) (path : Path) (ops : List SwapOperation)
    (bridge : Option BridgeMsgInfo) : Prop where
  hops : ops.map (fun o => (o.denomOut, o.pool)) = pathHops env path
  linked : ops.IsChain fun o next => next.denomIn = o.denomOut
  first : ∀ o, ops.head? = some o → path.actions.head?.map (·.tokenIn) = some o.denomIn
  last : ∀ o, ops.getLast? = some o → sentAsset path = some o.denomOut
  bridge : ∀ b, bridge = some b → sentAsset path = some b.fromToken

structure SwapChain (env : Environment) (path : Path) (supports : Action → Bool)
    (info : Except JsError (List SwapOperation × Option BridgeMsgInfo))
    (execute : Except JsError EncodeObject) (middleware : Except JsError MiddlewareResponse) :
    Prop where
  connects : (∀ a ∈ path.actions, supports a = true) →
    ∃ ops bridge, info = .ok (ops, bridge) ∧ Connected env path ops bridge
  refuses : (∃ a ∈ path.actions, supports a = false) → ∃ e, info = .error e
  executes : pathHops env path ≠ [] → ∀ obj, execute = .ok obj →
    ∃ msg, swapRequest obj = some msg ∧ sentAsset path = some msg.minAsset.asset
  hooks : pathHops env path ≠ [] → ∀ r, middleware = .ok r →
    ∃ msg, swapHook r.memo = some msg ∧ sentAsset path = some msg.minAsset.asset

section Path

variable (env : Environment)

theorem pathOperations_ne_nil {path : Path} (h : pathHops env path ≠ []) :
    pathOperations env path ≠ [] := by
  rw [← pathOperations_hops] at h
  exact fun hnil => h (by rw [hnil]; rfl)

abbrev Hops : String → List SwapOperation → String → Prop :=
  Walk SwapOperation.denomIn SwapOperation.denomOut

theorem swapOperations_walk {infos : List SwapInfo} {last : SwapInfo}
    (hlast : infos.getLast? = some last) (denomIn : String) :
    Hops denomIn (swapOperations denomIn infos) last.tokenOut := by
  induction infos generalizing denomIn with
  | nil => cases hlast
  | cons info infos ih =>
    refine .cons rfl ?_
    cases infos with
    | nil =>
      cases hlast
      exact .nil _
    | cons next infos =>
      rw [List.getLast?_cons_cons] at hlast
      exact ih hlast info.tokenOut

theorem actionOperations_walk {a : Action} (hsupported : OraichainMsg.supports a = true)
    (hswap : a.type = .swap →
      ∃ infos last, a.swapInfo = some infos ∧ infos.getLast? = some last ∧
        last.tokenOut = a.tokenOut) :
    Hops a.tokenIn (actionOperations env a) (sentToken a) := by
  rw [OraichainMsg.supports] at hsupported
  rw [actionOperations, sentToken]
  cases htype : a.type with
  | swap =>
    obtain ⟨infos, last, hinfos, hlast, hout⟩ := hswap htype
    rw [hinfos, ← hout]
    exact swapOperations_walk hlast a.tokenIn
  | convert => exact .cons rfl (.nil _)
  | bridge => exact .nil _
  | other name =>
    rw [htype] at hsupported
    cases hsupported

theorem sentToken_of_ne {a : Action} (h : a.type ≠ .bridge) : sentToken a = a.tokenOut := if_neg h

theorem LinkedActions.sent_linked {path : Path} (hvalid : validatePath path true = .ok ())
    (h : LinkedActions path) : path.actions.IsChain fun a next => next.tokenIn = sentToken a := by
  obtain ⟨init, last, hsplit, hinit⟩ := actions_split hvalid
  have hlinked := h.linked
  rw [hsplit] at hlinked ⊢
  obtain ⟨hbefore, -, hjoint⟩ := List.isChain_append.mp hlinked
  refine List.isChain_append.mpr ⟨?_, .singleton _, ?_⟩
  · refine hbefore.imp_of_mem_imp fun a next ha _ hnext => ?_
    rw [sentToken_of_ne (hinit a ha)]
    exact hnext
  · intro a ha next hnext
    rw [sentToken_of_ne (hinit a (List.mem_of_getLast? ha))]
    exact hjoint a ha next hnext

theorem pathOperations_walk {path : Path} (hvalid : validatePath path true = .ok ())
    (h : LinkedActions path) (hsupported : ∀ a ∈ path.actions, OraichainMsg.supports a = true) :
    ∃ denomIn token, path.actions.head?.map (·.tokenIn) = some denomIn ∧
      sentAsset path = some token ∧ Hops denomIn (pathOperations env path) token := by
  obtain ⟨init, last, hsplit, -⟩ := actions_split hvalid
  have hne : path.actions ≠ [] := by simp [hsplit]
  refine ⟨_, _, ?_, ?_, Walk.flatMap (h.sent_linked hvalid)
    (fun a ha => actionOperations_walk env (hsupported a ha) (h.swaps a ha)) hne⟩
  · rw [List.head?_eq_some_head hne]
    rfl
  · rw [sentAsset, List.getLast?_eq_some_getLast hne]
    rfl

theorem connected {this : ChainMsg} (h : LinkedActions this.path)
    (hsupported : ∀ a ∈ this.path.actions, OraichainMsg.supports a = true)
    {bridge : Option BridgeMsgInfo} (hread : BridgeRead env this this.path.actions bridge) :
    Connected env this.path (pathOperations env this.path) bridge := by
  obtain ⟨denomIn, token, hfirst, hsent, hwalk⟩ := pathOperations_walk env this.valid h hsupported
  refine ⟨pathOperations_hops env this.path, hwalk.isChain, ?_, ?_, ?_⟩
  · intro o ho
    rw [hfirst, hwalk.head_source ho]
  · intro o ho
    rw [hsent, hwalk.getLast_target ho]
  · rintro b rfl
    rcases hread with ⟨-, hnone⟩ | ⟨a, info, ha, -, hb⟩
    · cases hnone
    · obtain ⟨hlast, htype⟩ := Option.filter_eq_some_iff.mp ha
      cases hb
      rw [sentAsset, hlast]
      exact congrArg some (if_pos (of_decide_eq_true htype))

theorem minAsset_asset (this : ChainMsg) (token : String) : (minAsset env this token).asset = token := by
  rw [minAsset]
  split <;> rfl

theorem swapRequest_executeObject (this : ChainMsg) (fromToken contract : String)
    (msg : SwapAndAction MemoText) :
    swapRequest (executeObject env this fromToken contract (.swapAndAction msg)) = some msg := by
  rw [executeObject]
  split <;> rfl

variable {env}

-- A generator that reads the loop over the actions and, where that loop leaves
-- operations, sells for the token of the last of them.
def SellsLast (info : Except JsError (List SwapOperation × Option BridgeMsgInfo)) {M : Type}
    (request : M → Option (SwapAndAction MemoText)) (gen : Except JsError M) : Prop :=
  ∀ m, gen = .ok m → ∃ ops bridge, info = .ok (ops, bridge) ∧
    ∀ o, ops.getLast? = some o → ∃ msg, request m = some msg ∧ msg.minAsset.asset = o.denomOut

theorem generate_sells {info : Except JsError (List SwapOperation × Option BridgeMsgInfo)} {M : Type}
    {request : M → Option (SwapAndAction MemoText)} {bridgeOnly : BridgeMsgInfo → Except JsError M}
    {postAction : Option BridgeMsgInfo → Except JsError (PostAction MemoText)}
    {message : List SwapOperation → SwapOperation → PostAction MemoText → M}
    (hmessage : ∀ ops operation post, ∃ msg, request (message ops operation post) = some msg ∧
      msg.minAsset.asset = operation.denomOut) :
    SellsLast info request (generate info bridgeOnly postAction message) := by
  intro m h
  cases generate_cases h with
  | bridge hinfo _ =>
    refine ⟨[], _, hinfo, fun o ho => ?_⟩
    cases ho
  | swap hinfo hlast _ =>
    refine ⟨_, _, hinfo, fun o ho => ?_⟩
    cases hlast.symm.trans ho
    exact hmessage _ _ _

theorem swapObject_sells (this : ChainMsg) (swapVenueName contract : String)
    (ops : List SwapOperation) (operation : SwapOperation) (post : PostAction MemoText) :
    ∃ msg, swapRequest (swapObject env this swapVenueName contract ops operation post) = some msg ∧
      msg.minAsset.asset = operation.denomOut :=
  ⟨_, swapRequest_executeObject env _ _ _ _, minAsset_asset env _ _⟩

theorem swapResponse_sells (this : ChainMsg) (swapVenueName contract : String)
    (ops : List SwapOperation) (operation : SwapOperation) (post : PostAction MemoText) :
    ∃ msg, swapHook (swapResponse env this swapVenueName contract ops operation post).memo =
      some msg ∧ msg.minAsset.asset = operation.denomOut :=
  ⟨_, rfl, minAsset_asset env _ _⟩

theorem SellsLast.names {this : ChainMsg} {visit} (hv : Visits env this visit)
    {supports : Action → Bool} (haccepts : ∀ s a, (∃ t, visit s a = .ok t) ↔ supports a = true)
    (hsupports : ∀ a, supports a = true → OraichainMsg.supports a = true)
    (h : LinkedActions this.path) {M : Type} {request : M → Option (SwapAndAction MemoText)}
    {gen : Except JsError M}
    (hsells : SellsLast (this.path.actions.foldlM visit ([], none)) request gen)
    (hhops : pathHops env this.path ≠ []) {m : M} (hm : gen = .ok m) :
    ∃ msg, request m = some msg ∧ sentAsset this.path = some msg.minAsset.asset := by
  obtain ⟨ops, bridge, hrun, hlast⟩ := hsells m hm
  obtain ⟨hops, hread⟩ := hv.run hrun
  have hall := (foldlM_ok_iff haccepts).mp ⟨_, hrun⟩
  have hconnected := connected env h (fun a ha => hsupports a (hall a ha)) hread
  have hne : ops ≠ [] := hops ▸ pathOperations_ne_nil env hhops
  have hmem := List.getLast?_eq_some_getLast hne
  obtain ⟨msg, hmsg, hasset⟩ := hlast _ hmem
  refine ⟨msg, hmsg, ?_⟩
  rw [hasset]
  exact hconnected.last _ (hops ▸ hmem)

theorem swapChain_of {this : ChainMsg} {visit} (hv : Visits env this visit)
    {supports : Action → Bool} (haccepts : ∀ s a, (∃ t, visit s a = .ok t) ↔ supports a = true)
    (hsupports : ∀ a, supports a = true → OraichainMsg.supports a = true)
    (h : LinkedActions this.path) {execute : Except JsError EncodeObject}
    {middleware : Except JsError MiddlewareResponse}
    (hexecute : SellsLast (this.path.actions.foldlM visit ([], none)) swapRequest execute)
    (hmiddleware : SellsLast (this.path.actions.foldlM visit ([], none)) (swapHook ·.memo)
      middleware) :
    SwapChain env this.path supports (this.path.actions.foldlM visit ([], none)) execute
      middleware := by
  constructor
  · intro hall
    obtain ⟨⟨ops, bridge⟩, hrun⟩ := (foldlM_ok_iff haccepts (s := ([], none))).mpr hall
    obtain ⟨rfl, hread⟩ := hv.run hrun
    exact ⟨_, bridge, hrun, connected env h (fun a ha => hsupports a (hall a ha)) hread⟩
  · rintro ⟨a, ha, hunsupported⟩
    refine error_of_not_ok fun hok => ?_
    rw [(foldlM_ok_iff haccepts).mp hok a ha] at hunsupported
    cases hunsupported
  · intro hhops obj hobj
    exact hexecute.names hv haccepts hsupports h hhops hobj
  · intro hhops r hr
    exact hmiddleware.names hv haccepts hsupports h hhops hr

end Path

namespace OraichainMsg

variable {env : Environment} {this : OraichainMsg}

theorem genExecuteMsg_sells :
    SellsLast (getSwapAndBridgeInfo env this) swapRequest (genExecuteMsg env this) := by
  rw [genExecuteMsg_eq]
  exact generate_sells (swapObject_sells this.toChainMsg _ _)

theorem genMemoAsMiddleware_sells :
    SellsLast (getSwapAndBridgeInfo env this) (swapHook ·.memo) (genMemoAsMiddleware env this) := by
  rw [genMemoAsMiddleware_eq]
  exact generate_sells (swapResponse_sells this.toChainMsg _ _)

end OraichainMsg

namespace OsmosisMsg

variable {env : Environment} {this : OsmosisMsg}

theorem genExecuteMsg_sells :
    SellsLast (getSwapAndBridgeInfo env this) swapRequest (genExecuteMsg env this) := by
  rw [genExecuteMsg_eq]
  exact generate_sells (swapObject_sells this.toChainMsg _ _)

theorem genMemoAsMiddleware_sells :
    SellsLast (getSwapAndBridgeInfo env this) (swapHook ·.memo) (genMemoAsMiddleware env this) := by
  rw [genMemoAsMiddleware_eq]
  exact generate_sells (swapResponse_sells this.toChainMsg _ _)

theorem supports_of_supports {a : Action} (h : supports a = true) :
    OraichainMsg.supports a = true := by
  rw [supports] at h
  rw [OraichainMsg.supports]
  cases htype : a.type with
  | swap =>
    rw [htype] at h
    exact h
  | convert => rfl
  | bridge =>
    rw [htype] at h
    obtain ⟨b, hb, -⟩ := (Option.any_eq_true _ _).mp h
    simp only [hb, Option.isSome_some]
  | other name =>
    rw [htype] at h
    cases h

end OsmosisMsg

theorem swap_chains_connected (env : Environment) :
    (∀ this : OraichainMsg, LinkedActions this.path →
      SwapChain env this.path OraichainMsg.supports (this.getSwapAndBridgeInfo env)
        (this.genExecuteMsg env) (this.genMemoAsMiddleware env)) ∧
    (∀ this : OsmosisMsg, LinkedActions this.path →
      SwapChain env this.path OsmosisMsg.supports (this.getSwapAndBridgeInfo env)
        (this.genExecuteMsg env) (this.genMemoAsMiddleware env)) := by
  constructor
  · intro this h
    exact swapChain_of OraichainMsg.visits (OraichainMsg.visitAction_ok_iff env this)
      (fun _ ha => ha) h OraichainMsg.genExecuteMsg_sells OraichainMsg.genMemoAsMiddleware_sells
  · intro this h
    exact swapChain_of OsmosisMsg.visits (OsmosisMsg.visitAction_ok_iff env this)
      (fun _ ha => OsmosisMsg.supports_of_supports ha) h OsmosisMsg.genExecuteMsg_sells
      OsmosisMsg.genMemoAsMiddleware_sells

def swapThenBridge : Path :=
  ⟨"Oraichain", "orai", "100", "uosmo", "50", "osmosis-1",
    [⟨.swap, "orai", "100", "osmo20", "50", none, some [⟨"pool1", "usdt"⟩, ⟨"pool2", "osmo20"⟩], none⟩,
      ⟨.bridge, "osmo20", "50", "uosmo", "50", none, none, some ⟨"transfer", "channel-13"⟩⟩]⟩

def swapBridgeMsgOnOraichain : OraichainMsg :=
  ⟨⟨swapThenBridge, "1", "osmo1trader", "orai1trader", .empty, rfl, by decide, by decide⟩, "", none, rfl⟩

theorem swap_then_bridge_connected :
    ∃ ops bridge, swapBridgeMsgOnOraichain.getSwapAndBridgeInfo exampleEnvironment =
      .ok (ops, bridge) ∧ Connected exampleEnvironment swapThenBridge ops bridge := by
  have hlinked : LinkedActions swapThenBridge := by
    refine ⟨List.isChain_cons_cons.mpr ⟨rfl, .singleton _⟩, ?_⟩
    intro a ha hswap
    rcases List.mem_cons.mp ha with rfl | ha
    · exact ⟨_, _, rfl, rfl, rfl⟩
    · cases List.mem_singleton.mp ha
      cases hswap
  exact ((swap_chains_connected exampleEnvironment).1 swapBridgeMsgOnOraichain hlinked).connects
    (by decide)

theorem convert_on_osmosis_throws :
    LinkedActions convertMsgOnOsmosis.path ∧
      ¬ ∃ ops bridge, convertMsgOnOsmosis.getSwapAndBridgeInfo exampleEnvironment =
        .ok (ops, bridge) := by
  refine ⟨⟨.singleton _, ?_⟩, ?_⟩
  · intro a ha hswap
    cases List.mem_singleton.mp ha
    cases hswap
  · rintro ⟨ops, bridge, h⟩
    cases h

end OraidexSdk.Message
