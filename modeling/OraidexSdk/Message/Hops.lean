import OraidexSdk.Message.Nesting

namespace OraidexSdk.Message
open Js Outcome Envelope

section Responses

variable (env : Environment) (addresses : String → Option String) (slippage : Slippage)
  (receiver : Option String)

-- The variables memo and receiver after the iterations that left these responses.
def carriedBack : List MiddlewareResponse → MemoText × Option String
  | [] => (.empty, receiver)
  | response :: _ => (response.memo, some response.receiver)

-- What the loop of generateMsgSwap builds, the response for each path in route order.
def responses : String → List Path → Except JsError (List MiddlewareResponse)
  | _, [] => .ok []
  | previousChain, path :: rest => do
    let built ← responses path.chainId rest
    let response ← buildMemoSwap env addresses slippage path (carriedBack receiver built).2
      (carriedBack receiver built).1 (some previousChain)
    return response :: built

theorem memoLoop_eq (previousChain : String) (rest : List Path) :
    memoLoop env addresses slippage receiver previousChain rest =
      carriedBack receiver <$> responses env addresses slippage receiver previousChain rest := by
  induction rest generalizing previousChain with
  | nil => rfl
  | cons path rest ih =>
    rw [memoLoop, responses, ih]
    cases responses env addresses slippage receiver path.chainId rest with
    | error e => rfl
    | ok built =>
      change (do
        let swapInfo ← buildMemoSwap env addresses slippage path (carriedBack receiver built).2
          (carriedBack receiver built).1 (some previousChain)
        return (swapInfo.memo, some swapInfo.receiver)) = carriedBack receiver <$> (do
        let response ← buildMemoSwap env addresses slippage path (carriedBack receiver built).2
          (carriedBack receiver built).1 (some previousChain)
        return response :: built)
      cases buildMemoSwap env addresses slippage path (carriedBack receiver built).2
        (carriedBack receiver built).1 (some previousChain) <;> rfl

end Responses

def builtMemos (env : Environment) (addresses : String → Option String) (slippage : Slippage)
    (route : Route) (recipientAddress : Option String) :
    Except JsError (List MiddlewareResponse) :=
  match route.paths with
  | [] => .ok []
  | path :: rest =>
    responses env addresses slippage (destinationReceiver addresses route.paths recipientAddress)
      path.chainId rest

def Nested : Layer → List MiddlewareResponse → Prop
  | _, [] => True
  | layer, response :: built =>
    layer.exit.memo = response.memo ∧ ∃ inner, openMemo response.memo = some inner ∧
      Nested inner built

structure HopsKept (paths : List Path) (msg : EncodeObject) (built : List MiddlewareResponse) :
    Prop where
  nested : Nested (openMessage msg) built
  inside : ∀ response ∈ built, response.memo ∈ (unwrapMessage msg).map (·.exit.memo)
  bridges : ∀ path ∈ paths.dropLast,
    (bridgeAction path).isSome = true ∧ path.tokenOutChainId ≠ "ton"

def onWasmPort (path : Path) : Bool :=
  ((bridgeAction path).bind (·.bridgeInfo)).any (startsWith ·.port "wasm")

-- A hop is kept by a Bridge action that does not lead to ton, unless it leaves
-- Oraichain by a wasm port for a receiver that looks like an EVM address.
structure Passes (env : Environment) (addresses : String → Option String) (path next : Path) :
    Prop where
  bridge : (bridgeAction path).isSome = true
  not_ton : path.tokenOutChainId ≠ "ton"
  not_evm : ¬ (path.chainId = "Oraichain" ∧ onWasmPort path = true ∧
    env.isEthAddress (nextReceiver env addresses next (some path.chainId)) = true)

variable {env : Environment} {addresses : String → Option String} {slippage : Slippage}
  {receiver : Option String}

theorem onWasmPort_of {path : Path} {a : Action} {b : BridgeInfo}
    (hbridge : bridgeAction path = some a) (hinfo : a.bridgeInfo = some b) :
    onWasmPort path = startsWith b.port "wasm" := by
  rw [onWasmPort, hbridge]
  simp [hinfo]

theorem passes_iff {path next : Path} {paid : String} {memo : MemoText} {layer inner : Layer}
    (hlayer : LayerOf env addresses path paid memo layer)
    (hpaid : paid = nextReceiver env addresses next (some path.chainId))
    (hopen : openMemo memo = some inner) :
    (layer.exit.memo = memo ∧ (bridgeAction path).isSome = true ∧ path.tokenOutChainId ≠ "ton") ↔
      Passes env addresses path next := by
  have htext (s : String) : MemoText.text s ≠ memo := by
    rintro rfl
    cases hopen
  subst hpaid
  obtain ⟨operations, exit⟩ := layer
  cases hlayer.leaves with
  | pay hbridge =>
    constructor
    · exact fun h => absurd h.1 (htext "")
    · intro h
      have hsome := h.bridge
      rw [hbridge] at hsome
      cases hsome
  | packet hbridge hinfo hport =>
    constructor
    · rintro ⟨-, hsome, hton⟩
      refine ⟨hsome, hton, ?_⟩
      rintro ⟨-, hwasm, -⟩
      rw [onWasmPort_of hbridge hinfo, hport] at hwasm
      exact absurd hwasm (by decide)
    · exact fun h => ⟨rfl, h.bridge, h.not_ton⟩
  | wasm hbridge hinfo hport hchain heth =>
    constructor
    · rintro ⟨-, hsome, hton⟩
      refine ⟨hsome, hton, ?_⟩
      rintro ⟨-, -, hevm⟩
      rw [heth] at hevm
      cases hevm
    · exact fun h => ⟨rfl, h.bridge, h.not_ton⟩
  | evm hbridge hinfo hport hchain heth hnonempty hobridge =>
    constructor
    · exact fun h => absurd h.1 (htext _)
    · intro h
      exact absurd ⟨hchain, (onWasmPort_of hbridge hinfo).trans hport, heth⟩ h.not_evm
  | ton hbridge hinfo hton hto =>
    constructor
    · exact fun h => absurd h.1 (htext "")
    · exact fun h => absurd hton h.not_ton

theorem nested_iff {rest : List Path} : ∀ {path : Path} {built : List MiddlewareResponse}
    {paid : String} {memo : MemoText} {layer : Layer},
    responses env addresses slippage receiver path.chainId rest = .ok built →
    carriedBack receiver built = (memo, some paid) →
    LayerOf env addresses path paid memo layer →
    ((Nested layer built ∧ ∀ p ∈ (path :: rest).dropLast,
        (bridgeAction p).isSome = true ∧ p.tokenOutChainId ≠ "ton") ↔
      (path :: rest).IsChain (Passes env addresses)) := by
  induction rest with
  | nil =>
    rintro path built paid memo layer hbuilt - -
    cases hbuilt
    exact ⟨fun _ => .singleton path, fun _ => ⟨trivial, List.forall_mem_nil _⟩⟩
  | cons next rest ih =>
    intro path built paid memo layer hbuilt hback hlayer
    obtain ⟨later, hlater, hbuilt⟩ := bind_eq_ok.mp hbuilt
    obtain ⟨response, hresponse, hbuilt⟩ := bind_eq_ok.mp hbuilt
    cases hbuilt
    cases hback
    have hstep := buildMemoSwap_step hresponse
    obtain ⟨paid', inner, hreceiver, hopen, hinner⟩ := hstep.layer
    have htail := ih hlater (Prod.ext rfl hreceiver) hinner
    have hhead := passes_iff hlayer hstep.receiver_eq hopen
    rw [List.isChain_cons_cons, ← htail, ← hhead, List.dropLast_cons_cons, List.forall_mem_cons]
    constructor
    · rintro ⟨⟨hmemo, inner', hopen', hnested⟩, hbridge, hbridges⟩
      cases hopen.symm.trans hopen'
      exact ⟨⟨hmemo, hbridge⟩, hnested, hbridges⟩
    · rintro ⟨⟨hmemo, hbridge⟩, hnested, hbridges⟩
      exact ⟨⟨hmemo, inner, hopen, hnested⟩, hbridge, hbridges⟩

theorem Nested.inside {built : List MiddlewareResponse} : ∀ {layer : Layer}, Nested layer built →
    ∀ response ∈ built, response.memo ∈
      (layer :: envelope.unwrap layer.exit.memo).map (·.exit.memo) := by
  induction built with
  | nil => exact fun _ => List.forall_mem_nil _
  | cons first built ih =>
    rintro layer ⟨hmemo, inner, hopen, hnested⟩
    rw [hmemo, unwrap_opened (E := envelope) hopen, List.map_cons, hmemo]
    refine List.forall_mem_cons.mpr ⟨List.mem_cons_self, fun response hr => ?_⟩
    exact List.mem_cons_of_mem _ (ih hnested response hr)

theorem Leaves.pays {path : Path} {receiver destPrefix : String} {memo : MemoText}
    {obridgeAddress : Option String} {e : Exit}
    (h : Leaves env path receiver memo destPrefix obridgeAddress e)
    (hbridge : bridgeAction path = none) : e.memo = .empty := by
  cases h with
  | pay _ => rfl
  | packet hsome _ _ => cases hbridge.symm.trans hsome
  | wasm hsome _ _ _ _ => cases hbridge.symm.trans hsome
  | evm hsome _ _ _ _ _ _ => cases hbridge.symm.trans hsome
  | ton hsome _ _ _ => cases hbridge.symm.trans hsome

theorem hops_kept_iff {route : Route} {recipientAddress : Option String} {msg : EncodeObject}
    (h : generateMsgSwap env addresses slippage route recipientAddress = .ok msg) :
    ∃ built, builtMemos env addresses slippage route recipientAddress = .ok built ∧
      (HopsKept route.paths msg built ↔ route.paths.IsChain (Passes env addresses)) := by
  obtain ⟨path, rest, memo, paid, hpaths, hloop, hlayer⟩ := generateMsgSwap_built h
  rw [memoLoop_eq] at hloop
  obtain ⟨built, hbuilt, hback⟩ := map_eq_ok.mp hloop
  have hiff := nested_iff hbuilt hback hlayer
  refine ⟨built, ?_, ?_⟩
  · rw [hpaths] at hbuilt
    rw [builtMemos, hpaths]
    exact hbuilt
  · rw [hpaths, ← hiff]
    exact ⟨fun hkept => ⟨hkept.nested, hkept.bridges⟩,
      fun ⟨hnested, hbridges⟩ => ⟨hnested, hnested.inside, hbridges⟩⟩

theorem osmosis_hop_kept :
    ∃ msg built,
      generateMsgSwap exampleEnvironment exampleAddresses exampleSlippage
        ⟨"100", "50", [bridgeFromOsmosis, swapOnOraichain]⟩ none = .ok msg ∧
      builtMemos exampleEnvironment exampleAddresses exampleSlippage
        ⟨"100", "50", [bridgeFromOsmosis, swapOnOraichain]⟩ none = .ok built ∧
      HopsKept [bridgeFromOsmosis, swapOnOraichain] msg built := by
  have hrun : ∃ msg, generateMsgSwap exampleEnvironment exampleAddresses exampleSlippage
      ⟨"100", "50", [bridgeFromOsmosis, swapOnOraichain]⟩ none = .ok msg := ⟨_, rfl⟩
  obtain ⟨msg, hmsg⟩ := hrun
  obtain ⟨built, hbuilt, hiff⟩ := hops_kept_iff hmsg
  have hpasses : Passes exampleEnvironment exampleAddresses bridgeFromOsmosis swapOnOraichain :=
    ⟨rfl, by decide, fun h => absurd h.1 (by decide)⟩
  exact ⟨msg, built, hmsg, hbuilt, hiff.mpr (List.isChain_cons_cons.mpr ⟨hpasses, .singleton _⟩)⟩

-- A swap that ends on Oraichain pays the user there, and the memo built for
-- Osmosis is lost.
theorem swap_only_hop_dropped :
    ∃ msg response,
      generateMsgSwap exampleEnvironment exampleAddresses exampleSlippage
        ⟨"100", "50", [swapOnOraichain, bridgeFromOsmosis]⟩ none = .ok msg ∧
      builtMemos exampleEnvironment exampleAddresses exampleSlippage
        ⟨"100", "50", [swapOnOraichain, bridgeFromOsmosis]⟩ none = .ok [response] ∧
      response.memo ∉ (unwrapMessage msg).map (·.exit.memo) ∧
      ¬ HopsKept [swapOnOraichain, bridgeFromOsmosis] msg [response] := by
  have hrun : ∃ msg, generateMsgSwap exampleEnvironment exampleAddresses exampleSlippage
      ⟨"100", "50", [swapOnOraichain, bridgeFromOsmosis]⟩ none = .ok msg := ⟨_, rfl⟩
  have hbuilt : ∃ response, builtMemos exampleEnvironment exampleAddresses exampleSlippage
      ⟨"100", "50", [swapOnOraichain, bridgeFromOsmosis]⟩ none = .ok [response] ∧
      response.memo ≠ .empty := ⟨_, rfl, nofun⟩
  obtain ⟨msg, hmsg⟩ := hrun
  obtain ⟨response, hresponse, hne⟩ := hbuilt
  obtain ⟨path, rest, memo, paid, hpaths, -, hlayer⟩ := generateMsgSwap_built hmsg
  cases hpaths
  have hpay : (openMessage msg).exit.memo = .empty := hlayer.leaves.pays rfl
  have hlost : response.memo ∉ (unwrapMessage msg).map (·.exit.memo) := by
    rw [unwrapMessage, hpay, show envelope.unwrap .empty = [] from unwrap_text "", List.map_singleton,
      List.mem_singleton, hpay]
    exact hne
  exact ⟨msg, response, hmsg, hresponse, hlost,
    fun hkept => hlost (hkept.inside response List.mem_cons_self)⟩

end OraidexSdk.Message
