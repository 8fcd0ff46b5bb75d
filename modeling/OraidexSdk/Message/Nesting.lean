import OraidexSdk.Message.Trace

namespace OraidexSdk.Message
open Js Outcome Envelope ChainMsg

-- The shape the router gives to two consecutive paths.
structure Linked (path next : Path) : Prop where
  bridge : (bridgeAction path).isSome = true
  tokenOutChainId : path.tokenOutChainId = next.chainId
  not_ton : path.tokenOutChainId ≠ "ton"

def Exit.Names (recipient : String) : Exit → Prop
  | pay toAddress => toAddress = recipient
  | packet _ receiver memo => receiver = recipient ∧ memo = .empty
  | wasm info => (info.remoteAddress = recipient ∧ info.memo = .empty) ∨
      ∃ destPrefix, info.memo = .text (destPrefix ++ recipient)
  | call _ msg => msg.payload.toAddress = recipient

-- A packet on the path's bridge channel, to the receiver and with the memo that
-- were returned for the next path.
inductive Exit.Hands (path : Path) (response : MiddlewareResponse) : Exit → Prop where
  | packet {a : Action} {b : BridgeInfo} (hbridge : bridgeAction path = some a)
      (hinfo : a.bridgeInfo = some b) :
      Hands path response (.packet b.channel response.receiver response.memo)
  | wasm {a : Action} {b : BridgeInfo} (hbridge : bridgeAction path = some a)
      (hinfo : a.bridgeInfo = some b) :
      Hands path response (.wasm ⟨b.channel, response.receiver, a.tokenOut, response.memo⟩)

theorem Exit.Hands.memo_eq {path : Path} {response : MiddlewareResponse} {e : Exit}
    (h : e.Hands path response) : e.memo = response.memo := by
  cases h <;> rfl

section Operations

def actionHops (env : Environment) (a : Action) : List (String × Pool) :=
  match a.type with
  | .swap => (a.swapInfo.getD []).map fun info => (info.tokenOut, .poolId info.poolId)
  | .convert =>
    [(a.tokenOut, OraichainMsg.parseConverterMsgToPoolId env a.tokenIn a.tokenOut)]
  | _ => []

def pathHops (env : Environment) (path : Path) : List (String × Pool) :=
  path.actions.flatMap (actionHops env)

-- What an action puts into each of its hops: its own token first, then what the hop before gave.
def actionSources (a : Action) : List String :=
  match a.type with
  | .swap => (a.tokenIn :: (a.swapInfo.getD []).map (·.tokenOut)).dropLast
  | .convert => [a.tokenIn]
  | _ => []

def pathSources (path : Path) : List String := path.actions.flatMap actionSources

structure Operates (env : Environment) (path : Path) (ops : List SwapOperation) : Prop where
  hops : ops.map (fun o => (o.denomOut, o.pool)) = pathHops env path
  sources : ops.map (·.denomIn) = pathSources path

variable (env : Environment)

theorem swapOperations_hops (denomIn : String) (infos : List SwapInfo) :
    (swapOperations denomIn infos).map (fun o => (o.denomOut, o.pool)) =
      infos.map fun info => (info.tokenOut, .poolId info.poolId) := by
  induction infos generalizing denomIn with
  | nil => rfl
  | cons info infos ih =>
    rw [swapOperations, List.map_cons, List.map_cons, ih]

theorem actionOperations_hops (a : Action) :
    (actionOperations env a).map (fun o => (o.denomOut, o.pool)) = actionHops env a := by
  rw [actionOperations, actionHops]
  cases a.type with
  | swap => exact swapOperations_hops _ _
  | _ => rfl

theorem pathOperations_hops (path : Path) :
    (pathOperations env path).map (fun o => (o.denomOut, o.pool)) = pathHops env path := by
  rw [pathOperations, pathHops, List.map_flatMap]
  exact List.flatMap_congr fun a _ => actionOperations_hops env a

theorem swapOperations_sources (denomIn : String) (infos : List SwapInfo) :
    (swapOperations denomIn infos).map (·.denomIn) =
      (denomIn :: infos.map (·.tokenOut)).dropLast := by
  induction infos generalizing denomIn with
  | nil => rfl
  | cons info infos ih =>
    rw [swapOperations, List.map_cons, ih, List.map_cons, List.dropLast_cons_cons]

theorem actionOperations_sources (a : Action) :
    (actionOperations env a).map (·.denomIn) = actionSources a := by
  rw [actionOperations, actionSources]
  cases a.type with
  | swap => exact swapOperations_sources _ _
  | _ => rfl

theorem operates_pathOperations (path : Path) : Operates env path (pathOperations env path) where
  hops := pathOperations_hops env path
  sources := by
    rw [pathOperations, pathSources, List.map_flatMap]
    exact List.flatMap_congr fun a _ => actionOperations_sources env a

theorem Operates.unique {path : Path} {ops ops' : List SwapOperation}
    (h : Operates env path ops) (h' : Operates env path ops') : ops = ops' := by
  have hinjective : Function.Injective
      fun o : SwapOperation => ((o.denomOut, o.pool), o.denomIn) := by
    rintro ⟨denomIn, denomOut, pool⟩ ⟨denomIn', denomOut', pool'⟩ heq
    cases heq
    rfl
  have hzip (ops : List SwapOperation) : ops.map (fun o => ((o.denomOut, o.pool), o.denomIn)) =
      (ops.map fun o => (o.denomOut, o.pool)).zip (ops.map (·.denomIn)) := List.zip_map'.symm
  refine List.map_injective_iff.mpr hinjective ?_
  rw [hzip, hzip, h.hops, h.sources, h'.hops, h'.sources]

end Operations

section Travels

variable (env : Environment) (addresses : String → Option String) (slippage : Slippage)
  (recipient : String)

inductive Travels : List Path → List Layer → Prop where
  | last {path : Path} {layer : Layer} (operations : Operates env path layer.operations)
      (names : layer.exit.Names recipient)
      (leaves : Leaves env path recipient .empty (destPrefix path.tokenOutChainId)
        (addresses ORAIBRIDGE_SUBNET) layer.exit) :
      Travels [path] [layer]
  | hop {path next : Path} {rest : List Path} {layer inner : Layer} {layers : List Layer}
      {receiver : Option String} {memo : MemoText} {response : MiddlewareResponse}
      (operations : Operates env path layer.operations)
      (returned : buildMemoSwap env addresses slippage next receiver memo (some path.chainId) =
        .ok response)
      (hands : layer.exit.Hands path response)
      (hook : ∀ contract msg, response.memo = .json (.wasm contract msg) →
        response.receiver = contract)
      (opened : openMemo response.memo = some inner)
      (travels : Travels (next :: rest) (inner :: layers)) :
      Travels (path :: next :: rest) (layer :: inner :: layers)

end Travels

variable {env : Environment} {addresses : String → Option String} {slippage : Slippage}
  {recipient : String}

theorem Leaves.names {path : Path} {destPrefix : String} {obridgeAddress : Option String} {e : Exit}
    (h : Leaves env path recipient .empty destPrefix obridgeAddress e) : e.Names recipient := by
  cases h with
  | pay _ => rfl
  | packet _ _ _ => exact ⟨rfl, rfl⟩
  | wasm _ _ _ _ _ => exact .inl ⟨rfl, rfl⟩
  | evm _ _ _ _ _ _ _ => exact .inr ⟨_, rfl⟩
  | ton _ _ _ hto => exact hto

theorem Leaves.memo_cases {path : Path} {receiver destPrefix : String} {memo : MemoText}
    {obridgeAddress : Option String} {e : Exit}
    (h : Leaves env path receiver memo destPrefix obridgeAddress e) :
    e.memo = memo ∨ ∃ s, e.memo = .text s := by
  cases h with
  | pay _ => exact .inr ⟨"", rfl⟩
  | packet _ _ _ => exact .inl rfl
  | wasm _ _ _ _ _ => exact .inl rfl
  | evm _ _ _ _ _ _ _ => exact .inr ⟨_, rfl⟩
  | ton _ _ _ _ => exact .inr ⟨"", rfl⟩

theorem unwrap_text (s : String) : envelope.unwrap (.text s) = [] := unwrap_closed rfl

theorem unwrap_last {path : Path} {receiver destPrefix : String} {obridgeAddress : Option String}
    {e : Exit} (h : Leaves env path receiver .empty destPrefix obridgeAddress e) :
    envelope.unwrap e.memo = [] := by
  rcases h.memo_cases with hmemo | ⟨s, hmemo⟩
  · rw [hmemo]
    exact unwrap_text ""
  · rw [hmemo, unwrap_text]

theorem destPrefix_evm {chainId : String} (h : destPrefix chainId ≠ "") :
    startsWith chainId "0x" = true := by
  by_contra hstart
  have hne (c : String) (hc : startsWith c "0x" = true) : (chainId == c) = false := by
    rw [beq_eq_false_iff_ne]
    rintro rfl
    exact hstart hc
  refine h ?_
  simp only [destPrefix, getDestPrefixForBridgeToEvmOnOrai, List.lookup_cons, List.lookup_nil,
    hne "0x01" (by decide), hne "0x38" (by decide), hne "0x2b6653dc" (by decide), truthy,
    Option.filter_none, if_neg hstart]

theorem Linked.hands {path next : Path} (hlinked : Linked path next)
    (hevm : startsWith next.chainId "0x" = false) {response : MiddlewareResponse} {layer : Layer}
    (hlayer : LayerOf env addresses path response.receiver response.memo layer) :
    layer.exit.Hands path response := by
  obtain ⟨ops, exit⟩ := layer
  cases hlayer.leaves with
  | pay hbridge =>
    have hsome := hlinked.bridge
    rw [hbridge] at hsome
    cases hsome
  | packet hbridge hinfo hport => exact .packet hbridge hinfo
  | wasm hbridge hinfo hport hchain heth => exact .wasm hbridge hinfo
  | evm hbridge hinfo hport hchain heth hnonempty hobridge =>
    have hstart := destPrefix_evm hnonempty
    rw [hlinked.tokenOutChainId, hevm] at hstart
    cases hstart
  | ton hbridge hinfo hton hto => exact absurd hton hlinked.not_ton

theorem travels_of_loop {rest : List Path} : ∀ {path : Path} {memo : MemoText} {paid : String}
    {layer : Layer}, (path :: rest).IsChain Linked →
    memoLoop env addresses slippage (some recipient) path.chainId rest = .ok (memo, some paid) →
    LayerOf env addresses path paid memo layer →
    Travels env addresses slippage recipient (path :: rest)
      (layer :: envelope.unwrap layer.exit.memo) := by
  induction rest with
  | nil =>
    rintro path memo paid layer - hloop hlayer
    cases hloop
    rw [unwrap_last hlayer.leaves]
    exact .last (hlayer.operations ▸ operates_pathOperations env path) hlayer.leaves.names hlayer.leaves
  | cons next rest ih =>
    intro path memo paid layer hchain hloop hlayer
    obtain ⟨hlinked, htail⟩ := List.isChain_cons_cons.mp hchain
    obtain ⟨⟨memo', receiver'⟩, hrest, hloop⟩ := bind_eq_ok.mp hloop
    obtain ⟨response, hbuild, hloop⟩ := bind_eq_ok.mp hloop
    cases hloop
    have hstep := buildMemoSwap_step hbuild
    obtain ⟨paid', inner, rfl, hopen, hinner⟩ := hstep.layer
    have hhands := hlinked.hands hstep.not_evm hlayer
    rw [hhands.memo_eq, unwrap_opened (E := envelope) hopen]
    exact .hop (hlayer.operations ▸ operates_pathOperations env path) hbuild hhands hstep.hook hopen (ih htail hrest hinner)

theorem memoLoop_receiver {receiver : Option String} {rest : List Path} :
    ∀ {previousChain : String} {memo : MemoText} {paid : String},
      memoLoop env addresses slippage receiver previousChain rest = .ok (memo, some paid) →
      ∃ recipient, receiver = some recipient := by
  induction rest with
  | nil =>
    intro previousChain memo paid hloop
    cases hloop
    exact ⟨paid, rfl⟩
  | cons next rest ih =>
    intro previousChain memo paid hloop
    obtain ⟨⟨memo', receiver'⟩, hrest, hloop⟩ := bind_eq_ok.mp hloop
    obtain ⟨response, hbuild, -⟩ := bind_eq_ok.mp hloop
    obtain ⟨paid', inner, rfl, -, -⟩ := (buildMemoSwap_step hbuild).layer
    exact ih hrest

def destinationReceiver (addresses : String → Option String) (paths : List Path)
    (recipientAddress : Option String) : Option String :=
  (truthy recipientAddress).or (paths.getLast?.bind (addresses ·.tokenOutChainId))

theorem finalReceiver_ok {path : Path} {rest : List Path} {recipientAddress : Option String}
    {caller : String} {receiver : Option String}
    (h : finalReceiver env addresses ((path :: rest).getLast (by simp)).tokenOutChainId
      recipientAddress caller = .ok receiver) :
    receiver = destinationReceiver addresses (path :: rest) recipientAddress := by
  rw [destinationReceiver, List.getLast?_eq_some_getLast (List.cons_ne_nil _ _)]
  rw [finalReceiver] at h
  split at h
  · rename_i hnone
    cases h
    rw [hnone]
    rfl
  · rename_i recipient hsome
    rw [hsome]
    split at h
    · cases h
      rfl
    · cases h

theorem generateMsgSwap_built {route : Route} {recipientAddress : Option String}
    {msg : EncodeObject}
    (h : generateMsgSwap env addresses slippage route recipientAddress = .ok msg) :
    ∃ path rest memo paid, route.paths = path :: rest ∧
      memoLoop env addresses slippage (destinationReceiver addresses route.paths recipientAddress)
        path.chainId rest = .ok (memo, some paid) ∧
      LayerOf env addresses path paid memo (openMessage msg) := by
  rw [generateMsgSwap] at h
  split at h
  · cases h
  · rename_i path rest hpaths
    obtain ⟨receiver, hreceiver, h⟩ := bind_eq_ok.mp h
    obtain ⟨⟨memo, receiver'⟩, hloop, hexecute⟩ := bind_eq_ok.mp h
    obtain ⟨paid, rfl, hlayer⟩ := buildExecuteMsg_layer hexecute
    rw [finalReceiver_ok hreceiver, ← hpaths] at hloop
    exact ⟨path, rest, memo, paid, hpaths, hloop, hlayer⟩

theorem generateMsgSwap_travels {route : Route} {recipientAddress : Option String}
    {msg : EncodeObject} (hlinked : route.paths.IsChain Linked)
    (h : generateMsgSwap env addresses slippage route recipientAddress = .ok msg) :
    ∃ recipient, destinationReceiver addresses route.paths recipientAddress = some recipient ∧
      Travels env addresses slippage recipient route.paths (unwrapMessage msg) := by
  obtain ⟨path, rest, memo, paid, hpaths, hloop, hlayer⟩ := generateMsgSwap_built h
  obtain ⟨recipient, hrecipient⟩ := memoLoop_receiver hloop
  rw [hrecipient] at hloop
  refine ⟨recipient, hrecipient, ?_⟩
  rw [hpaths] at hlinked ⊢
  exact travels_of_loop hlinked hloop hlayer

def exampleEnvironment : Environment where
  dateNow := 1700000000000
  getAddress := fun _ => none
  base58Decode := fun _ => none
  bech32Decode := fun _ => .error "too short"
  tonAddressParse := fun _ => .error "Unknown address type"
  cosmosChains := [⟨"Oraichain", "orai"⟩, ⟨"osmosis-1", "osmo"⟩]
  evmChains := ["0x01", "0x38", "0x2b6653dc"]

def exampleAddresses (chainId : String) : Option String :=
  [("Oraichain", "orai1user"), ("osmosis-1", "osmo1user"), (ORAIBRIDGE_SUBNET, "oraib1user")].lookup
    chainId

def exampleSlippage : Slippage := ⟨false, "0.99"⟩

def swapOnOraichain : Path :=
  ⟨"Oraichain", "orai", "100", "usdt", "50", "Oraichain",
    [⟨.swap, "orai", "100", "usdt", "50", none, some [⟨"pool", "usdt"⟩], none⟩]⟩

def bridgeFromOsmosis : Path :=
  ⟨"osmosis-1", "uosmo", "100", "orai", "100", "Oraichain",
    [⟨.bridge, "uosmo", "100", "orai", "100", none, none, some ⟨"transfer", "channel-216"⟩⟩]⟩

theorem two_paths_travel :
    ∃ msg recipient,
      generateMsgSwap exampleEnvironment exampleAddresses exampleSlippage
        ⟨"100", "50", [bridgeFromOsmosis, swapOnOraichain]⟩ none = .ok msg ∧
      Travels exampleEnvironment exampleAddresses exampleSlippage recipient
        [bridgeFromOsmosis, swapOnOraichain] (unwrapMessage msg) := by
  have hlinked : [bridgeFromOsmosis, swapOnOraichain].IsChain Linked :=
    List.isChain_cons_cons.mpr ⟨⟨rfl, rfl, by decide⟩, .singleton _⟩
  have hrun : ∃ msg, generateMsgSwap exampleEnvironment exampleAddresses exampleSlippage
      ⟨"100", "50", [bridgeFromOsmosis, swapOnOraichain]⟩ none = .ok msg := ⟨_, rfl⟩
  obtain ⟨msg, hmsg⟩ := hrun
  obtain ⟨recipient, -, htravels⟩ := generateMsgSwap_travels hlinked hmsg
  exact ⟨msg, recipient, hmsg, htravels⟩

end OraidexSdk.Message
