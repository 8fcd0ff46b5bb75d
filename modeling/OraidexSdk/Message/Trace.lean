import OraidexSdk.Message.Steps

namespace OraidexSdk.Message
open Js Outcome

def destPrefix (tokenOutChainId : String) : String :=
  match getDestPrefixForBridgeToEvmOnOrai tokenOutChainId with
  | .ok destPrefix => destPrefix
  | .error _ => ""

structure Remembers (this : ChainMsg) (path : Path) (receiver currentChainAddress : Option String)
    (memo : MemoText) : Prop where
  path : this.path = path
  receiver : receiver = some this.receiver
  address : currentChainAddress = some this.currentChainAddress
  memo : this.memo = memo

theorem some_of_getD_ne {o : Option String} (h : ¬ o.getD "" = "") : o = some (o.getD "") := by
  cases o with
  | none => exact absurd rfl h
  | some s => rfl

theorem ChainMsg.new_ok {path : Path} {minimumReceive : String}
    {receiver currentChainAddress : Option String} {memo : MemoText} {this : ChainMsg}
    (h : ChainMsg.new path minimumReceive receiver currentChainAddress memo = .ok this) :
    Remembers this path receiver currentChainAddress memo := by
  rw [ChainMsg.new] at h
  split at h
  · cases h
  · split at h
    · cases h
    · rename_i hreceiver
      split at h
      · cases h
      · rename_i haddress
        cases h
        exact ⟨rfl, some_of_getD_ne hreceiver, some_of_getD_ne haddress, rfl⟩

section Build

variable {env : Environment} {addresses : String → Option String} {slippage : Slippage}

-- A layer for this path, with the address book standing for prefix and oraibridge
-- address.
abbrev LayerOf (env : Environment) (addresses : String → Option String) (path : Path)
    (receiver : String) (memo : MemoText) (layer : Layer) : Prop :=
  Reads env path receiver memo (destPrefix path.tokenOutChainId) (addresses ORAIBRIDGE_SUBNET) layer

def nextReceiver (env : Environment) (addresses : String → Option String) (path : Path)
    (previousChain : Option String) : String :=
  let user := (addresses path.chainId).getD ""
  if path.chainId = "Oraichain" then
    if usesIbcWasm env previousChain then user
    else if pathOperations env path ≠ [] then OraichainMsg.ENTRY_POINT_CONTRACT
    else if isTonChain path.tokenOutChainId then IBC_WASM_CONTRACT
    else user
  else if path.chainId = "osmosis-1" then
    if pathOperations env path ≠ [] then OsmosisMsg.ENTRY_POINT_CONTRACT else user
  else user

theorem Leaves.book {path : Path} {receiver : String} {memo : MemoText} {e : Exit}
    (h : Leaves env path receiver memo "" none e) (destPrefix : String)
    (obridgeAddress : Option String) :
    Leaves env path receiver memo destPrefix obridgeAddress e := by
  cases h with
  | pay hbridge => exact .pay hbridge
  | packet hbridge hinfo hport => exact .packet hbridge hinfo hport
  | wasm hbridge hinfo hport hchain heth => exact .wasm hbridge hinfo hport hchain heth
  | evm _ _ _ _ _ hnonempty _ => exact absurd rfl hnonempty
  | ton hbridge hinfo hton hto => exact .ton hbridge hinfo hton hto

theorem oraichainMsg_ok {path : Path} {receiver : Option String} {memo : MemoText}
    {this : OraichainMsg} (h : oraichainMsg env addresses slippage path receiver memo = .ok this) :
    Remembers this.toChainMsg path receiver (addresses path.chainId) memo ∧
      this.destPrefix = destPrefix path.tokenOutChainId ∧
      this.obridgeAddress = addresses ORAIBRIDGE_SUBNET := by
  obtain ⟨pre, hpre, h⟩ := bind_eq_ok.mp h
  have hdest : destPrefix path.tokenOutChainId = pre := by rw [destPrefix, hpre]
  dsimp only at h
  split at h
  · cases h
  · obtain ⟨msg, hnew, h⟩ := bind_eq_ok.mp h
    obtain ⟨minimumReceive, -, h⟩ := bind_eq_ok.mp h
    cases h
    obtain ⟨chain, hchain, hnew⟩ := bind_eq_ok.mp hnew
    obtain ⟨hpath, hreceiver, haddress, hmemo⟩ := ChainMsg.new_ok hchain
    split at hnew
    · cases hnew
      exact ⟨⟨hpath, hreceiver, haddress, hmemo⟩, hdest.symm, rfl⟩
    · cases hnew

theorem osmosisMsg_ok {path : Path} {receiver : Option String} {memo : MemoText}
    {this : OsmosisMsg} (h : osmosisMsg env addresses slippage path receiver memo = .ok this) :
    Remembers this.toChainMsg path receiver (addresses path.chainId) memo := by
  obtain ⟨msg, hnew, h⟩ := bind_eq_ok.mp h
  obtain ⟨minimumReceive, -, h⟩ := bind_eq_ok.mp h
  cases h
  obtain ⟨chain, hchain, hnew⟩ := bind_eq_ok.mp hnew
  obtain ⟨hpath, hreceiver, haddress, hmemo⟩ := ChainMsg.new_ok hchain
  split at hnew
  · cases hnew
    exact ⟨hpath, hreceiver, haddress, hmemo⟩
  · cases hnew

theorem cosmosMsg_ok {path : Path} {receiver : Option String} {memo : MemoText}
    {this : CosmosMsg} (h : cosmosMsg env addresses slippage path receiver memo = .ok this) :
    Remembers this.toChainMsg path receiver (addresses path.chainId) memo ∧
      startsWith path.chainId "0x" = false := by
  rw [cosmosMsg] at h
  split at h
  · cases h
  · rename_i hevm
    obtain ⟨msg, hnew, h⟩ := bind_eq_ok.mp h
    obtain ⟨minimumReceive, -, h⟩ := bind_eq_ok.mp h
    cases h
    obtain ⟨chain, hchain, hnew⟩ := bind_eq_ok.mp hnew
    cases hnew
    obtain ⟨hpath, hreceiver, haddress, hmemo⟩ := ChainMsg.new_ok hchain
    exact ⟨⟨hpath, hreceiver, haddress, hmemo⟩, Bool.not_eq_true _ ▸ hevm⟩

structure Step (env : Environment) (addresses : String → Option String) (path : Path)
    (receiver : Option String) (memo : MemoText) (previousChain : Option String)
    (r : MiddlewareResponse) : Prop where
  layer : ∃ paid l, receiver = some paid ∧ openMemo r.memo = some l ∧
    LayerOf env addresses path paid memo l
  hook : ∀ contract msg, r.memo = .json (.wasm contract msg) → r.receiver = contract
  receiver_eq : r.receiver = nextReceiver env addresses path previousChain
  not_evm : startsWith path.chainId "0x" = false

theorem Responds.step {path : Path} {paid : String} {memo : MemoText} {previousChain : Option String}
    {r : MiddlewareResponse}
    (h : Responds env path paid memo (destPrefix path.tokenOutChainId)
      (addresses ORAIBRIDGE_SUBNET) r)
    (hreceiver : r.receiver = nextReceiver env addresses path previousChain)
    (hevm : startsWith path.chainId "0x" = false) :
    Step env addresses path (some paid) memo previousChain r := by
  obtain ⟨⟨l, hopen, hlayer⟩, hhook⟩ := h
  exact ⟨⟨paid, l, rfl, hopen, hlayer⟩, hhook, hreceiver, hevm⟩

theorem Responds.book {path : Path} {paid : String} {memo : MemoText} {r : MiddlewareResponse}
    (h : Responds env path paid memo "" none r) (destPrefix : String)
    (obridgeAddress : Option String) :
    Responds env path paid memo destPrefix obridgeAddress r := by
  obtain ⟨⟨l, hopen, hops, hleaves⟩, hhook⟩ := h
  exact ⟨⟨l, hopen, hops, hleaves.book destPrefix obridgeAddress⟩, hhook⟩

theorem buildMemoSwap_step {path : Path} {receiver previousChain : Option String} {memo : MemoText}
    {r : MiddlewareResponse}
    (h : buildMemoSwap env addresses slippage path receiver memo previousChain = .ok r) :
    Step env addresses path receiver memo previousChain r := by
  rw [buildMemoSwap] at h
  split at h
  · rename_i hchain
    obtain ⟨this, hthis, hgen⟩ := bind_eq_ok.mp h
    obtain ⟨⟨rfl, rfl, haddress, rfl⟩, hpre, hobridge⟩ := oraichainMsg_ok hthis
    have hevm : startsWith this.path.chainId "0x" = false := by
      rw [hchain]
      decide
    split at hgen
    · rename_i hwasm
      obtain ⟨hresponds, hreceiver⟩ := OraichainMsg.genMemoForIbcWasm_responds hgen
      rw [hpre, hobridge] at hresponds
      refine hresponds.step ?_ hevm
      rw [nextReceiver, if_pos hchain, if_pos hwasm, haddress, hreceiver]
      rfl
    · rename_i hwasm
      obtain ⟨hresponds, hreceiver⟩ := OraichainMsg.genMemoAsMiddleware_responds hgen
      rw [hpre, hobridge] at hresponds
      refine hresponds.step ?_ hevm
      rw [nextReceiver, if_pos hchain, if_neg hwasm, haddress, hreceiver]
      rfl
  · rename_i horaichain
    split at h
    · rename_i hchain
      obtain ⟨this, hthis, hgen⟩ := bind_eq_ok.mp h
      obtain ⟨rfl, rfl, haddress, rfl⟩ := osmosisMsg_ok hthis
      obtain ⟨hresponds, hreceiver⟩ := OsmosisMsg.genMemoAsMiddleware_responds hgen
      have hevm : startsWith this.path.chainId "0x" = false := by
        rw [hchain]
        decide
      refine (hresponds.book _ _).step ?_ hevm
      rw [nextReceiver, if_neg horaichain, if_pos hchain, haddress, hreceiver]
      rfl
    · rename_i hchain
      obtain ⟨this, hthis, hgen⟩ := bind_eq_ok.mp h
      obtain ⟨⟨rfl, rfl, haddress, rfl⟩, hevm⟩ := cosmosMsg_ok hthis
      obtain ⟨hresponds, hreceiver⟩ := CosmosMsg.genMemoAsMiddleware_responds hgen
      refine (hresponds.book _ _).step ?_ hevm
      rw [nextReceiver, if_neg horaichain, if_neg hchain, haddress, hreceiver]
      rfl

theorem buildExecuteMsg_layer {path : Path} {receiver : Option String} {memo : MemoText}
    {msg : EncodeObject} (h : buildExecuteMsg env addresses slippage path receiver memo = .ok msg) :
    ∃ paid, receiver = some paid ∧ LayerOf env addresses path paid memo (openMessage msg) := by
  rw [buildExecuteMsg] at h
  split at h
  · obtain ⟨this, hthis, hgen⟩ := bind_eq_ok.mp h
    obtain ⟨⟨rfl, rfl, -, rfl⟩, hpre, hobridge⟩ := oraichainMsg_ok hthis
    have hreads := OraichainMsg.genExecuteMsg_reads hgen
    rw [hpre, hobridge] at hreads
    exact ⟨this.receiver, rfl, hreads⟩
  · split at h
    · obtain ⟨this, hthis, hgen⟩ := bind_eq_ok.mp h
      obtain ⟨rfl, rfl, -, rfl⟩ := osmosisMsg_ok hthis
      obtain ⟨hops, hleaves⟩ := OsmosisMsg.genExecuteMsg_reads hgen
      exact ⟨this.receiver, rfl, hops, hleaves.book _ _⟩
    · obtain ⟨this, hthis, hgen⟩ := bind_eq_ok.mp h
      obtain ⟨⟨rfl, rfl, -, rfl⟩, -⟩ := cosmosMsg_ok hthis
      obtain ⟨hops, hleaves⟩ := CosmosMsg.genExecuteMsg_reads hgen
      exact ⟨this.receiver, rfl, hops, hleaves.book _ _⟩

end Build

end OraidexSdk.Message
