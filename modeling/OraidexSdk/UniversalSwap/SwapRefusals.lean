import OraidexSdk.UniversalSwap.SwapGuards

namespace OraidexSdk

namespace Message
open Js Outcome

structure Buildable (path : Path) (receiver : Option String) : Prop where
  receiver_ne : receiver.getD "" ≠ ""
  chain : startsWith path.chainId "0x" = false

section Build

variable {env : Environment} {addresses : String → Option String} {slippage : Slippage} {path : Path}
  {receiver : Option String} {memo : MemoText}

theorem ChainMsg.new_receiver {minimumReceive : String} {currentChainAddress : Option String}
    {msg : ChainMsg} (h : ChainMsg.new path minimumReceive receiver currentChainAddress memo = .ok msg) :
    receiver.getD "" ≠ "" := by
  unfold ChainMsg.new at h
  split at h
  · cases h
  · split at h
    · cases h
    · assumption

theorem oraichainMsg_receiver {msg : OraichainMsg}
    (h : oraichainMsg env addresses slippage path receiver memo = .ok msg) :
    receiver.getD "" ≠ "" := by
  obtain ⟨destPrefix, -, h⟩ := bind_eq_ok.mp h
  dsimp only at h
  split at h
  · cases h
  · obtain ⟨msg', hnew, -⟩ := bind_eq_ok.mp h
    obtain ⟨chain, hchain, -⟩ := bind_eq_ok.mp hnew
    exact ChainMsg.new_receiver hchain

theorem osmosisMsg_receiver {msg : OsmosisMsg}
    (h : osmosisMsg env addresses slippage path receiver memo = .ok msg) :
    receiver.getD "" ≠ "" := by
  obtain ⟨msg', hnew, -⟩ := bind_eq_ok.mp h
  obtain ⟨chain, hchain, -⟩ := bind_eq_ok.mp hnew
  exact ChainMsg.new_receiver hchain

theorem cosmosMsg_buildable {msg : CosmosMsg}
    (h : cosmosMsg env addresses slippage path receiver memo = .ok msg) :
    Buildable path receiver := by
  rw [cosmosMsg] at h
  split at h
  · cases h
  · rename_i hchain
    obtain ⟨msg', hnew, -⟩ := bind_eq_ok.mp h
    obtain ⟨chain, hnew, -⟩ := bind_eq_ok.mp hnew
    exact ⟨ChainMsg.new_receiver hnew, Bool.eq_false_iff.mpr hchain⟩

theorem buildMemoSwap_buildable {previousChain : Option String} {response : MiddlewareResponse}
    (h : buildMemoSwap env addresses slippage path receiver memo previousChain = .ok response) :
    Buildable path receiver := by
  rw [buildMemoSwap] at h
  split at h
  · rename_i hchain
    obtain ⟨msg, hmsg, -⟩ := bind_eq_ok.mp h
    exact ⟨oraichainMsg_receiver hmsg, by rw [hchain]; decide⟩
  · split at h
    · rename_i hchain
      obtain ⟨msg, hmsg, -⟩ := bind_eq_ok.mp h
      exact ⟨osmosisMsg_receiver hmsg, by rw [hchain]; decide⟩
    · obtain ⟨msg, hmsg, -⟩ := bind_eq_ok.mp h
      exact cosmosMsg_buildable hmsg

theorem buildExecuteMsg_buildable {object : EncodeObject}
    (h : buildExecuteMsg env addresses slippage path receiver memo = .ok object) :
    Buildable path receiver := by
  rw [buildExecuteMsg] at h
  split at h
  · rename_i hchain
    obtain ⟨msg, hmsg, -⟩ := bind_eq_ok.mp h
    exact ⟨oraichainMsg_receiver hmsg, by rw [hchain]; decide⟩
  · split at h
    · rename_i hchain
      obtain ⟨msg, hmsg, -⟩ := bind_eq_ok.mp h
      exact ⟨osmosisMsg_receiver hmsg, by rw [hchain]; decide⟩
    · obtain ⟨msg, hmsg, -⟩ := bind_eq_ok.mp h
      exact cosmosMsg_buildable hmsg

theorem memoLoop_buildable {rest : List Path} {previousChain : String} {memo : MemoText}
    {receiver' : Option String}
    (h : memoLoop env addresses slippage receiver previousChain rest = .ok (memo, receiver')) :
    (∀ path ∈ rest, startsWith path.chainId "0x" = false) ∧
      (receiver'.getD "" ≠ "" → receiver.getD "" ≠ "") := by
  induction rest generalizing previousChain memo receiver' with
  | nil =>
    cases h
    exact ⟨List.forall_mem_nil _, id⟩
  | cons path rest ih =>
    obtain ⟨⟨memo', later⟩, hloop, h⟩ := bind_eq_ok.mp h
    obtain ⟨swapInfo, hbuild, h⟩ := bind_eq_ok.mp h
    have hpath := buildMemoSwap_buildable hbuild
    obtain ⟨hrest, hreceiver⟩ := ih hloop
    exact ⟨List.forall_mem_cons.mpr ⟨hpath.chain, hrest⟩, fun _ => hreceiver hpath.receiver_ne⟩

theorem generateMsgSwap_buildable {route : Route} {recipientAddress : Option String}
    {object : EncodeObject}
    (h : generateMsgSwap env addresses slippage route recipientAddress = .ok object) :
    (∀ path ∈ route.paths, startsWith path.chainId "0x" = false) ∧
      ∀ path, route.paths.getLast? = some path → truthy recipientAddress = none →
        (addresses path.tokenOutChainId).getD "" ≠ "" := by
  rw [generateMsgSwap] at h
  split at h
  · cases h
  · rename_i path rest hpaths
    obtain ⟨receiver, hfinal, h⟩ := bind_eq_ok.mp h
    obtain ⟨⟨memo, receiver'⟩, hloop, h⟩ := bind_eq_ok.mp h
    have hpath := buildExecuteMsg_buildable h
    obtain ⟨hrest, hreceiver⟩ := memoLoop_buildable hloop
    rw [hpaths]
    refine ⟨List.forall_mem_cons.mpr ⟨hpath.chain, hrest⟩, fun last hlast hrecipient => ?_⟩
    rw [List.getLast?_eq_some_getLast (by simp)] at hlast
    cases hlast
    rw [finalReceiver, hrecipient] at hfinal
    cases hfinal
    exact hreceiver hpath.receiver_ne

end Build

end Message

namespace UniversalSwap
open Js Outcome Message Interaction Program

theorem visitChain_other {codec : Bech32Codec} {oraiAddress : String} {injAddress : Option String}
    {acc acc' : Addresses} {chain : CosmosChain} {key : String} (hkey : chain.chainId ≠ key)
    (h : visitChain codec oraiAddress injAddress acc chain = .ok acc') : acc' key = acc key := by
  rw [visitChain] at h
  split at h
  · cases h
    rfl
  · split at h
    · cases h
      rfl
    · obtain ⟨address, -, h⟩ := bind_eq_ok.mp h
      cases h
      exact Function.update_of_ne hkey.symm _ _

theorem generateAddress_other {codec : Bech32Codec} {oraiAddress : String}
    {injAddress : Option String} {cosmosChains : List CosmosChain} {evmInfo addresses : Addresses}
    {key : String} (horai : key ≠ "Oraichain") (hinj : key ≠ "injective-1")
    (hchains : ∀ chain ∈ cosmosChains, chain.chainId ≠ key)
    (h : generateAddress codec oraiAddress injAddress cosmosChains (some evmInfo) = .ok addresses) :
    addresses key = evmInfo key := by
  obtain ⟨cosmosAddress, hloop, h⟩ := bind_eq_ok.mp h
  have hnone : cosmosAddress key = none := by
    refine foldlM_induct (P := fun _ acc => acc key = none) (keyAddresses_other _ _ horai hinj) ?_ hloop
    intro done chain acc acc' hpassed hacc hstep
    rw [visitChain_other (hchains chain (hpassed.subset (by simp))) hstep, hacc]
  cases h
  change (evmInfo key <|> cosmosAddress key) = evmInfo key
  rw [hnone]
  cases evmInfo key <;> rfl

inductive Unsupported (handler : Handler) : Prop where
  | noOptions (hoptions : handler.swapOptions = none)
  | fromTon (hplain : handler.option (·.isAlphaIbcWasm) = false)
      (hfrom : handler.swapData.originalFromToken.chainId = "ton")
  | toTon (hplain : handler.option (·.isAlphaIbcWasm) = false)
      (hfrom : handler.swapData.originalFromToken.chainId = "Oraichain")
      (hto : handler.swapData.originalToToken.chainId = "ton")
  | noBridge (hgravity : gravityContracts handler.swapData.originalFromToken.chainId = none)
      (hfrom : handler.swapData.originalFromToken.chainId ∉ ["Oraichain", "ton"])
      (hcosmos : handler.swapData.originalFromToken.chainId = "kawaii_6886-1" ∨
        handler.common.cosmosTokens.any
          (·.chainId = handler.swapData.originalFromToken.chainId) = false)
  -- A route of the alpha router has a path on an EVM chain, or ends where the sender has no address.
  | evmPath {routes : List Route} {route : Route} {path : Path}
      (halpha : handler.option (·.isAlphaIbcWasm) = true)
      (hgravity : gravityContracts handler.swapData.originalFromToken.chainId = none)
      (hton : handler.swapData.originalFromToken.chainId ≠ "ton")
      (hroutes : handler.swapData.alphaSmartRoutes = some routes) (hroute : route ∈ routes)
      (hpath : path ∈ route.paths) (hevm : startsWith path.chainId "0x" = true)
  | noReceiver {routes : List Route} {route : Route} {path : Path}
      (halpha : handler.option (·.isAlphaIbcWasm) = true)
      (hgravity : gravityContracts handler.swapData.originalFromToken.chainId = none)
      (hton : handler.swapData.originalFromToken.chainId ≠ "ton")
      (hroutes : handler.swapData.alphaSmartRoutes = some routes) (hroute : route ∈ routes)
      (hpath : route.paths.getLast? = some path)
      (hrecipient : truthy handler.swapData.recipientAddress = none)
      (hchain : path.tokenOutChainId ∉ ["Oraichain", "injective-1", "0x2b6653dc"])
      (hchains : ∀ chain ∈ handler.common.cosmosChains, chain.chainId ≠ path.tokenOutChainId)
      (hsender : (handler.evmInfo none path.tokenOutChainId).getD "" = "")

namespace Handler

variable {handler : Handler}

theorem getRoute_types {cosmosTokens : List SwapToken} {fromToken toToken : SwapToken}
    {destReceiver : Option String} {universalSwapType : UniversalSwapType} {isSmartRouter : Bool}
    (h : getRoute cosmosTokens fromToken toToken destReceiver =
      .ok ⟨universalSwapType, isSmartRouter⟩) :
    universalSwapType = .otherNetworksToOraichain ∨
    (universalSwapType = .tonToOthers ∧ fromToken.chainId = "ton") ∨
    (swapsFromCosmos universalSwapType = true ∧ fromToken.chainId = "Oraichain") ∨
    (universalSwapType = .cosmosToOthers ∧
      fromToken.chainId ∉ ["ton", "Oraichain", "kawaii_6886-1"] ∧
      cosmosTokens.any (·.chainId = fromToken.chainId) = true) := by
  rw [getRoute] at h
  split at h
  · cases h
    exact .inl rfl
  · split at h
    · rename_i hton
      cases h
      exact .inr (.inl ⟨rfl, hton⟩)
    · rename_i hton
      split at h
      · rename_i horai
        refine .inr (.inr (.inl ⟨?_, horai⟩))
        split at h
        · cases h
          rfl
        · split at h
          · cases h
            rfl
          · split at h <;> cases h <;> rfl
      · rename_i horai
        split at h
        · cases h
        · rename_i hkawaii
          simp only [List.mem_cons, List.not_mem_nil, or_false, not_or] at hkawaii
          split at h
          · rename_i hany
            cases h
            exact .inr (.inr (.inr ⟨rfl, by simp [hton, horai, hkawaii.1], hany⟩))
          · left
            repeat' split at h
            all_goals
              cases h
              rfl

theorem signSmartRoutes_refuses {routes : List Route} {universalSwapType : UniversalSwapType}
    {receiverAddresses : Addresses} (hroutes : handler.swapData.alphaSmartRoutes = some routes)
    {route : Route} (hroute : route ∈ routes)
    (hbuild : ∀ object, generateMsgSwap handler.env receiverAddresses handler.swapData.slippage route
      handler.swapData.recipientAddress ≠ .ok object) :
    (handler.signSmartRoutes universalSwapType receiverAddresses).Refuses Request.Moves := by
  refine .lift fun routes' hsmart => .after (checkSmartBalance_quiet _) fun _ _ _ => ?_
  refine .lift fun msgs hmsgs => ?_
  rw [smartRoutes, hroutes] at hsmart
  have hsame : routes' = routes := by
    cases routes <;> cases hsmart
    rfl
  subst hsame
  obtain ⟨object, -, hobject⟩ := exists_of_forall₂ (forall₂_of_mapM hmsgs) route hroute
  exact absurd hobject (hbuild object)

theorem submit_refuses
    (hgravity : gravityContracts handler.swapData.originalFromToken.chainId = none)
    {prepared : PreparedSwap}
    (htype : prepared.universalSwapType = .otherNetworksToOraichain ∨
      handler.option (·.isAlphaIbcWasm) = false ∧
        prepared.universalSwapType ∈ [.tonToOthers, .oraichainToTon]) :
    (handler.submit prepared).Refuses Request.Moves := by
  rw [submit]
  rcases htype with htype | ⟨hplain, htype⟩
  · split
    · refine .lift fun receiverAddresses _ => ?_
      rw [alphaSmartRouterSwapNewMsg, htype]
      exact transferAndSwap_refuses hgravity _
    · rw [dispatch, htype]
      exact transferAndSwap_refuses hgravity _
  · rw [if_neg (by simp [hplain]), dispatch]
    simp only [List.mem_cons, List.not_mem_nil, or_false] at htype
    rcases htype with htype | htype <;> rw [htype] <;> exact transferAndSwap_refuses hgravity _

theorem submit_routes_refuses (halpha : handler.option (·.isAlphaIbcWasm) = true)
    (hgravity : gravityContracts handler.swapData.originalFromToken.chainId = none)
    {prepared : PreparedSwap} (htype : prepared.universalSwapType = .otherNetworksToOraichain ∨
      swapsFromCosmos prepared.universalSwapType = true)
    {routes : List Route} (hroutes : handler.swapData.alphaSmartRoutes = some routes) {route : Route}
    (hroute : route ∈ routes)
    (hbuild : ∀ receiverAddresses object, generateAddress handler.codec prepared.oraiAddress
        prepared.injAddress handler.common.cosmosChains (some (handler.evmInfo prepared.tronAddress)) =
          .ok receiverAddresses →
      generateMsgSwap handler.env receiverAddresses handler.swapData.slippage route
        handler.swapData.recipientAddress ≠ .ok object) :
    (handler.submit prepared).Refuses Request.Moves := by
  rcases htype with htype | htype
  · exact submit_refuses hgravity (.inl htype)
  · rw [submit, if_pos halpha]
    refine .lift fun receiverAddresses haddresses => ?_
    rw [alphaSmartRouterSwapNewMsg, if_pos htype]
    exact (signSmartRoutes_refuses hroutes hroute fun object =>
      hbuild receiverAddresses object haddresses).map _

theorem generateAddress_evm {oraiAddress : String} {injAddress tronAddress : Option String}
    {receiverAddresses : Addresses} {chainId : String}
    (hchain : chainId ∉ ["Oraichain", "injective-1", "0x2b6653dc"])
    (hchains : ∀ chain ∈ handler.common.cosmosChains, chain.chainId ≠ chainId)
    (h : generateAddress handler.codec oraiAddress injAddress handler.common.cosmosChains
      (some (handler.evmInfo tronAddress)) = .ok receiverAddresses) :
    receiverAddresses chainId = handler.evmInfo none chainId := by
  simp only [List.mem_cons, List.not_mem_nil, or_false, not_or] at hchain
  obtain ⟨horai, hinj, htron⟩ := hchain
  rw [generateAddress_other horai hinj hchains h]
  simp [evmInfo, htron]

theorem signed_types {cosmosTokens : List SwapToken} {fromToken toToken : SwapToken}
    {destReceiver : Option String} {universalSwapType : UniversalSwapType} {isSmartRouter : Bool}
    (h : getRoute cosmosTokens fromToken toToken destReceiver =
      .ok ⟨universalSwapType, isSmartRouter⟩) (hton : fromToken.chainId ≠ "ton") :
    universalSwapType = .otherNetworksToOraichain ∨ swapsFromCosmos universalSwapType = true := by
  rcases getRoute_types h with htype | ⟨-, hcontra⟩ | ⟨htype, -⟩ | ⟨htype, -⟩
  · exact .inl htype
  · exact absurd hcontra hton
  · exact .inr htype
  · exact .inr (by rw [htype]; rfl)

theorem processUniversalSwap_refuses (h : Unsupported handler) :
    handler.processUniversalSwap.Refuses Request.Moves := by
  refine .after prepareSwap_quiet fun first prepared hprepared => ?_
  obtain ⟨⟨options, hoptions⟩, isSmartRouter, hroute⟩ := prepareSwap_ok hprepared
  have htypes := getRoute_types hroute
  cases h with
  | noOptions hnone =>
    cases hnone.symm.trans hoptions
  | fromTon hplain hfrom =>
    refine submit_refuses (by rw [hfrom]; rfl) ?_
    rcases htypes with htype | ⟨htype, -⟩ | ⟨-, horai⟩ | ⟨-, hcosmos, -⟩
    · exact .inl htype
    · exact .inr ⟨hplain, by simp [htype]⟩
    · exact absurd (hfrom.symm.trans horai) (by decide)
    · exact absurd hcosmos (by simp [hfrom])
  | toTon hplain hfrom hto =>
    refine submit_refuses (by rw [hfrom]; rfl) ?_
    refine (getRoute_fromOraichain hfrom hroute).imp_right fun htype => ⟨hplain, ?_⟩
    rw [hto, if_neg (by decide), if_pos rfl] at htype
    simp [htype]
  | noBridge hgravity hfrom hcosmos =>
    refine submit_refuses hgravity (.inl ?_)
    simp only [List.mem_cons, List.not_mem_nil, or_false, not_or] at hfrom
    rcases htypes with htype | ⟨-, hton⟩ | ⟨-, horai⟩ | ⟨-, hnot, hany⟩
    · exact htype
    · exact absurd hton hfrom.2
    · exact absurd horai hfrom.1
    · rcases hcosmos with hkawaii | hnone
      · exact absurd hnot (by simp [hkawaii])
      · exact absurd (hnone.symm.trans hany) (by decide)
  | evmPath halpha hgravity hton hroutes hmem hpath hevm =>
    refine submit_routes_refuses halpha hgravity (signed_types hroute hton) hroutes hmem ?_
    intro receiverAddresses object haddresses hobject
    have hchain := (generateMsgSwap_buildable hobject).1 _ hpath
    exact absurd (hchain.symm.trans hevm) (by decide)
  | noReceiver halpha hgravity hton hroutes hmem hpath hrecipient hchain hchains hsender =>
    refine submit_routes_refuses halpha hgravity (signed_types hroute hton) hroutes hmem ?_
    intro receiverAddresses object haddresses hobject
    refine (generateMsgSwap_buildable hobject).2 _ hpath hrecipient ?_
    rw [generateAddress_evm hchain hchains haddresses]
    exact hsender

end Handler

section Alpha

def toKawaii : Path where
  chainId := "Oraichain"
  tokenIn := "orai1usdt"
  tokenInAmount := "5000000"
  tokenOut := "0xusdt"
  tokenOutAmount := "5000000"
  tokenOutChainId := "0x1ae6"
  actions := []

-- The user has an address on EVM chains, and the router offers a path to Kawaiiverse.
def toKawaiiHandler : Handler :=
  { toBscHandler with
    swapData := { toBscHandler.swapData with
      originalToToken := tether "0x1ae6" "0xusdt"
      alphaSmartRoutes := some [⟨"5000000", "5000000", [toKawaii]⟩] }
    swapOptions := some ⟨false, false, false, true, false, false⟩ }

theorem toKawaii_refuses : toKawaiiHandler.processUniversalSwap.Refuses Request.Moves :=
  Handler.processUniversalSwap_refuses <|
    @Unsupported.noReceiver toKawaiiHandler [⟨"5000000", "5000000", [toKawaii]⟩] _ toKawaii rfl rfl
      (by decide) rfl List.mem_cons_self rfl rfl (by decide) (by decide) rfl

end Alpha

end UniversalSwap

end OraidexSdk
