import OraidexSdk.UniversalSwap.SwapRuns

namespace OraidexSdk.UniversalSwap
open Js Outcome Message Interaction Program

abbrev Request.Moves (request : Request) : Prop := request.moves = true

def Request.bridgesOut : Request → Bool
  | transact (.sendToCosmos ..) | sendToCosmos .. => true
  | sendRawTransaction call _ => call.functionSelector ≠ approveSelector
  | _ => false

abbrev Request.BridgesOut (request : Request) : Prop := request.bridgesOut = true

theorem Request.BridgesOut.moves {request : Request} (h : request.BridgesOut) : request.Moves := by
  cases request with
  | transact transaction => cases transaction <;> first | rfl | cases h
  | sendRawTransaction call signedTransaction => exact h
  | sendToCosmos receiver amount denom memo => rfl
  | _ => cases h

theorem readDefined_eq_ok {α : Type} {value : Option α} {a : α} :
    readDefined value = .ok a ↔ value = some a := by
  cases value with
  | none => exact ⟨nofun, nofun⟩
  | some b => simp [readDefined]

namespace Handler

variable {handler : Handler}

theorem addOraiBridgeRoute_ok {addresses : RouteAddresses} {minimumReceive swapRoute : String}
    {universalSwapType : UniversalSwapType}
    (h : handler.addOraiBridgeRoute addresses minimumReceive = .ok (swapRoute, universalSwapType)) :
    (∃ options, handler.swapOptions = some options) ∧ ∃ isSmartRouter,
      getRoute handler.common.cosmosTokens handler.swapData.originalFromToken
        handler.swapData.originalToToken addresses.destReceiver =
          .ok ⟨universalSwapType, isSmartRouter⟩ := by
  obtain ⟨route, -, h⟩ := bind_eq_ok.mp h
  obtain ⟨chosen, hchosen, h⟩ := bind_eq_ok.mp h
  cases h
  obtain ⟨swapRoute, hroute, h⟩ := bind_eq_ok.mp hchosen
  obtain ⟨options, hoptions, h⟩ := bind_eq_ok.mp h
  obtain ⟨ibcWasm, -, h⟩ := bind_eq_ok.mp h
  obtain ⟨alpha, -, h⟩ := bind_eq_ok.mp h
  cases h
  exact ⟨⟨options, readDefined_eq_ok.mp hoptions⟩, swapRoute.isSmartRouter, hroute⟩

theorem prepareSwap_ok {trace : List Asked} {prepared : PreparedSwap}
    (hrun : Runs handler.prepareSwap trace (.ok prepared)) :
    (∃ options, handler.swapOptions = some options) ∧
    ∃ isSmartRouter, getRoute handler.common.cosmosTokens handler.swapData.originalFromToken
      handler.swapData.originalToToken (some prepared.toAddress) =
        .ok ⟨prepared.universalSwapType, isSmartRouter⟩ := by
  obtain ⟨toAddress, _, _, -, -, hrun⟩ := runs_bind_ok_iff.mp hrun
  obtain ⟨oraiAddress, _, _, -, -, hrun⟩ := runs_bind_ok_iff.mp hrun
  obtain ⟨_, -, hrun⟩ := runs_lift_bind_ok_iff.mp hrun
  obtain ⟨minimumReceive, _, _, -, -, hrun⟩ := runs_bind_ok_iff.mp hrun
  obtain ⟨keys, _, _, -, -, hrun⟩ := runs_bind_ok_iff.mp hrun
  obtain ⟨route, hroute, hrun⟩ := runs_lift_bind_ok_iff.mp hrun
  obtain ⟨-, hprepared⟩ := runs_pure_iff.mp hrun
  cases hprepared
  exact addOraiBridgeRoute_ok hroute

section Checks

variable {trace : List Asked}

def ChannelChecked (handler : Handler) (check : List Asked) : Prop :=
  ∃ ibcInfo, handler.getIbcInfo "Oraichain" handler.swapData.originalToToken.chainId = .ok ibcInfo ∧
    handler.ChannelCovers ibcInfo handler.swapData.originalFromToken handler.swapData.originalToToken
      handler.swapData.simulateAmount check

theorem checkChannelBalance_ok (hchecked : handler.option (·.skipBalanceIbcCheck) = false)
    (hrun : Runs handler.checkChannelBalance trace (.ok ())) : handler.ChannelChecked trace := by
  rw [checkChannelBalance, if_neg (by simp [hchecked])] at hrun
  obtain ⟨ibcInfo, hinfo, hcheck⟩ := runs_lift_bind_ok_iff.mp hrun
  exact ⟨ibcInfo, hinfo, checkBalanceChannelIbc_ok_iff.mp hcheck⟩

theorem checkBridgeBalance_ok (hchecked : handler.option (·.skipBalanceIbcCheck) = false)
    (hrun : Runs handler.checkBridgeBalance trace (.ok ())) :
    handler.BridgeCovers handler.swapData.originalToToken handler.swapData.originalFromToken trace := by
  rw [checkBridgeBalance, if_neg (by simp [hchecked])] at hrun
  exact checkBalanceIBCOraichain_ok hrun

theorem checkRelayerFee_ok (hchecked : handler.option (·.skipRelayerFeeCheck) = false)
    (hrun : Runs handler.checkRelayerFee trace (.ok ())) : handler.checkFeeRelayer = .ok true := by
  rw [checkRelayerFee, if_neg (by simp [hchecked])] at hrun
  obtain ⟨isSufficient, hfee, hrest⟩ := runs_lift_bind_ok_iff.mp hrun
  split at hrest
  · rename_i htrue
    rw [hfee, htrue]
  · cases (runs_lift_iff.mp hrest).2

theorem checkSmartBalance_ok (hchecked : handler.option (·.skipBalanceIbcCheck) = false)
    {universalSwapType : UniversalSwapType}
    (htype : universalSwapType ∈ [.oraichainToEvm, .oraichainToCosmos])
    (hrun : Runs (handler.checkSmartBalance universalSwapType) trace (.ok ())) :
    ∃ check, check <:+: trace ∧ handler.ChannelChecked check := by
  rw [checkSmartBalance, if_pos ⟨hchecked, htype⟩] at hrun
  obtain ⟨client, first, check, rfl, -, hcheck⟩ := runs_bind_ok_iff.mp hrun
  exact ⟨check, (List.suffix_append first check).isInfix, checkChannelBalance_ok hchecked hcheck⟩

end Checks

section Refuses

-- What is neither on an EVM network nor on Tron.
variable (hgravity : gravityContracts handler.swapData.originalFromToken.chainId = none)

include hgravity

theorem evmSwapTarget_eq_none (swapRoute : String) : handler.evmSwapTarget swapRoute = none := by
  have hchain : handler.swapData.originalFromToken.chainId ≠ "0x01" ∧
      handler.swapData.originalFromToken.chainId ≠ "0x38" := by
    constructor <;>
    · intro h
      rw [h] at hgravity
      cases hgravity
  simp [evmSwapTarget, isEvmSwappable, hchain]

theorem transferEvmToIBC_refuses (swapRoute : String) :
    (handler.transferEvmToIBC swapRoute).Refuses Request.Moves := by
  rw [transferEvmToIBC, withEvmWallet]
  dsimp only
  rw [hgravity]
  split <;> exact refuses_error _

theorem transferAndSwap_refuses (swapRoute : String) :
    (handler.transferAndSwap swapRoute).Refuses Request.Moves := by
  rw [transferAndSwap, evmSwapTarget_eq_none hgravity]
  dsimp only
  split
  · exact refuses_error _
  · split
    · refine .after (getCosmWasmClient_quiet _ _ _) fun _ _ _ => .after switchNetwork_quiet fun _ _ _ => ?_
      refine .after checkBridgeBalance_quiet fun _ _ _ => .after checkRelayerFee_quiet fun _ _ _ => ?_
      exact transferEvmToIBC_refuses hgravity swapRoute
    · exact refuses_error _

end Refuses

section Channel

variable (hchecked : handler.option (·.skipBalanceIbcCheck) = false)

include hchecked

theorem swapAndTransferToOtherNetworks_checked (universalSwapType : UniversalSwapType) :
    (handler.swapAndTransferToOtherNetworks universalSwapType).Guarded Request.Moves
      handler.ChannelChecked := by
  rw [swapAndTransferToOtherNetworks]
  split
  · refine .after oraichainClient_quiet fun _ _ _ => .after (getKeplrAddr_quiet _) fun _ oraiAddress _ => ?_
    dsimp only
    split
    · exact (asks_lift _).unguarded
    · refine .after (encodedObjects_quiet universalSwapType) fun _ encodedObjects _ => ?_
      refine Asks.guards checkChannelBalance_quiet fun trace _ hrun => ?_
      exact ⟨trace, List.infix_refl trace, checkChannelBalance_ok hchecked hrun⟩
  · exact (asks_lift _).unguarded

theorem signSmartRoutes_checked {universalSwapType : UniversalSwapType}
    (htype : universalSwapType ∈ [.oraichainToEvm, .oraichainToCosmos])
    (receiverAddresses : Addresses) :
    (handler.signSmartRoutes universalSwapType receiverAddresses).Guarded Request.Moves
      handler.ChannelChecked :=
  .lift fun _ _ => Asks.guards (checkSmartBalance_quiet _) fun _ _ hrun =>
    checkSmartBalance_ok hchecked htype hrun

end Channel

section Bridge

theorem bridges_nothing {α : Type} {program : Handles α} (h : MovesNothing program) :
    program.Asks fun request : Request => ¬ request.BridgesOut :=
  h.mono fun _ hnot hbridges => hnot hbridges.moves

theorem ask_bridges_nothing {request : Request} (h : request.bridgesOut = false) :
    (ask request).Asks fun request : Request => ¬ request.BridgesOut :=
  ask_asks (ne_true_of_eq_false h)

variable {passed : List Asked → Prop}

theorem evmSwapTransaction_bridges_nothing {data : EvmSwapData}
    {gravityContractAddr routerV2Addr finalFromAmount finalRecipientAddress : String}
    {minimumReceive : Int} {trace : List Asked} {transaction : EvmTransaction}
    (hrun : Runs (handler.evmSwapTransaction data gravityContractAddr routerV2Addr finalFromAmount
      minimumReceive finalRecipientAddress) trace (.ok transaction)) :
    ¬ Request.BridgesOut (.transact transaction) := by
  rw [evmSwapTransaction] at hrun
  split at hrun
  · obtain ⟨toToken, -, hrun⟩ := runs_lift_bind_ok_iff.mp hrun
    cases (runs_pure_iff.mp hrun).2
    exact ne_true_of_eq_false rfl
  · obtain ⟨now, rest, -, hrun⟩ := runs_request_bind_ok_iff.mp hrun
    cases (runs_pure_iff.mp hrun).2
    exact ne_true_of_eq_false rfl
  · split at hrun
    · obtain ⟨now, rest, -, hrun⟩ := runs_request_bind_ok_iff.mp hrun
      cases (runs_pure_iff.mp hrun).2
      exact ne_true_of_eq_false rfl
    · obtain ⟨fromToken, -, hrun⟩ := runs_lift_bind_ok_iff.mp hrun
      obtain ⟨toToken, -, hrun⟩ := runs_lift_bind_ok_iff.mp hrun
      cases (runs_pure_iff.mp hrun).2
      exact ne_true_of_eq_false rfl

theorem evmSwap_bridges_nothing (data : EvmSwapData) :
    (handler.evmSwap data).Guarded Request.BridgesOut passed := by
  rw [evmSwap, withEvmWallet]
  split
  · refine .after (ask_bridges_nothing rfl) fun _ _ _ => .lift fun _ _ => .lift fun _ _ => .lift fun _ _ => ?_
    refine .lift fun _ _ => .after (ask_bridges_nothing rfl) fun _ _ _ => .lift fun _ _ => .lift fun _ _ => ?_
    refine .after ((EvmWallet.checkOrIncreaseAllowance_asks _ _ _ _).mono
      fun _ h hbridges => h.moves_nothing hbridges.moves) fun _ _ _ => ?_
    refine .after (evmSwapTransaction_asks handler (ne_true_of_eq_false rfl) _ _ _ _ _ _) fun _ transaction hrun => ?_
    have hsend : (EvmWallet.sendAndWait transaction).Asks
        fun request : Request => ¬ request.BridgesOut :=
      Asks.bind (ask_asks (evmSwapTransaction_bridges_nothing hrun)) fun _ =>
        Asks.bind (ask_bridges_nothing rfl) fun _ => asks_pure _
    exact (hsend.map _).unguarded
  · exact (asks_lift _).unguarded

theorem swap_bridges_nothing : handler.swap.Guarded Request.BridgesOut passed :=
  .lift fun _ _ => .after (bridges_nothing (getCosmWasmClient_quiet _ _ _)) fun _ _ _ =>
    (ask_bridges_nothing rfl).unguarded

theorem swapAndTransferToOtherNetworks_bridges_nothing (universalSwapType : UniversalSwapType) :
    (handler.swapAndTransferToOtherNetworks universalSwapType).Guarded Request.BridgesOut passed := by
  rw [swapAndTransferToOtherNetworks]
  split
  · refine .after (bridges_nothing oraichainClient_quiet) fun _ _ _ => ?_
    refine .after (bridges_nothing (getKeplrAddr_quiet _)) fun _ oraiAddress _ => ?_
    dsimp only
    split
    · exact (asks_lift _).unguarded
    · refine .after (bridges_nothing (encodedObjects_quiet universalSwapType)) fun _ _ _ => ?_
      refine .after (bridges_nothing checkChannelBalance_quiet) fun _ _ _ => ?_
      exact (ask_bridges_nothing rfl).unguarded
  · exact (asks_lift _).unguarded

theorem swapCosmosToOtherNetwork_bridges_nothing (destinationReceiver : String) :
    (handler.swapCosmosToOtherNetwork destinationReceiver).Guarded Request.BridgesOut passed := by
  refine .after (bridges_nothing fromChainClient_quiet) fun _ _ _ => .lift fun _ _ => .lift fun _ _ => ?_
  refine .after (bridges_nothing (getKeplrAddr_quiet _)) fun _ _ _ => ?_
  refine .after (bridges_nothing minimumReceive_quiet) fun _ _ _ => .lift fun _ _ => .lift fun _ _ => ?_
  exact (ask_bridges_nothing rfl).unguarded

theorem signSmartRoutes_bridges_nothing (universalSwapType : UniversalSwapType)
    (receiverAddresses : Addresses) :
    (handler.signSmartRoutes universalSwapType receiverAddresses).Guarded Request.BridgesOut passed :=
  .lift fun _ _ => .after (bridges_nothing (checkSmartBalance_quiet _)) fun _ _ _ => .lift fun _ _ =>
    .after (bridges_nothing fromChainClient_quiet) fun _ _ _ => (ask_bridges_nothing rfl).unguarded

structure BridgePassed (handler : Handler) (check : List Asked) : Prop where
  balance : handler.option (·.skipBalanceIbcCheck) = false →
    handler.BridgeCovers handler.swapData.originalToToken handler.swapData.originalFromToken check
  fee : handler.option (·.skipRelayerFeeCheck) = false → handler.checkFeeRelayer = .ok true

theorem checks_bridge {α : Type} (f : Unit → Handles α) :
    (do handler.checkBridgeBalance; handler.checkRelayerFee; f ()).Guarded Request.BridgesOut
      handler.BridgePassed := by
  intro trace outcome hrun e he hbridges
  obtain ⟨_, check, rest, rfl, hcheck, hrun, he⟩ := (bridges_nothing checkBridgeBalance_quiet).runs_bind
    hrun he (not_not_intro hbridges)
  obtain ⟨_, fee, later, rfl, hfee, -, he⟩ := (bridges_nothing checkRelayerFee_quiet).runs_bind
    hrun he (not_not_intro hbridges)
  refine ⟨check ++ fee, later, check, (List.append_assoc _ _ _).symm, ?_, ?_, he⟩
  · exact (List.prefix_append check fee).isInfix
  · exact ⟨fun hchecked => checkBridgeBalance_ok hchecked hcheck,
      fun hchecked => checkRelayerFee_ok hchecked hfee⟩

theorem transferAndSwap_checks_bridge (swapRoute : String) :
    (handler.transferAndSwap swapRoute).Guarded Request.BridgesOut handler.BridgePassed := by
  rw [transferAndSwap]
  split
  · exact (asks_lift _).unguarded
  · split
    · refine .after (bridges_nothing (getCosmWasmClient_quiet _ _ _)) fun _ _ _ => ?_
      refine .after (bridges_nothing switchNetwork_quiet) fun _ _ _ => ?_
      split
      · exact (evmSwap_bridges_nothing _).map _
      · exact checks_bridge fun _ => handler.transferEvmToIBC swapRoute
    · exact (asks_lift _).unguarded

theorem transferAndSwapTon_checks_bridge (swapRoute : String) :
    (handler.transferAndSwapTon swapRoute).Guarded Request.BridgesOut handler.BridgePassed := by
  rw [transferAndSwapTon]
  split
  · exact (asks_lift _).unguarded
  · split
    · refine .after (bridges_nothing (getCosmWasmClient_quiet _ _ _)) fun _ _ _ => ?_
      exact checks_bridge fun _ => _
    · exact (asks_lift _).unguarded

theorem submit_checks_bridge (prepared : PreparedSwap) :
    (handler.submit prepared).Guarded Request.BridgesOut handler.BridgePassed := by
  rw [submit]
  split
  · refine .lift fun receiverAddresses _ => ?_
    rw [alphaSmartRouterSwapNewMsg]
    split
    · exact (signSmartRoutes_bridges_nothing _ _).map _
    · split
      · exact (transferAndSwapTon_checks_bridge _).map _
      · exact transferAndSwap_checks_bridge _
  · rw [dispatch]
    split
    · exact swap_bridges_nothing.map _
    · exact (swapAndTransferToOtherNetworks_bridges_nothing _).map _
    · exact (swapAndTransferToOtherNetworks_bridges_nothing _).map _
    · exact (swapCosmosToOtherNetwork_bridges_nothing _).map _
    · exact transferAndSwap_checks_bridge _

theorem processUniversalSwap_checks_bridge :
    handler.processUniversalSwap.Guarded Request.BridgesOut handler.BridgePassed :=
  .after (bridges_nothing prepareSwap_quiet) fun _ prepared _ => submit_checks_bridge prepared

end Bridge

section FromOraichain

variable (hfrom : handler.swapData.originalFromToken.chainId = "Oraichain")

include hfrom

theorem getRoute_fromOraichain {cosmosTokens : List SwapToken} {destReceiver : Option String}
    {universalSwapType : UniversalSwapType} {isSmartRouter : Bool}
    (h : getRoute cosmosTokens handler.swapData.originalFromToken handler.swapData.originalToToken
      destReceiver = .ok ⟨universalSwapType, isSmartRouter⟩) :
    universalSwapType = .otherNetworksToOraichain ∨
      universalSwapType =
        if handler.swapData.originalToToken.chainId = "Oraichain" then .oraichainToOraichain
        else if handler.swapData.originalToToken.chainId = "ton" then .oraichainToTon
        else if cosmosTokens.any (·.chainId = handler.swapData.originalToToken.chainId) then
          .oraichainToCosmos
        else .oraichainToEvm := by
  rw [getRoute, if_neg (by simp [hfrom] : ¬ _ = "ton"), if_pos hfrom] at h
  split at h
  · cases h
    exact .inl rfl
  · right
    split at h
    · rename_i hto
      cases h
      rw [if_pos hto]
    · rename_i hto
      rw [if_neg hto]
      split at h
      · rename_i hton
        cases h
        rw [if_pos hton]
      · rename_i hton
        rw [if_neg hton]
        split at h
        · rename_i hcosmos
          cases h
          rw [if_pos hcosmos]
        · rename_i hevm
          cases h
          rw [if_neg hevm]

theorem submit_checked (hchecked : handler.option (·.skipBalanceIbcCheck) = false)
    (hto : handler.swapData.originalToToken.chainId ∉ ["Oraichain", "ton"]) {prepared : PreparedSwap}
    {cosmosTokens : List SwapToken} {destReceiver : Option String} {isSmartRouter : Bool}
    (hroute : getRoute cosmosTokens handler.swapData.originalFromToken
      handler.swapData.originalToToken destReceiver =
        .ok ⟨prepared.universalSwapType, isSmartRouter⟩) :
    (handler.submit prepared).Guarded Request.Moves handler.ChannelChecked := by
  have hgravity : gravityContracts handler.swapData.originalFromToken.chainId = none := by
    rw [hfrom]
    rfl
  have hnever (swapRoute : String) :
      (handler.transferAndSwap swapRoute).Guarded Request.Moves handler.ChannelChecked :=
    (transferAndSwap_refuses hgravity swapRoute).guarded
  obtain ⟨horai, hton⟩ : handler.swapData.originalToToken.chainId ≠ "Oraichain" ∧
    handler.swapData.originalToToken.chainId ≠ "ton" := by simpa using hto
  have htype := getRoute_fromOraichain hfrom hroute
  rw [if_neg horai, if_neg hton] at htype
  rw [submit]
  split
  · refine .lift fun receiverAddresses _ => ?_
    rw [alphaSmartRouterSwapNewMsg]
    rcases htype with htype | htype
    · rw [htype]
      exact hnever _
    · have hmem : prepared.universalSwapType ∈ [.oraichainToEvm, .oraichainToCosmos] := by
        rw [htype]
        split <;> simp
      split
      · exact (signSmartRoutes_checked hchecked hmem receiverAddresses).map _
      · rename_i hnot
        rw [htype] at hnot
        split at hnot <;> exact absurd rfl hnot
  · rw [dispatch]
    rcases htype with htype | htype
    · rw [htype]
      exact hnever _
    · split at htype <;> rw [htype]
      · exact (swapAndTransferToOtherNetworks_checked hchecked _).map _
      · exact (swapAndTransferToOtherNetworks_checked hchecked _).map _

theorem processUniversalSwap_checks_channel
    (hchecked : handler.option (·.skipBalanceIbcCheck) = false)
    (hto : handler.swapData.originalToToken.chainId ∉ ["Oraichain", "ton"]) :
    handler.processUniversalSwap.Guarded Request.Moves handler.ChannelChecked := by
  refine .after prepareSwap_quiet fun first prepared hprepared => ?_
  obtain ⟨-, isSmartRouter, hroute⟩ := prepareSwap_ok hprepared
  exact submit_checked hfrom hchecked hto hroute

end FromOraichain

end Handler

theorem toBsc_checks_channel :
    toBscHandler.processUniversalSwap.Guarded Request.Moves toBscHandler.ChannelChecked ∧
      ∃ e ∈ (toBscHandler.processUniversalSwap.run (I := requests) openAnswers).1,
        Request.Moves e.request :=
  ⟨Handler.processUniversalSwap_checks_channel rfl rfl (by decide), by decide +kernel⟩

end OraidexSdk.UniversalSwap
