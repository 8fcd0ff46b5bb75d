import OraidexSdk.UniversalSwap.ProcessSwap

namespace OraidexSdk.UniversalSwap
open Js Outcome Message Interaction Program

namespace Handler

variable {handler : Handler}

section Quiet

theorem withCosmosWallet_asks {α : Type} {P : Request → Prop} {program : Handles α}
    (h : program.Asks P) : (handler.withCosmosWallet program).Asks P := by
  rw [withCosmosWallet]
  split
  · exact h
  · exact asks_lift _

theorem withEvmWallet_asks {α : Type} {P : Request → Prop} {program : Handles α}
    (h : program.Asks P) : (handler.withEvmWallet program).Asks P := by
  rw [withEvmWallet]
  split
  · exact h
  · exact asks_lift _

theorem getKeplrAddr_quiet (chainId : String) : MovesNothing (handler.getKeplrAddr chainId) :=
  withCosmosWallet_asks (ask_quiet rfl)

theorem getCosmWasmClient_quiet (chainId rpc : String) (gasPrice : Option String) :
    MovesNothing (handler.getCosmWasmClient chainId rpc gasPrice) :=
  withCosmosWallet_asks (ask_quiet rfl)

theorem oraichainClient_quiet : MovesNothing handler.oraichainClient :=
  Asks.bind (asks_lift _) fun _ => getCosmWasmClient_quiet _ _ _

theorem fromChainClient_quiet : MovesNothing handler.fromChainClient :=
  Asks.bind (asks_lift _) fun _ => getCosmWasmClient_quiet _ _ _

theorem getUniversalSwapToAddress_quiet (toChainId : String) (sender : Sender) :
    MovesNothing (handler.getUniversalSwapToAddress toChainId sender) := by
  rw [getUniversalSwapToAddress]
  split
  · split
    · exact asks_pure _
    · exact withEvmWallet_asks (ask_quiet rfl)
  · split
    · split
      · exact asks_pure _
      · split
        · exact ask_quiet rfl
        · exact asks_lift _
    · split
      · split
        · exact asks_lift _
        · refine withEvmWallet_asks ?_
          split <;> exact asks_lift _
      · split
        · exact getKeplrAddr_quiet toChainId
        · exact asks_lift _

theorem getToAddressUniversalSwap_quiet : MovesNothing handler.getToAddressUniversalSwap := by
  rw [getToAddressUniversalSwap]
  split
  · split
    · split
      · exact asks_lift _
      · exact asks_pure _
    · exact asks_lift _
  · exact getUniversalSwapToAddress_quiet _ _

theorem minimumReceive_quiet : MovesNothing handler.minimumReceive := by
  rw [minimumReceive]
  split
  · rw [calculateMinimumReceive]
    split
    · exact asks_lift _
    · refine Asks.bind (getCosmWasmClient_quiet _ _ _) fun _ => ?_
      exact Asks.bind (asks_lift _) fun _ => asks_lift _
  · exact asks_pure _

theorem checkRelayerFee_quiet : MovesNothing handler.checkRelayerFee := by
  rw [checkRelayerFee]
  split
  · exact asks_pure _
  · refine Asks.bind (asks_lift _) fun isSufficient => ?_
    split
    · exact asks_pure _
    · exact asks_lift _

theorem checkBalanceChannelIbc_quiet (ibcInfo : IBCChannel) (fromToken toToken : SwapToken)
    (toSimulateAmount : String) :
    MovesNothing (handler.checkBalanceChannelIbc ibcInfo fromToken toToken toSimulateAmount) := by
  refine Asks.rescue (Asks.bind ?_ fun balance => ?_) fun _ => asks_lift _
  · exact Asks.rescue ((ask_quiet rfl).map _) fun _ => asks_pure _
  · split
    · refine Asks.bind (ask_quiet rfl) fun pairMapping => ?_
      split
      · exact asks_pure _
      · refine Asks.bind (asks_lift _) fun trueBalance => Asks.bind (asks_lift _) fun toAmount => ?_
        split
        · exact asks_lift _
        · exact asks_pure _
    · exact asks_pure _

theorem checkBalanceIBCOraichain_quiet (toToken fromToken : SwapToken) :
    MovesNothing (handler.checkBalanceIBCOraichain toToken fromToken) := by
  rw [checkBalanceIBCOraichain]
  split
  · exact asks_pure _
  · split
    · exact asks_pure _
    · split
      · exact asks_pure _
      · refine Asks.bind (Asks.bind ?_ fun _ => asks_lift _) fun balance => ?_
        · split <;> exact ask_quiet rfl
        · dsimp only
          split
          · exact asks_lift _
          · split
            · refine Asks.bind (asks_lift _) fun ibcInfo => ?_
              exact checkBalanceChannelIbc_quiet _ _ _ _
            · exact asks_pure _

theorem checkChannelBalance_quiet : MovesNothing handler.checkChannelBalance := by
  rw [checkChannelBalance]
  split
  · exact asks_pure _
  · exact Asks.bind (asks_lift _) fun ibcInfo => checkBalanceChannelIbc_quiet _ _ _ _

theorem checkBridgeBalance_quiet : MovesNothing handler.checkBridgeBalance := by
  rw [checkBridgeBalance]
  split
  · exact asks_pure _
  · exact checkBalanceIBCOraichain_quiet _ _

theorem combineSwapMsgOraichain_quiet : MovesNothing handler.combineSwapMsgOraichain := by
  rw [combineSwapMsgOraichain]
  split
  · exact asks_lift _
  · refine Asks.bind (asks_lift _) fun ibcInfo => Asks.bind (asks_lift _) fun recipient => ?_
    refine Asks.bind ?_ fun ibcReceiveAddr => ?_
    · split
      · exact asks_pure _
      · exact getKeplrAddr_quiet _
    · split <;> exact asks_lift _

theorem combineMsgEvm_quiet (metamaskAddress tronAddress : Option String) :
    MovesNothing (handler.combineMsgEvm metamaskAddress tronAddress) := by
  refine Asks.bind (asks_lift _) fun msgExecuteSwap => Asks.bind (asks_lift _) fun newToToken => ?_
  refine Asks.bind (getKeplrAddr_quiet _) fun toAddress => ?_
  split <;> exact asks_lift _

theorem encodedObjects_quiet (universalSwapType : UniversalSwapType) :
    MovesNothing (handler.encodedObjects universalSwapType) := by
  cases universalSwapType with
  | oraichainToCosmos => exact combineSwapMsgOraichain_quiet
  | oraichainToEvm => exact Asks.bind checkRelayerFee_quiet fun _ => combineMsgEvm_quiet _ _
  | _ => exact asks_lift _

theorem switchNetwork_quiet : MovesNothing handler.switchNetwork := by
  refine withEvmWallet_asks ?_
  split
  · exact asks_pure _
  · exact ask_quiet rfl

theorem checkSmartBalance_quiet (universalSwapType : UniversalSwapType) :
    MovesNothing (handler.checkSmartBalance universalSwapType) := by
  rw [checkSmartBalance]
  split
  · exact Asks.bind fromChainClient_quiet fun _ => checkChannelBalance_quiet
  · exact asks_pure _

theorem routeKeys_quiet : MovesNothing handler.routeKeys := by
  rw [routeKeys]
  split
  · refine Asks.bind (asks_lift _) fun routesFlatten => Asks.bind ?_ fun injAddress => ?_
    · split
      · exact (getKeplrAddr_quiet _).map _
      · exact asks_pure _
    · refine Asks.bind ?_ fun tronAddress => asks_pure _
      split
      · exact (asks_lift _).map _
      · exact asks_pure _
  · exact asks_pure _

end Quiet

section Moves

theorem swap_movesOnce : MovesOnce handler.swap :=
  .after (asks_lift _) fun _ => .after (getCosmWasmClient_quiet _ _ _) fun _ => ask_movesOnce _

theorem swapAndTransferToOtherNetworks_movesOnce (universalSwapType : UniversalSwapType) :
    MovesOnce (handler.swapAndTransferToOtherNetworks universalSwapType) := by
  rw [swapAndTransferToOtherNetworks]
  split
  · refine .after oraichainClient_quiet fun _ => .after (getKeplrAddr_quiet _) fun oraiAddress => ?_
    dsimp only
    split
    · exact (asks_lift _).quiet
    · refine .after (encodedObjects_quiet universalSwapType) fun encodedObjects => ?_
      exact .after checkChannelBalance_quiet fun _ => ask_movesOnce _
  · exact (asks_lift _).quiet

theorem bridgeFromEvm_movesOnce (swapRoute : String) :
    MovesOnce (handler.bridgeFromEvm swapRoute) :=
  .after checkBridgeBalance_quiet fun _ => .after checkRelayerFee_quiet fun _ =>
    handler.transferEvmToIBC_movesOnce swapRoute

theorem transferAndSwap_movesOnce (swapRoute : String) :
    MovesOnce (handler.transferAndSwap swapRoute) := by
  rw [transferAndSwap]
  split
  · exact (asks_lift _).quiet
  · split
    · refine .after (getCosmWasmClient_quiet _ _ _) fun _ => .after switchNetwork_quiet fun _ => ?_
      split
      · exact (handler.evmSwap_movesOnce _).map _
      · exact bridgeFromEvm_movesOnce swapRoute
    · exact (asks_lift _).quiet

theorem swapCosmosToOtherNetwork_movesOnce (destinationReceiver : String) :
    MovesOnce (handler.swapCosmosToOtherNetwork destinationReceiver) := by
  refine .after fromChainClient_quiet fun _ => .after (asks_lift _) fun amount => ?_
  refine .after (asks_lift _) fun ibcInfo => .after (getKeplrAddr_quiet _) fun oraiAddress => ?_
  refine .after minimumReceive_quiet fun minimumReceive => .after (asks_lift _) fun route => ?_
  exact .after (asks_lift _) fun msgTransfer => ask_movesOnce _

theorem transferAndSwapTon_movesOnce (swapRoute : String) :
    MovesOnce (handler.transferAndSwapTon swapRoute) := by
  rw [transferAndSwapTon]
  split
  · exact (asks_lift _).quiet
  · split
    · refine .after (getCosmWasmClient_quiet _ _ _) fun _ => .after checkBridgeBalance_quiet fun _ => ?_
      refine .after checkRelayerFee_quiet fun _ => .after (ask_quiet rfl) fun tonCenterUrl => ?_
      refine .after (ask_quiet rfl) fun receiver => ?_
      exact (ask_movesOnce _).followed (fun _ => asks_pure _) fun _ =>
        Request.not_moves_of_isReceipt
    · exact (asks_lift _).quiet

theorem signSmartRoutes_movesOnce (universalSwapType : UniversalSwapType)
    (receiverAddresses : Addresses) :
    MovesOnce (handler.signSmartRoutes universalSwapType receiverAddresses) :=
  .after (asks_lift _) fun _ => .after (checkSmartBalance_quiet _) fun _ =>
    .after (asks_lift _) fun _ => .after fromChainClient_quiet fun _ => ask_movesOnce _

theorem alphaSmartRouterSwapNewMsg_movesOnce (swapRoute : String)
    (universalSwapType : UniversalSwapType) (receiverAddresses : Addresses) :
    MovesOnce
      (handler.alphaSmartRouterSwapNewMsg swapRoute universalSwapType receiverAddresses) := by
  rw [alphaSmartRouterSwapNewMsg]
  split
  · exact (signSmartRoutes_movesOnce _ _).map _
  · split
    · exact (transferAndSwapTon_movesOnce swapRoute).map _
    · exact transferAndSwap_movesOnce swapRoute

theorem dispatch_movesOnce (prepared : PreparedSwap) : MovesOnce (handler.dispatch prepared) := by
  rw [dispatch]
  split
  · exact swap_movesOnce.map _
  · exact (swapAndTransferToOtherNetworks_movesOnce _).map _
  · exact (swapAndTransferToOtherNetworks_movesOnce _).map _
  · exact (swapCosmosToOtherNetwork_movesOnce _).map _
  · exact transferAndSwap_movesOnce _

theorem submit_movesOnce (prepared : PreparedSwap) : MovesOnce (handler.submit prepared) := by
  rw [submit]
  split
  · exact .after (asks_lift _) fun _ => alphaSmartRouterSwapNewMsg_movesOnce _ _ _
  · exact dispatch_movesOnce prepared

end Moves

theorem prepareSwap_quiet : MovesNothing handler.prepareSwap := by
  refine Asks.bind getToAddressUniversalSwap_quiet fun _ => Asks.bind (getKeplrAddr_quiet _) fun _ => ?_
  refine Asks.bind (asks_lift _) fun _ => Asks.bind minimumReceive_quiet fun _ => ?_
  exact Asks.bind routeKeys_quiet fun _ => Asks.bind (asks_lift _) fun _ => asks_pure _

theorem processUniversalSwap_moves_once {trace : List Asked}
    {outcome : Except JsError (Option String)}
    (hrun : Runs handler.processUniversalSwap trace outcome) :
    (trace.filter fun e => Request.moves e.request).length ≤ 1 ∧
      trace.Pairwise fun e later =>
        Request.moves e.request = true → Request.isReceipt later.request = true := by
  have honce : MovesOnce handler.processUniversalSwap :=
    .after prepareSwap_quiet fun prepared => submit_movesOnce prepared
  refine ⟨?_, honce trace outcome hrun⟩
  simpa only [Bool.decide_eq_true] using
    (honce trace outcome hrun).length_le_one fun _ => Request.not_moves_of_isReceipt

end Handler

section Plain

def oraiTether : SwapToken :=
  { tether "Oraichain" "orai1usdt" with feeCurrencies := some ["orai"], cosmosBased := true }

def bridgeTether : SwapToken :=
  { tether "oraibridge-subnet-2" "" with
    contractAddress := none
    denomPrefix := some ORAI_BRIDGE_EVM_DENOM_PREFIX
    bridgeNetworkIdentifier := some "0x38"
    cosmosBased := true }

-- A handler whose user sends 5 USDT from Oraichain to BNB Smart Chain on the plain routes.
def toBscHandler : Handler :=
  { tetherHandler "0x38" "0xusdt" 5 with
    swapData := { (tetherHandler "0x38" "0xusdt" 5).swapData with
      originalFromToken := oraiTether
      originalToToken := { tether "0x38" USDT_BSC_CONTRACT with denomPrefix := some "oraib" }
      simulateAmount := "5000000" }
    swapOptions := some ⟨false, false, false, false, false, false⟩
    hasCosmosWallet := true
    evmWallet := { browserWallet with env := oraiEnvironment }
    common := { emptyCommon with
      oraichainTokens := [oraiTether]
      cosmosTokens := [bridgeTether]
      cosmosChains := [⟨⟨"Oraichain", "orai"⟩, 118⟩] } }

-- The wallet is the sender's own, and the channel and the bridge hold 7 USDT.
def openAnswers : ∀ request : Request, Except JsError request.Answer
  | .getKeplrAddr _ => .ok exampleAddress
  | .channelWithKey .. => .ok (.native "7000000")
  | .pairMapping .. => .ok ⟨6, false⟩
  | .tokenBalance .. => .ok "7000000"
  | request => .ok request.someAnswer

theorem toBsc_outcome : (toBscHandler.processUniversalSwap.run (I := requests) openAnswers).2 =
    .ok (some "0x") := by
  decide +kernel

theorem toBsc_moves_once :
    let run := toBscHandler.processUniversalSwap.run (I := requests) openAnswers
    run.2 = .ok (some "0x") ∧ (∃ e ∈ run.1, Request.moves e.request = true) ∧
      (run.1.filter fun e => Request.moves e.request).length ≤ 1 ∧
      run.1.Pairwise fun e later =>
        Request.moves e.request = true → Request.isReceipt later.request = true := by
  intro run
  have hrun : Runs toBscHandler.processUniversalSwap run.1 run.2 := runs_run (I := requests) openAnswers _
  exact ⟨toBsc_outcome, by decide +kernel, Handler.processUniversalSwap_moves_once hrun⟩

end Plain

end OraidexSdk.UniversalSwap
