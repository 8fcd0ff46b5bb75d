import OraidexSdk.Message.Chains.Chain
import OraidexSdk.Ordered.Keyed
import OraidexSdk.UniversalSwap.Memo

namespace OraidexSdk.UniversalSwap
open Js Outcome Message

def IBC_WASM_CONTRACT_TEST : String :=
  "orai1jtt8c2lz8emh8s708y0aeduh32xef2rxyg8y78lyvxn806cu7q0sjtxsnv"

structure IBCChannel where
  source : String
  channel : String
  timeout : Nat
deriving DecidableEq, Repr

structure IBCInfo extends IBCChannel where
  testInfo : Option IBCChannel
deriving DecidableEq, Repr

def transferInfo (channel : String) : IBCInfo :=
  ⟨⟨"transfer", channel, IBC_TRANSFER_TIMEOUT⟩, none⟩

def wasmInfo (channel testChannel : String) : IBCInfo where
  source := "wasm." ++ IBC_WASM_CONTRACT
  channel := channel
  timeout := IBC_TRANSFER_TIMEOUT
  testInfo := some ⟨"wasm." ++ IBC_WASM_CONTRACT_TEST, testChannel, IBC_TRANSFER_TIMEOUT⟩

-- ibcInfos["Oraichain"]
def ibcInfosOraichain : List (String × IBCInfo) :=
  [("cosmoshub-4", transferInfo "channel-15"),
    ("Neutaro-1", transferInfo "channel-189"),
    ("injective-1", transferInfo "channel-146"),
    ("osmosis-1", transferInfo "channel-13"),
    ("oraibridge-subnet-2", wasmInfo "channel-29" "channel-260"),
    ("0x01", wasmInfo "channel-29" "channel-260"),
    ("0x38", wasmInfo "channel-29" "channel-260"),
    ("0x2b6653dc", wasmInfo "channel-29" "channel-260"),
    ("kawaii_6886-1", transferInfo "channel-21"),
    ("noble-1", wasmInfo "channel-147" "channel-148")]

structure RouteBasic where
  minimumReceive : String
  recoveryAddr : String
  destReceiver : Option String
  remoteAddressObridge : Option String
deriving DecidableEq, Repr

structure RouteSwap where
  routes : Option (List Route)
  destTokenPrefix : String
  destAsset : String
  destChainId : String
deriving DecidableEq

structure RouteDestination where
  finalDestReceiver : String
  dstChannel : String
  dstDenom : String
deriving DecidableEq, Repr

section GetRouteV2

variable (env : Environment) (timeout : Nat) (basic : RouteBasic) (userSwap : RouteSwap)
  (evmChains : List String)

def selectIbcInfo (ibcInfoTestMode : Bool) : Except JsError (Option IBCChannel) :=
  match ibcInfosOraichain.lookup userSwap.destChainId with
  | some info =>
    .ok (some (if ibcInfoTestMode then info.testInfo.getD info.toIBCChannel else info.toIBCChannel))
  | none => if ibcInfoTestMode then .error .typeError else .ok none

def receiverPrefix (destReceiver : String) : String :=
  if env.isEthAddress destReceiver then userSwap.destTokenPrefix else ""

def destinationChannel (ibcInfo : Option IBCChannel) : Except JsError String :=
  if userSwap.destChainId = "Oraichain" then .ok ""
  else match ibcInfo with
    | some ibcInfo => .ok ibcInfo.channel
    | none => .error .typeError

def routeDestination (ibcInfo : Option IBCChannel) : Except JsError RouteDestination :=
  match truthy basic.destReceiver with
  | none => .ok ⟨"", "", ""⟩
  | some destReceiver => do
    let dstChannel ← destinationChannel userSwap ibcInfo
    return {
      dstDenom := receiverPrefix env userSwap destReceiver ++ userSwap.destAsset
      finalDestReceiver := receiverPrefix env userSwap destReceiver ++ destReceiver
      dstChannel := dstChannel }

def destChainIdIsNoble : Bool := userSwap.destChainId = "noble-1"

def useIbcWasm : Bool := evmChains.any (· = userSwap.destChainId) || destChainIdIsNoble userSwap

def ibcWasmTransfer (d : RouteDestination) : Memo.IbcWasmTransfer where
  localChannelId := d.dstChannel
  remoteDenom := d.dstDenom
  remoteAddress :=
    if destChainIdIsNoble userSwap then d.finalDestReceiver
    else basic.remoteAddressObridge.getD ""
  timeout := some (ChainMsg.timeoutTimestamp env)
  memo := some (if destChainIdIsNoble userSwap then "" else d.finalDestReceiver)

def ibcTransfer (d : RouteDestination) (ibcInfo : IBCChannel) : Memo.IbcTransfer where
  memo := ""
  receiver := d.finalDestReceiver
  sourceChannel := d.dstChannel
  sourcePort := ibcInfo.source
  recoverAddress := basic.recoveryAddr

def postActionIbcWasmTransfer (d : RouteDestination) : Option Memo.IbcWasmTransfer :=
  if d.finalDestReceiver ≠ "" ∧ d.dstChannel ≠ "" ∧ useIbcWasm userSwap evmChains = true then
    some (ibcWasmTransfer env basic userSwap d)
  else none

-- A channel that is not empty comes from an ibcInfo, so the source is there to read.
def postActionIbcTransfer (ibcInfo : Option IBCChannel) (d : RouteDestination) :
    Option Memo.IbcTransfer :=
  if d.finalDestReceiver ≠ "" ∧ d.dstChannel ≠ "" ∧ useIbcWasm userSwap evmChains = false then
    ibcInfo.map (ibcTransfer basic d)
  else none

def postActionTransfer : Option Memo.Transfer :=
  if userSwap.destChainId = "Oraichain" then some ⟨basic.recoveryAddr⟩ else none

def postAction (ibcInfo : Option IBCChannel) (d : RouteDestination) : Memo.PostAction where
  ibcTransferMsg := postActionIbcTransfer basic userSwap evmChains ibcInfo d
  ibcWasmTransferMsg := postActionIbcWasmTransfer env basic userSwap evmChains d
  contractCall := none
  transferMsg := postActionTransfer basic userSwap

def getRouteV2 (ibcInfoTestMode : Bool) : Except JsError Memo := do
  let ibcInfo ← selectIbcInfo userSwap ibcInfoTestMode
  let destination ← routeDestination env basic userSwap ibcInfo
  buildUniversalSwapMemo env timeout basic.minimumReceive basic.recoveryAddr userSwap.routes
    (postAction env basic userSwap evmChains ibcInfo destination)

end GetRouteV2

-- One post action and no other, with the receiver where its chain reads it.
inductive Pays (basic : RouteBasic) (userSwap : RouteSwap) (evmChains : List String)
    (receiver : String) : Memo.PostAction → Prop
  | transfer (h : userSwap.destChainId = "Oraichain") :
      Pays basic userSwap evmChains receiver ⟨none, none, none, some ⟨basic.recoveryAddr⟩⟩
  | noble {m : Memo.IbcWasmTransfer} (h : userSwap.destChainId = "noble-1")
      (hm : m.remoteAddress = receiver) :
      Pays basic userSwap evmChains receiver ⟨none, some m, none, none⟩
  | evm {m : Memo.IbcWasmTransfer} (horaichain : userSwap.destChainId ≠ "Oraichain")
      (hnoble : userSwap.destChainId ≠ "noble-1") (h : userSwap.destChainId ∈ evmChains)
      (hm : m.memo = some receiver) :
      Pays basic userSwap evmChains receiver ⟨none, some m, none, none⟩
  | cosmos {m : Memo.IbcTransfer} (horaichain : userSwap.destChainId ≠ "Oraichain")
      (hnoble : userSwap.destChainId ≠ "noble-1") (h : userSwap.destChainId ∉ evmChains)
      (hm : m.receiver = receiver) :
      Pays basic userSwap evmChains receiver ⟨some m, none, none, none⟩

variable {env : Environment} {timeout : Nat} {basic : RouteBasic} {userSwap : RouteSwap}
  {evmChains : List String} {destReceiver : String}

theorem channel_ne_empty :
    ∀ entry ∈ ibcInfosOraichain, entry.2.channel ≠ "" ∧
      ∀ testInfo ∈ entry.2.testInfo, testInfo.channel ≠ "" := by
  decide

theorem selectIbcInfo_known {info : IBCInfo}
    (h : ibcInfosOraichain.lookup userSwap.destChainId = some info) (ibcInfoTestMode : Bool) :
    ∃ ibcInfo, selectIbcInfo userSwap ibcInfoTestMode = .ok (some ibcInfo) ∧
      ibcInfo.channel ≠ "" := by
  obtain ⟨hchannel, htest⟩ := channel_ne_empty _ (Keyed.mem_of_lookup h)
  rw [selectIbcInfo, h]
  refine ⟨_, rfl, ?_⟩
  cases ibcInfoTestMode with
  | false => exact hchannel
  | true =>
    cases hinfo : info.testInfo with
    | none => exact hchannel
    | some testInfo => exact htest testInfo hinfo

theorem not_known_oraichain : ibcInfosOraichain.lookup "Oraichain" = none := by
  decide

theorem finalDestReceiver_ne_empty (h : destReceiver ≠ "") (destPrefix : String) :
    destPrefix ++ destReceiver ≠ "" := by
  intro hempty
  exact h (String.append_eq_empty_iff.mp hempty).2

theorem useIbcWasm_iff :
    useIbcWasm userSwap evmChains = true ↔
      userSwap.destChainId ∈ evmChains ∨ userSwap.destChainId = "noble-1" := by
  simp [useIbcWasm, destChainIdIsNoble]

theorem postAction_oraichain (h : userSwap.destChainId = "Oraichain") (ibcInfo : Option IBCChannel)
    {d : RouteDestination} (hchannel : d.dstChannel = "") :
    postAction env basic userSwap evmChains ibcInfo d =
      ⟨none, none, none, some ⟨basic.recoveryAddr⟩⟩ := by
  simp [postAction, postActionIbcTransfer, postActionIbcWasmTransfer, postActionTransfer, hchannel, h]

theorem postAction_wasm (h : userSwap.destChainId ≠ "Oraichain") (ibcInfo : Option IBCChannel)
    {d : RouteDestination} (hreceiver : d.finalDestReceiver ≠ "") (hchannel : d.dstChannel ≠ "")
    (hwasm : useIbcWasm userSwap evmChains = true) :
    postAction env basic userSwap evmChains ibcInfo d =
      ⟨none, some (ibcWasmTransfer env basic userSwap d), none, none⟩ := by
  simp [postAction, postActionIbcTransfer, postActionIbcWasmTransfer, postActionTransfer,
    hreceiver, hchannel, hwasm, h]

theorem postAction_transfer (h : userSwap.destChainId ≠ "Oraichain") (ibcInfo : IBCChannel)
    {d : RouteDestination} (hreceiver : d.finalDestReceiver ≠ "") (hchannel : d.dstChannel ≠ "")
    (hwasm : useIbcWasm userSwap evmChains = false) :
    postAction env basic userSwap evmChains (some ibcInfo) d =
      ⟨some (ibcTransfer basic d ibcInfo), none, none, none⟩ := by
  simp [postAction, postActionIbcTransfer, postActionIbcWasmTransfer, postActionTransfer,
    hreceiver, hchannel, hwasm, h]

theorem pays_channel (h : userSwap.destChainId ≠ "Oraichain") (ibcInfo : IBCChannel)
    {d : RouteDestination} (hreceiver : d.finalDestReceiver ≠ "") (hchannel : d.dstChannel ≠ "") :
    Pays basic userSwap evmChains d.finalDestReceiver
      (postAction env basic userSwap evmChains (some ibcInfo) d) := by
  by_cases hnoble : userSwap.destChainId = "noble-1"
  · rw [postAction_wasm h _ hreceiver hchannel (useIbcWasm_iff.mpr (Or.inr hnoble))]
    apply Pays.noble hnoble
    simp [ibcWasmTransfer, destChainIdIsNoble, hnoble]
  · by_cases hevm : userSwap.destChainId ∈ evmChains
    · rw [postAction_wasm h _ hreceiver hchannel (useIbcWasm_iff.mpr (Or.inl hevm))]
      apply Pays.evm h hnoble hevm
      simp [ibcWasmTransfer, destChainIdIsNoble, hnoble]
    · have hwasm : useIbcWasm userSwap evmChains = false := by
        rw [← Bool.not_eq_true, useIbcWasm_iff, not_or]
        exact ⟨hevm, hnoble⟩
      rw [postAction_transfer h _ hreceiver hchannel hwasm]
      exact Pays.cosmos h hnoble hevm rfl

theorem routeDestination_eq (hreceiver : basic.destReceiver = some destReceiver)
    (hne : destReceiver ≠ "") {ibcInfo : Option IBCChannel} {dstChannel : String}
    (h : destinationChannel userSwap ibcInfo = .ok dstChannel) :
    routeDestination env basic userSwap ibcInfo =
      .ok ⟨receiverPrefix env userSwap destReceiver ++ destReceiver, dstChannel,
        receiverPrefix env userSwap destReceiver ++ userSwap.destAsset⟩ := by
  have htruthy : truthy basic.destReceiver = some destReceiver := by
    rw [hreceiver, truthy, Option.filter_some, if_pos (decide_eq_true hne)]
  rw [routeDestination, htruthy]
  exact bind_eq_ok.mpr ⟨dstChannel, h, rfl⟩

theorem pays_destination (env : Environment) (evmChains : List String)
    (hreceiver : basic.destReceiver = some destReceiver)
    (hne : destReceiver ≠ "") {ibcInfoTestMode : Bool}
    (hknown : userSwap.destChainId = "Oraichain" ∧ ibcInfoTestMode = false ∨
      (ibcInfosOraichain.lookup userSwap.destChainId).isSome) :
    ∃ ibcInfo d, selectIbcInfo userSwap ibcInfoTestMode = .ok ibcInfo ∧
      routeDestination env basic userSwap ibcInfo = .ok d ∧
      Pays basic userSwap evmChains (receiverPrefix env userSwap destReceiver ++ destReceiver)
        (postAction env basic userSwap evmChains ibcInfo d) := by
  have hfinal := finalDestReceiver_ne_empty hne (receiverPrefix env userSwap destReceiver)
  rcases hknown with ⟨horaichain, htest⟩ | hknown
  · have hselect : selectIbcInfo userSwap ibcInfoTestMode = .ok none := by
      rw [selectIbcInfo, horaichain, not_known_oraichain, htest]
      rfl
    have hchannel : destinationChannel userSwap none = .ok "" := if_pos horaichain
    refine ⟨none, _, hselect, routeDestination_eq hreceiver hne hchannel, ?_⟩
    rw [postAction_oraichain horaichain none rfl]
    exact Pays.transfer horaichain
  · obtain ⟨info, hinfo⟩ := Option.isSome_iff_exists.mp hknown
    have horaichain : userSwap.destChainId ≠ "Oraichain" := by
      intro h
      rw [h, not_known_oraichain] at hinfo
      cases hinfo
    obtain ⟨ibcInfo, hselect, hne_channel⟩ := selectIbcInfo_known hinfo ibcInfoTestMode
    have hchannel : destinationChannel userSwap (some ibcInfo) = .ok ibcInfo.channel :=
      if_neg horaichain
    refine ⟨some ibcInfo, _, hselect, routeDestination_eq hreceiver hne hchannel, ?_⟩
    exact pays_channel (d := ⟨_, ibcInfo.channel, _⟩) horaichain ibcInfo hfinal hne_channel

theorem post_action_pays_receiver (timeout : Nat)
    (hreceiver : basic.destReceiver = some destReceiver)
    (hne : destReceiver ≠ "") (ibcInfoTestMode : Bool)
    (hknown : userSwap.destChainId = "Oraichain" ∧ ibcInfoTestMode = false ∨
      (ibcInfosOraichain.lookup userSwap.destChainId).isSome) :
    ((∀ route ∈ userSwap.routes.getD [], Memo.Supports route) →
      ∃ memo post, getRouteV2 env timeout basic userSwap evmChains ibcInfoTestMode = .ok memo ∧
        memo.postSwapAction = some post ∧
        Pays basic userSwap evmChains (receiverPrefix env userSwap destReceiver ++ destReceiver)
          post) ∧
    ((∃ route ∈ userSwap.routes.getD [], ¬ Memo.Supports route) →
      ∃ e, getRouteV2 env timeout basic userSwap evmChains ibcInfoTestMode = .error e) := by
  obtain ⟨ibcInfo, d, hselect, hdestination, hpays⟩ :=
    pays_destination env evmChains hreceiver hne hknown
  have hbuild := buildUniversalSwapMemo_ok_iff env timeout basic.minimumReceive basic.recoveryAddr
    userSwap.routes (postAction env basic userSwap evmChains ibcInfo d)
  have hrun (memo : Memo) :
      getRouteV2 env timeout basic userSwap evmChains ibcInfoTestMode = .ok memo ↔
        buildUniversalSwapMemo env timeout basic.minimumReceive basic.recoveryAddr userSwap.routes
          (postAction env basic userSwap evmChains ibcInfo d) = .ok memo := by
    rw [getRouteV2, hselect]
    simp only [bind, Except.bind, hdestination]
  constructor
  · intro hroutes
    obtain ⟨memo, hmemo⟩ := hbuild.mpr hroutes
    have hpost : postAction env basic userSwap evmChains ibcInfo d ≠ ⟨none, none, none, none⟩ := by
      intro hnone
      rw [hnone] at hpays
      cases hpays
    exact ⟨memo, _, (hrun memo).mpr hmemo, postSwapAction_eq hmemo hpost, hpays⟩
  · rintro ⟨route, hmem, hsupports⟩
    apply error_of_not_ok
    rintro ⟨memo, hmemo⟩
    exact hsupports (hbuild.mp ⟨memo, (hrun memo).mp hmemo⟩ route hmem)

def evmReceiver : String := "0xe5ae3E2A6dB9bC2b0d5e0D1bEF8B8a51aD1b6B4a"

def evmEnvironment : Environment where
  dateNow := 1710000000000
  getAddress := fun s => if s = evmReceiver then some s else none
  base58Decode := fun _ => none
  bech32Decode := fun _ => .error "not read here"
  tonAddressParse := fun _ => .error "not read here"
  cosmosChains := [⟨"osmosis-1", "osmo"⟩]
  evmChains := ["0x01", "0x38", "0x2b6653dc"]

def swapPath (poolId tokenIn tokenOut : String) : Path :=
  ⟨"Oraichain", tokenIn, "1000000", tokenOut, "990000", "Oraichain",
    [⟨.swap, tokenIn, "1000000", tokenOut, "990000", some "OraidexV3", some [⟨poolId, tokenOut⟩], none⟩]⟩

def swapPaths : List Path := [swapPath "orai-usdt" "orai" "usdt", swapPath "usdt-atom" "usdt" "atom"]

def routeTo (destChainId destTokenPrefix : String) (paths : List Path) : RouteSwap :=
  ⟨some [⟨"1000000", "990000", paths⟩], destTokenPrefix, "uasset", destChainId⟩

def payTo (destReceiver : String) : RouteBasic :=
  ⟨"1", "orai1recovery", some destReceiver, some "oraib1bridge"⟩

theorem evm_route_paid :
    ∃ memo post,
      getRouteV2 evmEnvironment 3600 (payTo evmReceiver)
        (routeTo "0x38" "oraib" (swapPaths.take 1)) evmEnvironment.evmChains true = .ok memo ∧
      memo.postSwapAction = some post ∧
      Pays (payTo evmReceiver) (routeTo "0x38" "oraib" (swapPaths.take 1)) evmEnvironment.evmChains
        ("oraib" ++ evmReceiver) post := by
  have hne : evmReceiver ≠ "" := by decide
  have hsupports : ∀ route ∈ (routeTo "0x38" "oraib" (swapPaths.take 1)).routes.getD [],
      Memo.Supports route := by decide
  exact (post_action_pays_receiver 3600 rfl hne true (Or.inr rfl)).1 hsupports

-- A route of two paths has no memo, a receiver on Oraichain is not the one that is paid,
-- and the prefix follows the shape of the receiver, not its chain.
theorem receiver_not_always_paid :
    getRouteV2 evmEnvironment 3600 (payTo "osmo1receiver") (routeTo "osmosis-1" "" swapPaths)
        evmEnvironment.evmChains false = .error (.error "Only support swap on Oraichain!") ∧
      (getRouteV2 evmEnvironment 3600 (payTo "orai1receiver") (routeTo "Oraichain" "" [])
        evmEnvironment.evmChains false).toOption.bind Memo.postSwapAction =
          some ⟨none, none, none, some ⟨"orai1recovery"⟩⟩ ∧
      (getRouteV2 evmEnvironment 3600 (payTo evmReceiver) (routeTo "osmosis-1" "oraib" [])
        evmEnvironment.evmChains false).toOption.bind Memo.postSwapAction =
          some ⟨some ⟨"channel-13", "transfer", "oraib" ++ evmReceiver, "", "orai1recovery"⟩,
            none, none, none⟩ := by
  decide

end OraidexSdk.UniversalSwap
