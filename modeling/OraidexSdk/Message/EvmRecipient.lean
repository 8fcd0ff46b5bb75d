import OraidexSdk.Common.EvmAddress
import OraidexSdk.Message.Hops

namespace OraidexSdk.Message
open Js Outcome Envelope

def evmDestinations : List String := ["0x01", "0x38", "0x2b6653dc"]

-- The 0x-address that a recipient accepted for the destination stands for.
def hexForm (env : Environment) (destination recipient : String) : Option String :=
  if destination = "0x2b6653dc" then tronToEthAddress env recipient
  else if startsWith recipient "0x" then some recipient
  else env.getAddress recipient

structure TransfersToEvm (env : Environment) (addresses : String → Option String) (path : Path)
    (recipient : String) (exit : Exit) : Prop where
  transfer : ∃ a b obridgeAddress hex, bridgeAction path = some a ∧ a.bridgeInfo = some b ∧
    addresses ORAIBRIDGE_SUBNET = some obridgeAddress ∧
    hexForm env path.tokenOutChainId recipient = some hex ∧
    exit = .wasm ⟨b.channel, obridgeAddress, destPrefix path.tokenOutChainId ++ a.tokenOut,
      .text (destPrefix path.tokenOutChainId ++ hex)⟩

variable {env : Environment} {addresses : String → Option String} {slippage : Slippage}

theorem destPrefix_of_evm {destination : String} (h : destination ∈ evmDestinations) :
    destPrefix destination ≠ "" := by
  simp only [evmDestinations, List.mem_cons, List.not_mem_nil, or_false] at h
  rcases h with rfl | rfl | rfl <;> decide

theorem recipient_shape (hlaws : ChecksumsAddresses env) {destination recipient : String}
    (hdest : destination ∈ evmDestinations)
    (hvalid : (checkValidateAddressWithNetwork env recipient destination).isValid = true) :
    recipient ≠ "" ∧
      (env.isEthAddress recipient = true ↔ destination ≠ "0x2b6653dc") := by
  simp only [evmDestinations, List.mem_cons, List.not_mem_nil, or_false] at hdest
  have hevm (h : (validateEvmAddress env recipient destination).isValid = true) :
      env.isEthAddress recipient = true := by
    rw [validateEvmAddress] at h
    split at h
    · rename_i haddress
      exact isEthAddress_of_isAddress hlaws haddress
    · cases h
  have hne (h : env.isEthAddress recipient = true) : recipient ≠ "" := by
    rintro rfl
    have hform := form_of_isEthAddress hlaws h
    cases hform with
    | bare h => cases h
    | icap h => cases h
  rcases hdest with rfl | rfl | rfl
  · have heth := hevm hvalid
    exact ⟨hne heth, fun _ => by decide, fun _ => heth⟩
  · have heth := hevm hvalid
    exact ⟨hne heth, fun _ => by decide, fun _ => heth⟩
  · have htron : isValidTronAddress recipient = true := hvalid
    refine ⟨?_, fun heth => ?_, fun h => absurd rfl h⟩
    · rintro rfl
      cases htron
    · rw [isEthAddress_of_tron hlaws htron] at heth
      cases heth

theorem hexForm_eq_self (hlaws : ChecksumsAddresses env) {destination recipient : String}
    (hdest : destination ≠ "0x2b6653dc") :
    hexForm env destination recipient = some recipient ↔ startsWith recipient "0x" = true := by
  rw [hexForm, if_neg hdest]
  split
  · rename_i hstart
    exact ⟨fun _ => hstart, fun _ => rfl⟩
  · rename_i hstart
    exact ⟨fun h => hlaws.hex recipient recipient h, fun h => absurd h hstart⟩

theorem transfers_iff (hlaws : ChecksumsAddresses env) {path : Path} {recipient : String} {e : Exit}
    (hport : onWasmPort path = true) (hdest : path.tokenOutChainId ∈ evmDestinations)
    (hvalid : (checkValidateAddressWithNetwork env recipient path.tokenOutChainId).isValid = true)
    (hleaves : Leaves env path recipient .empty (destPrefix path.tokenOutChainId)
      (addresses ORAIBRIDGE_SUBNET) e) :
    TransfersToEvm env addresses path recipient e ↔
      path.tokenOutChainId ≠ "0x2b6653dc" ∧ startsWith recipient "0x" = true := by
  have hpre := destPrefix_of_evm hdest
  have heth := (recipient_shape hlaws hdest hvalid).2
  cases hleaves with
  | pay hbridge =>
    rw [onWasmPort, hbridge] at hport
    cases hport
  | packet hbridge hinfo htransfer =>
    rw [onWasmPort_of hbridge hinfo, htransfer] at hport
    exact absurd hport (by decide)
  | wasm hbridge hinfo hwasm hchain hnot =>
    rw [hnot] at heth
    constructor
    · rintro ⟨a, b, obridgeAddress, hex, -, -, -, -, hexit⟩
      have htext : "" = destPrefix path.tokenOutChainId ++ hex :=
        MemoText.text.inj (IbcWasmInfo.mk.inj (Exit.wasm.inj hexit)).2.2.2
      exact absurd (String.append_eq_empty_iff.mp htext.symm).1 hpre
    · exact fun h => absurd (heth.mpr h.1) (by decide)
  | evm hbridge hinfo hwasm hchain hyes hnonempty hobridge =>
    have htron := heth.mp hyes
    rw [← hexForm_eq_self hlaws htron]
    constructor
    · rintro ⟨a, b, obridgeAddress, hex, -, -, -, hhex, hexit⟩
      have htext := MemoText.text.inj (IbcWasmInfo.mk.inj (Exit.wasm.inj hexit)).2.2.2
      rw [String.append_right_inj] at htext
      exact ⟨htron, htext ▸ hhex⟩
    · rintro ⟨-, hhex⟩
      exact ⟨_, _, _, recipient, hbridge, hinfo, some_of_getD_ne hobridge, hhex, rfl⟩
  | ton hbridge hinfo hton hto =>
    rw [hton] at hdest
    exact absurd hdest (by decide)

theorem last_of_loop {recipient : String} {rest : List Path} : ∀ {path : Path} {memo : MemoText}
    {paid : String} {layer layer' : Layer},
    memoLoop env addresses slippage (some recipient) path.chainId rest = .ok (memo, some paid) →
    LayerOf env addresses path paid memo layer →
    (layer :: envelope.unwrap layer.exit.memo)[rest.length]? = some layer' →
    ∃ last, (path :: rest).getLast? = some last ∧
      LayerOf env addresses last recipient .empty layer' := by
  induction rest with
  | nil =>
    intro path memo paid layer layer' hloop hlayer hget
    cases hloop
    cases hget
    exact ⟨path, rfl, hlayer⟩
  | cons next rest ih =>
    intro path memo paid layer layer' hloop hlayer hget
    obtain ⟨⟨memo', receiver'⟩, hrest, hloop⟩ := bind_eq_ok.mp hloop
    obtain ⟨response, hbuild, hloop⟩ := bind_eq_ok.mp hloop
    cases hloop
    obtain ⟨paid', inner, rfl, hopen, hinner⟩ := (buildMemoSwap_step hbuild).layer
    rw [List.length_cons, List.getElem?_cons_succ] at hget
    rcases hlayer.leaves.memo_cases with hmemo | ⟨s, hmemo⟩
    · rw [hmemo, unwrap_opened (E := envelope) hopen] at hget
      obtain ⟨last, hlast, hlayer'⟩ := ih hrest hinner hget
      exact ⟨last, by rw [List.getLast?_cons_cons, hlast], hlayer'⟩
    · rw [hmemo, unwrap_text] at hget
      cases hget

theorem generateMemoSwap_built {route : Route} {recipientAddress previousChain : Option String}
    {r : MiddlewareResponse} (hpaths : route.paths ≠ [])
    (h : generateMemoSwap env addresses slippage route recipientAddress previousChain = .ok r) :
    ∃ path rest memo paid inner, route.paths = path :: rest ∧
      memoLoop env addresses slippage (destinationReceiver addresses route.paths recipientAddress)
        path.chainId rest = .ok (memo, some paid) ∧
      openMemo r.memo = some inner ∧ LayerOf env addresses path paid memo inner := by
  rw [generateMemoSwap] at h
  split at h
  · rename_i hnil
    exact absurd hnil hpaths
  · rename_i path rest hcons
    obtain ⟨receiver, hreceiver, h⟩ := bind_eq_ok.mp h
    obtain ⟨⟨memo, receiver'⟩, hloop, hbuild⟩ := bind_eq_ok.mp h
    obtain ⟨paid, inner, rfl, hopen, hlayer⟩ := (buildMemoSwap_step hbuild).layer
    rw [finalReceiver_ok hreceiver, ← hcons] at hloop
    exact ⟨path, rest, memo, paid, inner, hcons, hloop, hopen, hlayer⟩

inductive Emits (env : Environment) (addresses : String → Option String) (slippage : Slippage)
    (route : Route) (recipientAddress : Option String) : List Layer → Prop where
  | msg {msg : EncodeObject}
      (h : generateMsgSwap env addresses slippage route recipientAddress = .ok msg) :
      Emits env addresses slippage route recipientAddress (unwrapMessage msg)
  | memo {previousChain : Option String} {r : MiddlewareResponse}
      (h : generateMemoSwap env addresses slippage route recipientAddress previousChain = .ok r) :
      Emits env addresses slippage route recipientAddress (envelope.unwrap r.memo)

theorem Emits.last {route : Route} {recipient : String} {layers : List Layer} {last : Path}
    {layer : Layer} (hne : recipient ≠ "")
    (h : Emits env addresses slippage route (some recipient) layers)
    (hlast : route.paths.getLast? = some last)
    (hlayer : layers[route.paths.length - 1]? = some layer) :
    LayerOf env addresses last recipient .empty layer := by
  have hpaths : route.paths ≠ [] := by
    rintro hnil
    rw [hnil] at hlast
    cases hlast
  have hreceiver (paths : List Path) :
      destinationReceiver addresses paths (some recipient) = some recipient := by
    rw [destinationReceiver, truthy, Option.filter_some, if_pos (by simpa using hne)]
    rfl
  have hfound {path : Path} {rest : List Path} (hcons : route.paths = path :: rest)
      (hex : ∃ last', (path :: rest).getLast? = some last' ∧
        LayerOf env addresses last' recipient .empty layer) :
      LayerOf env addresses last recipient .empty layer := by
    obtain ⟨last', hlast', hlayer'⟩ := hex
    rw [← hcons, hlast] at hlast'
    cases hlast'
    exact hlayer'
  cases h with
  | msg h =>
    obtain ⟨path, rest, memo, paid, hcons, hloop, hread⟩ := generateMsgSwap_built h
    rw [hreceiver] at hloop
    rw [hcons] at hlayer
    exact hfound hcons (last_of_loop hloop hread hlayer)
  | memo h =>
    obtain ⟨path, rest, memo, paid, inner, hcons, hloop, hopen, hread⟩ :=
      generateMemoSwap_built hpaths h
    rw [hreceiver] at hloop
    rw [hcons, unwrap_opened (E := envelope) hopen] at hlayer
    exact hfound hcons (last_of_loop hloop hread hlayer)

theorem evm_recipient_iff (hlaws : ChecksumsAddresses env) {route : Route} {last : Path}
    {recipient : String} {layers : List Layer} {layer : Layer}
    (hlast : route.paths.getLast? = some last) (hport : onWasmPort last = true)
    (hdest : last.tokenOutChainId ∈ evmDestinations)
    (hvalid : (checkValidateAddressWithNetwork env recipient last.tokenOutChainId).isValid = true)
    (hemits : Emits env addresses slippage route (some recipient) layers)
    (hlayer : layers[route.paths.length - 1]? = some layer) :
    TransfersToEvm env addresses last recipient layer.exit ↔
      last.tokenOutChainId ≠ "0x2b6653dc" ∧ startsWith recipient "0x" = true :=
  transfers_iff hlaws hport hdest hvalid
    (hemits.last (recipient_shape hlaws hdest hvalid).1 hlast hlayer).leaves

def bridgeToEvm (destination tokenOut : String) : Path :=
  ⟨"Oraichain", "usdt", "100", tokenOut, "100", destination,
    [⟨.bridge, "usdt", "100", tokenOut, "100", none, none,
      some ⟨"wasm.orai195269awwnt5m6c843q6w7hp8rt0k7syfu9de4h0wz384slshuzps8y7ccm", "channel-29"⟩⟩]⟩

def bscRecipient : String := "0x8c7E0A841269a01c0Ab389Ce8Fb3Cf150A94E797"

def tronRecipient : String := "TPwTVfDDvmWSawsP7Ki1t3ecSBmaFeMMXc"

def evmEnvironment : Environment :=
  { exampleEnvironment with
    getAddress := fun s => if s = bscRecipient then some bscRecipient else none
    base58Decode := fun s => if s = tronRecipient then
      some [65, 153, 61, 6, 252, 151, 244, 95, 22, 228, 128, 88, 131, 185, 138, 108, 32, 186, 181,
        73, 100, 165, 210, 175, 47] else none }

theorem evmEnvironment_checksums : ChecksumsAddresses evmEnvironment := by
  have hread (s c : String) (h : evmEnvironment.getAddress s = some c) :
      s = bscRecipient ∧ c = bscRecipient := by
    rw [evmEnvironment] at h
    dsimp only at h
    split at h
    · rename_i hs
      exact ⟨hs, (Option.some.inj h).symm⟩
    · cases h
  refine ⟨fun s c h => ?_, fun s c h => ?_, fun s c h => ?_⟩ <;> obtain ⟨rfl, rfl⟩ := hread s c h
  · exact .prefixed (by decide)
  · decide
  · rfl

theorem bsc_recipient_transferred :
    ∃ msg layer,
      generateMsgSwap evmEnvironment exampleAddresses exampleSlippage
        ⟨"100", "100", [bridgeToEvm "0x38" "usdc"]⟩ (some bscRecipient) = .ok msg ∧
      (unwrapMessage msg)[0]? = some layer ∧
      TransfersToEvm evmEnvironment exampleAddresses (bridgeToEvm "0x38" "usdc") bscRecipient
        layer.exit := by
  have hrun : ∃ msg, generateMsgSwap evmEnvironment exampleAddresses exampleSlippage
      ⟨"100", "100", [bridgeToEvm "0x38" "usdc"]⟩ (some bscRecipient) = .ok msg := ⟨_, rfl⟩
  obtain ⟨msg, hmsg⟩ := hrun
  exact ⟨msg, openMessage msg, hmsg, rfl,
    (evm_recipient_iff evmEnvironment_checksums rfl (by decide) (by decide) (by decide) (.msg hmsg)
      rfl).mpr ⟨by decide, by decide⟩⟩

-- The Tron address goes out as it was typed, with no prefix and no memo.
theorem tron_recipient_misrouted :
    ∃ msg layer,
      generateMsgSwap evmEnvironment exampleAddresses exampleSlippage
        ⟨"100", "100", [bridgeToEvm "0x2b6653dc" "trx"]⟩ (some tronRecipient) = .ok msg ∧
      (unwrapMessage msg)[0]? = some layer ∧
      layer.exit = .wasm ⟨"channel-29", tronRecipient, "trx", .empty⟩ ∧
      hexForm evmEnvironment "0x2b6653dc" tronRecipient =
        some "0x993d06fc97f45f16e4805883b98a6c20bab54964" ∧
      ¬ TransfersToEvm evmEnvironment exampleAddresses (bridgeToEvm "0x2b6653dc" "trx")
        tronRecipient layer.exit := by
  have hrun : ∃ msg, generateMsgSwap evmEnvironment exampleAddresses exampleSlippage
      ⟨"100", "100", [bridgeToEvm "0x2b6653dc" "trx"]⟩ (some tronRecipient) = .ok msg ∧
      (openMessage msg).exit = .wasm ⟨"channel-29", tronRecipient, "trx", .empty⟩ := ⟨_, rfl, rfl⟩
  obtain ⟨msg, hmsg, hexit⟩ := hrun
  refine ⟨msg, openMessage msg, hmsg, rfl, hexit, by decide, ?_⟩
  rintro ⟨a, b, obridgeAddress, hex, -, -, -, -, hwasm⟩
  rw [hexit] at hwasm
  have htext : "" = "trontrx-mainnet" ++ hex :=
    MemoText.text.inj (IbcWasmInfo.mk.inj (Exit.wasm.inj hwasm)).2.2.2
  exact absurd (String.append_eq_empty_iff.mp htext.symm).1 (by decide)

end OraidexSdk.Message
