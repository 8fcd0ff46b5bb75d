import OraidexSdk.Common.HexData
import OraidexSdk.Loops.Outcome

namespace OraidexSdk.UniversalSwap
open Js Outcome

structure Bech32Data where
  addressPrefix : String
  data : List UInt8
deriving DecidableEq, Repr

-- fromBech32 and toBech32 of @cosmjs/encoding
structure Bech32Codec where
  fromBech32 : String → Except JsError Bech32Data
  toBech32 : String → List UInt8 → String

structure CosmosChain extends CustomChainInfo where
  coinType : Nat
deriving DecidableEq, Repr

-- An object whose values are addresses; a key that it lacks gives none.
abbrev Addresses : Type := String → Option String

section Generate

variable (codec : Bech32Codec)

def approve (address60 address118 : Option String) : Nat → Option (Option String)
  | 118 => some address118
  | 60 => some address60
  | _ => none

def getAddress (addressPrefix : String) (address60 address118 : Option String) (coinType : Nat) :
    Except JsError String :=
  match approve address60 address118 coinType with
  | none => .error (.error s!"Unsupported coinType: {coinType}")
  | some address =>
    match truthy address with
    | none => .error (.error s!"Address for coinType {coinType} is not provided")
    | some address => do return codec.toBech32 addressPrefix (← codec.fromBech32 address).data

variable (oraiAddress : String) (injAddress : Option String)

def visitChain (acc : Addresses) (cur : CosmosChain) : Except JsError Addresses :=
  if truthy injAddress = none ∧ cur.coinType = 60 then .ok acc
  else match truthy (acc cur.chainId) with
    | some _ => .ok acc
    | none => do
      let address ← getAddress codec cur.bech32PrefixAccAddr injAddress (some oraiAddress) cur.coinType
      return Function.update acc cur.chainId (some address)

def keyAddresses : Addresses :=
  Function.update (Function.update (fun _ => none) "Oraichain" (some oraiAddress)) "injective-1"
    injAddress

def generateAddress (cosmosChains : List CosmosChain) (evmInfo : Option Addresses) :
    Except JsError Addresses := do
  let cosmosAddress ← cosmosChains.foldlM (visitChain codec oraiAddress injAddress)
    (keyAddresses oraiAddress injAddress)
  return match evmInfo with
    | some evmInfo => fun key => evmInfo key <|> cosmosAddress key
    | none => cosmosAddress

end Generate

-- bech32 encode and decode are inverse, and no address is empty.
structure Bech32Laws (codec : Bech32Codec) : Prop where
  from_to : ∀ addressPrefix data,
    codec.fromBech32 (codec.toBech32 addressPrefix data) = .ok ⟨addressPrefix, data⟩
  from_empty : ∀ decoded, codec.fromBech32 "" ≠ .ok decoded

structure Keys (codec : Bech32Codec) (oraiAddress : String) (injAddress : Option String)
    (data118 data60 : List UInt8) : Prop where
  orai : ∃ addressPrefix, codec.fromBech32 oraiAddress = .ok ⟨addressPrefix, data118⟩
  inj : ∀ address, truthy injAddress = some address →
    ∃ addressPrefix, codec.fromBech32 address = .ok ⟨addressPrefix, data60⟩

def derived (codec : Bech32Codec) (injAddress : Option String) (data118 data60 : List UInt8)
    (chain : CosmosChain) : Option String :=
  if chain.coinType = 118 then some (codec.toBech32 chain.bech32PrefixAccAddr data118)
  else (truthy injAddress).map fun _ => codec.toBech32 chain.bech32PrefixAccAddr data60

section Loop

variable {codec : Bech32Codec} {oraiAddress : String} {injAddress : Option String}
  {data118 data60 : List UInt8}

theorem truthy_orai (hlaws : Bech32Laws codec)
    (hkeys : Keys codec oraiAddress injAddress data118 data60) :
    truthy (some oraiAddress) = some oraiAddress := by
  obtain ⟨addressPrefix, horai⟩ := hkeys.orai
  have hne : oraiAddress ≠ "" := by
    rintro rfl
    exact hlaws.from_empty _ horai
  simp [truthy, hne]

theorem getAddress_ok {address60 address118 given : Option String} {coinType : Nat}
    {address : String} {decoded : Bech32Data} (hkey : approve address60 address118 coinType = some given)
    (hgiven : truthy given = some address) (hdecode : codec.fromBech32 address = .ok decoded)
    (addressPrefix : String) :
    getAddress codec addressPrefix address60 address118 coinType =
      .ok (codec.toBech32 addressPrefix decoded.data) := by
  rw [getAddress, hkey]
  simp only [hgiven, hdecode]
  rfl

theorem visitChain_free {acc : Addresses} {chain : CosmosChain} (hfree : acc chain.chainId = none)
    (hkey : ¬ (truthy injAddress = none ∧ chain.coinType = 60)) {address : String}
    (haddress : getAddress codec chain.bech32PrefixAccAddr injAddress (some oraiAddress)
      chain.coinType = .ok address) :
    visitChain codec oraiAddress injAddress acc chain =
      .ok (Function.update acc chain.chainId (some address)) := by
  rw [visitChain, if_neg hkey, hfree]
  simp only [truthy, Option.filter_none, haddress]
  rfl

theorem visitChain_ok (hlaws : Bech32Laws codec)
    (hkeys : Keys codec oraiAddress injAddress data118 data60) {chain : CosmosChain}
    (hcoin : chain.coinType = 118 ∨ chain.coinType = 60) {acc : Addresses}
    (hfree : acc chain.chainId = none) :
    visitChain codec oraiAddress injAddress acc chain =
      .ok (Function.update acc chain.chainId (derived codec injAddress data118 data60 chain)) := by
  rcases hcoin with hcoin | hcoin
  · obtain ⟨oraiPrefix, horai⟩ := hkeys.orai
    have haddress : getAddress codec chain.bech32PrefixAccAddr injAddress (some oraiAddress)
        chain.coinType = .ok (codec.toBech32 chain.bech32PrefixAccAddr data118) := by
      rw [hcoin]
      exact getAddress_ok rfl (truthy_orai hlaws hkeys) horai _
    rw [derived, if_pos hcoin]
    exact visitChain_free hfree (by simp [hcoin]) haddress
  · have hne : chain.coinType ≠ 118 := by simp [hcoin]
    rw [derived, if_neg hne]
    cases hinj : truthy injAddress with
    | none =>
      have hkeep : Function.update acc chain.chainId none = acc := by
        rw [← hfree, Function.update_eq_self]
      rw [visitChain, if_pos ⟨hinj, hcoin⟩, Option.map_none, hkeep]
    | some address =>
      obtain ⟨injPrefix, hdecode⟩ := hkeys.inj address hinj
      have haddress : getAddress codec chain.bech32PrefixAccAddr injAddress (some oraiAddress)
          chain.coinType = .ok (codec.toBech32 chain.bech32PrefixAccAddr data60) := by
        rw [hcoin]
        exact getAddress_ok rfl hinj hdecode _
      exact visitChain_free hfree (by simp [hinj]) haddress

theorem visitChains_ok (hlaws : Bech32Laws codec)
    (hkeys : Keys codec oraiAddress injAddress data118 data60) {chains : List CosmosChain}
    (hcoins : ∀ chain ∈ chains, chain.coinType = 118 ∨ chain.coinType = 60)
    (hdistinct : (chains.map (·.chainId)).Nodup) : ∀ {acc : Addresses},
    (∀ chain ∈ chains, acc chain.chainId = none) →
      ∃ addresses, chains.foldlM (visitChain codec oraiAddress injAddress) acc = .ok addresses ∧
        (∀ chain ∈ chains, addresses chain.chainId =
          derived codec injAddress data118 data60 chain) ∧
        ∀ key, key ∉ chains.map (·.chainId) → addresses key = acc key := by
  induction chains with
  | nil => exact fun {acc} _ => ⟨acc, rfl, List.forall_mem_nil _, fun _ _ => rfl⟩
  | cons chain chains ih =>
    intro acc hfree
    obtain ⟨hcoin, hcoins⟩ := List.forall_mem_cons.mp hcoins
    obtain ⟨hchain, hfree⟩ := List.forall_mem_cons.mp hfree
    rw [List.map_cons, List.nodup_cons] at hdistinct
    obtain ⟨hnew, hdistinct⟩ := hdistinct
    have hstep := visitChain_ok hlaws hkeys hcoin hchain
    have hrest : ∀ other ∈ chains, Function.update acc chain.chainId
        (derived codec injAddress data118 data60 chain) other.chainId = none := by
      intro other hmem
      rw [Function.update_of_ne, hfree other hmem]
      exact fun heq => hnew (heq ▸ List.mem_map_of_mem hmem)
    obtain ⟨addresses, hrun, hderived, hother⟩ := ih hcoins hdistinct hrest
    refine ⟨addresses, ?_, ?_, ?_⟩
    · rw [List.foldlM_cons, hstep]
      exact hrun
    · refine List.forall_mem_cons.mpr ⟨?_, hderived⟩
      rw [hother chain.chainId hnew, Function.update_self]
    · intro key hkey
      rw [List.map_cons, List.mem_cons, not_or] at hkey
      rw [hother key hkey.2, Function.update_of_ne hkey.1]

end Loop

def overrides (evmInfo : Option Addresses) : Addresses := evmInfo.getD fun _ => none

def Receives (codec : Bech32Codec) (addresses : Addresses) (chain : CosmosChain)
    (data : List UInt8) : Prop :=
  ∃ address, addresses chain.chainId = some address ∧
    codec.fromBech32 address = .ok ⟨chain.bech32PrefixAccAddr, data⟩

structure RightKeys (codec : Bech32Codec) (oraiAddress : String) (injAddress : Option String)
    (data118 data60 : List UInt8) (chains : List CosmosChain) (evmInfo : Option Addresses)
    (addresses : Addresses) : Prop where
  overridden : ∀ key address, overrides evmInfo key = some address → addresses key = some address
  oraichain : overrides evmInfo "Oraichain" = none → addresses "Oraichain" = some oraiAddress
  injective : overrides evmInfo "injective-1" = none → addresses "injective-1" = injAddress
  coinType118 : ∀ chain ∈ chains, overrides evmInfo chain.chainId = none →
    chain.coinType = 118 → Receives codec addresses chain data118
  coinType60 : ∀ chain ∈ chains, overrides evmInfo chain.chainId = none → chain.coinType = 60 →
    (truthy injAddress ≠ none → Receives codec addresses chain data60) ∧
      (truthy injAddress = none → addresses chain.chainId = none)
  others : ∀ key, overrides evmInfo key = none → key ≠ "Oraichain" → key ≠ "injective-1" →
    key ∉ chains.map (·.chainId) → addresses key = none

theorem generateAddress_overrides (codec : Bech32Codec) (oraiAddress : String)
    (injAddress : Option String) (chains : List CosmosChain) (evmInfo : Option Addresses)
    {cosmosAddress : Addresses}
    (h : chains.foldlM (visitChain codec oraiAddress injAddress)
      (keyAddresses oraiAddress injAddress) = .ok cosmosAddress) :
    generateAddress codec oraiAddress injAddress chains evmInfo =
      .ok fun key => overrides evmInfo key <|> cosmosAddress key := by
  rw [generateAddress, h]
  cases evmInfo <;> rfl

theorem keyAddresses_other (oraiAddress : String) (injAddress : Option String) {key : String}
    (horai : key ≠ "Oraichain") (hinj : key ≠ "injective-1") :
    keyAddresses oraiAddress injAddress key = none := by
  rw [keyAddresses, Function.update_of_ne hinj, Function.update_of_ne horai]

theorem not_mem_chainIds {chains : List CosmosChain} {key : String}
    (h : ∀ chain ∈ chains, chain.chainId ≠ key) : key ∉ chains.map (·.chainId) := by
  intro hmem
  obtain ⟨chain, hchain, heq⟩ := List.mem_map.mp hmem
  exact h chain hchain heq

section Derived

variable {codec : Bech32Codec} {injAddress : Option String} {data118 data60 : List UInt8}
  {addresses : Addresses} {chain : CosmosChain}

theorem receives_of_coinType118 (hlaws : Bech32Laws codec) (hcoin : chain.coinType = 118)
    (h : addresses chain.chainId = derived codec injAddress data118 data60 chain) :
    Receives codec addresses chain data118 := by
  rw [derived, if_pos hcoin] at h
  exact ⟨_, h, hlaws.from_to _ data118⟩

theorem receives_of_coinType60 (hlaws : Bech32Laws codec) (hcoin : chain.coinType = 60)
    (h : addresses chain.chainId = derived codec injAddress data118 data60 chain) :
    (truthy injAddress ≠ none → Receives codec addresses chain data60) ∧
      (truthy injAddress = none → addresses chain.chainId = none) := by
  rw [derived, if_neg (by simp [hcoin])] at h
  constructor
  · intro hgiven
    obtain ⟨inj, hinj⟩ := Option.ne_none_iff_exists'.mp hgiven
    rw [hinj] at h
    exact ⟨_, h, hlaws.from_to _ data60⟩
  · intro hnone
    rw [h, hnone]
    rfl

end Derived

theorem generateAddress_rightKeys (codec : Bech32Codec) (hlaws : Bech32Laws codec)
    (oraiAddress : String) (injAddress : Option String) (data118 data60 : List UInt8)
    (hkeys : Keys codec oraiAddress injAddress data118 data60) (chains : List CosmosChain)
    (hcoins : ∀ chain ∈ chains, chain.coinType = 118 ∨ chain.coinType = 60)
    (hdistinct : (chains.map (·.chainId)).Nodup)
    (hreserved : ∀ chain ∈ chains, chain.chainId ≠ "Oraichain" ∧ chain.chainId ≠ "injective-1")
    (evmInfo : Option Addresses) :
    ∃ addresses, generateAddress codec oraiAddress injAddress chains evmInfo = .ok addresses ∧
      RightKeys codec oraiAddress injAddress data118 data60 chains evmInfo addresses := by
  have hfree : ∀ chain ∈ chains, keyAddresses oraiAddress injAddress chain.chainId = none := by
    intro chain hchain
    obtain ⟨horai, hinj⟩ := hreserved chain hchain
    exact keyAddresses_other oraiAddress injAddress horai hinj
  obtain ⟨cosmosAddress, hrun, hderived, hother⟩ :=
    visitChains_ok hlaws hkeys hcoins hdistinct hfree
  have hplain {key : String} (hkey : overrides evmInfo key = none) :
      (overrides evmInfo key <|> cosmosAddress key) = cosmosAddress key := by
    rw [hkey]
    rfl
  have horai : "Oraichain" ∉ chains.map (·.chainId) :=
    not_mem_chainIds fun chain hchain => (hreserved chain hchain).1
  have hinj : "injective-1" ∉ chains.map (·.chainId) :=
    not_mem_chainIds fun chain hchain => (hreserved chain hchain).2
  refine ⟨_, generateAddress_overrides _ _ _ _ evmInfo hrun, ?_, ?_, ?_, ?_, ?_, ?_⟩
  · intro key address haddress
    rw [haddress]
    rfl
  · intro hkey
    rw [hplain hkey, hother _ horai]
    rfl
  · intro hkey
    rw [hplain hkey, hother _ hinj]
    rfl
  · intro chain hchain hkey hcoin
    exact receives_of_coinType118 hlaws hcoin ((hplain hkey).trans (hderived chain hchain))
  · intro chain hchain hkey hcoin
    exact receives_of_coinType60 hlaws hcoin ((hplain hkey).trans (hderived chain hchain))
  · intro key hkey hkeyOrai hkeyInj hmem
    rw [hplain hkey, hother key hmem, keyAddresses_other oraiAddress injAddress hkeyOrai hkeyInj]

def oraiData : List UInt8 :=
  [80, 137, 195, 184, 177, 187, 192, 175, 226, 107, 163, 209, 20, 205, 238, 137, 1, 59, 146, 169]

def injData : List UInt8 :=
  [153, 61, 6, 252, 151, 244, 95, 22, 228, 128, 88, 131, 185, 138, 108, 32, 186, 181, 73, 100]

def bech32Table : List (String × Bech32Data) :=
  [("orai12zyu8w93h0q2lcnt50g3fn0w3yqnhy4fvawaqz", ⟨"orai", oraiData⟩),
    ("cosmos12zyu8w93h0q2lcnt50g3fn0w3yqnhy4flwc7p3", ⟨"cosmos", oraiData⟩),
    ("inj1ny7sdlyh7303deyqtzpmnznvyzat2jtysr2h8u", ⟨"inj", injData⟩),
    ("oraie1ny7sdlyh7303deyqtzpmnznvyzat2jtyxs3y0v", ⟨"oraie", injData⟩)]

-- The addresses of the table as bech32 has them; any other data as hex digits before a slash.
def tableCodec : Bech32Codec where
  fromBech32 := fun text =>
    match bech32Table.lookup text with
    | some decoded => .ok decoded
    | none =>
      match hexBytes (text.toList.takeWhile (· ≠ '/')), text.toList.dropWhile (· ≠ '/') with
      | some data, _ :: addressPrefix => .ok ⟨String.ofList addressPrefix, data⟩
      | _, _ => .error (.error "not a bech32 address")
  toBech32 := fun addressPrefix data =>
    match bech32Table.find? (·.2 = ⟨addressPrefix, data⟩) with
    | some entry => entry.1
    | none => String.ofList (hexChars data ++ '/' :: addressPrefix.toList)

theorem hexChars_before_slash (data : List UInt8) :
    ∀ c ∈ hexChars data, decide (c ≠ '/') = true := by
  intro c hc
  have hdigit := List.all_eq_true.mp (hexChars_isHexDigit data) c hc
  refine decide_eq_true ?_
  rintro rfl
  exact absurd hdigit (by decide)

theorem bech32Table_slash {text : String} (h : '/' ∈ text.toList) :
    bech32Table.lookup text = none := by
  have hslash : ∀ entry ∈ bech32Table, '/' ∉ entry.1.toList := by decide +kernel
  rw [List.lookup_eq_none_iff]
  intro entry hentry
  have hne : text ≠ entry.1 := by
    rintro rfl
    exact hslash entry hentry h
  simpa using hne

theorem tableCodec_laws : Bech32Laws tableCodec where
  from_to := by
    intro addressPrefix data
    have hread : ∀ entry ∈ bech32Table, bech32Table.lookup entry.1 = some entry.2 := by
      decide +kernel
    simp only [tableCodec]
    cases hfind : bech32Table.find? (·.2 = ⟨addressPrefix, data⟩) with
    | some entry =>
      have hentry := List.find?_some hfind
      simp only [decide_eq_true_eq] at hentry
      rw [hread entry (List.mem_of_find?_eq_some hfind), hentry]
    | none =>
      have hslash : '/' ∈
          (String.ofList (hexChars data ++ '/' :: addressPrefix.toList)).toList := by simp
      have hhex := hexChars_before_slash data
      rw [bech32Table_slash hslash]
      simp only [String.toList_ofList, List.takeWhile_append_of_pos hhex,
        List.dropWhile_append_of_pos hhex]
      simp [hexBytes_hexChars]
  from_empty := by
    intro decoded hdecoded
    have hempty : tableCodec.fromBech32 "" = .error (.error "not a bech32 address") := by rfl
    cases hempty.symm.trans hdecoded

theorem cosmos_and_kawaii_addresses :
    let chains : List CosmosChain :=
      [⟨⟨"cosmoshub-4", "cosmos"⟩, 118⟩, ⟨⟨"kawaii_6886-1", "oraie"⟩, 60⟩]
    let evmInfo : Addresses :=
      Function.update (fun _ => none) "0x01" (some "0x09beeedf51aa45718f46837c94712d89b157a9d3")
    ∃ addresses, generateAddress tableCodec "orai12zyu8w93h0q2lcnt50g3fn0w3yqnhy4fvawaqz"
        (some "inj1ny7sdlyh7303deyqtzpmnznvyzat2jtysr2h8u") chains (some evmInfo) = .ok addresses ∧
      RightKeys tableCodec "orai12zyu8w93h0q2lcnt50g3fn0w3yqnhy4fvawaqz"
        (some "inj1ny7sdlyh7303deyqtzpmnznvyzat2jtysr2h8u") oraiData injData chains (some evmInfo)
        addresses := by
  intro chains evmInfo
  refine generateAddress_rightKeys tableCodec tableCodec_laws _ _ oraiData injData ⟨?_, ?_⟩ chains
    (by decide) (by decide) (by decide) (some evmInfo)
  · exact ⟨"orai", by rfl⟩
  · intro address haddress
    obtain rfl := Option.some.inj haddress
    exact ⟨"inj", by rfl⟩

end OraidexSdk.UniversalSwap
