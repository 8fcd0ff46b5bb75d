import OraidexSdk.Common.Address

namespace OraidexSdk
open Js

def DecodesTo (env : Environment) (address : String) (chain : CustomChainInfo) : Prop :=
  ∃ decodedAddress, env.bech32Decode address = .ok decodedAddress ∧
    decodedAddress.addressPrefix = chain.bech32PrefixAccAddr

-- The chain that the reduce leaves in chainInfo.
def chainInfo (env : Environment) (network : String) : Option CustomChainInfo :=
  (env.cosmosChains.filter (·.chainId = network)).getLast?

section Cosmos

variable {env : Environment} {address network : String} {chain : CustomChainInfo}

theorem chainInfo_mem (h : chainInfo env network = some chain) :
    chain ∈ env.cosmosChains ∧ chain.chainId = network := by
  have hmem := List.mem_of_getLast? h
  simpa using hmem

theorem chainInfo_isSome (hchain : chain ∈ env.cosmosChains) (hnetwork : chain.chainId = network) :
    ∃ known, chainInfo env network = some known := by
  refine Option.ne_none_iff_exists'.mp fun hnone => ?_
  rw [chainInfo, List.getLast?_eq_none_iff, List.filter_eq_nil_iff] at hnone
  exact hnone chain hchain (decide_eq_true hnetwork)

theorem isValid_cosmos_iff :
    (validateAndIdentifyCosmosAddress env address network).isValid = true ↔
      cosmosAddressRegex address.toList = true ∧
        (∃ chain ∈ env.cosmosChains, DecodesTo env address chain) ∧
        ∀ known ∈ chainInfo env network, DecodesTo env address known := by
  rw [validateAndIdentifyCosmosAddress]
  by_cases hregex : cosmosAddressRegex address.toList = true
  · rw [if_pos hregex, and_iff_right hregex]
    cases hdecode : env.bech32Decode address with
    | error message => simp [DecodesTo, hdecode, AddressCheck.rejected]
    | ok decodedAddress =>
      have hdecodes (chain : CustomChainInfo) : DecodesTo env address chain ↔
          chain.bech32PrefixAccAddr = decodedAddress.addressPrefix := by
        simp [DecodesTo, hdecode, eq_comm]
      simp only [hdecodes]
      have hmismatch : (chainInfo env network).any
          (·.bech32PrefixAccAddr ≠ decodedAddress.addressPrefix) = true ↔
            ¬ ∀ known ∈ chainInfo env network,
              known.bech32PrefixAccAddr = decodedAddress.addressPrefix := by
        cases chainInfo env network <;> simp
      change (if (chainInfo env network).any _ = true then _ else _ : AddressCheck).isValid =
        true ↔ _
      by_cases hknown : ∀ known ∈ chainInfo env network,
          known.bech32PrefixAccAddr = decodedAddress.addressPrefix
      · rw [if_neg (mt hmismatch.mp (not_not_intro hknown)), and_iff_left hknown]
        by_cases hlisted : ∃ chain ∈ env.cosmosChains,
            chain.bech32PrefixAccAddr = decodedAddress.addressPrefix
        · rw [if_pos (by simpa using hlisted)]
          exact iff_of_true rfl hlisted
        · rw [if_neg (by simpa using hlisted)]
          exact iff_of_false Bool.false_ne_true hlisted
      · rw [if_pos (hmismatch.mpr hknown)]
        exact iff_of_false Bool.false_ne_true fun h => hknown h.2
  · rw [if_neg hregex]
    exact iff_of_false Bool.false_ne_true fun h => hregex h.1

end Cosmos

theorem validateAndIdentifyCosmosAddress_sound (env : Environment) (address network : String)
    (hvalid : (validateAndIdentifyCosmosAddress env address network).isValid = true) :
    ∃ chain ∈ env.cosmosChains, DecodesTo env address chain ∧
      ((∃ known ∈ env.cosmosChains, known.chainId = network) → chain.chainId = network) := by
  obtain ⟨-, ⟨chain, hchain, hdecodes⟩, hknown⟩ := isValid_cosmos_iff.mp hvalid
  by_cases hlisted : ∃ known ∈ env.cosmosChains, known.chainId = network
  · obtain ⟨listed, hlisted, hnetwork⟩ := hlisted
    obtain ⟨known, hinfo⟩ := chainInfo_isSome hlisted hnetwork
    obtain ⟨hmem, hid⟩ := chainInfo_mem hinfo
    exact ⟨known, hmem, hknown known hinfo, fun _ => hid⟩
  · exact ⟨chain, hchain, hdecodes, fun h => absurd h hlisted⟩

def oraiAccount : String := "orai1hvr9d72r5um9lvt0rpkd4r75vrsqtw6yujhqs2"

def cosmosEnvironment : Environment where
  dateNow := 1700000000000
  getAddress := fun _ => none
  base58Decode := fun _ => none
  bech32Decode := fun s =>
    if s = oraiAccount then .ok ⟨"orai", [23, 12, 3, 5, 13, 30, 10, 3, 20, 28, 27, 5, 31, 12, 11,
      15, 3, 1, 22, 13, 21, 3, 30, 20, 12, 3, 16, 0, 11, 14, 26, 4]⟩
    else .error "invalid"
  tonAddressParse := fun _ => .error "Unknown address type"
  cosmosChains := [⟨"Oraichain", "orai"⟩, ⟨"osmosis-1", "osmo"⟩]
  evmChains := ["0x01", "0x38", "0x2b6653dc"]

theorem orai_account_decodes :
    ∃ chain ∈ cosmosEnvironment.cosmosChains, DecodesTo cosmosEnvironment oraiAccount chain ∧
      ((∃ known ∈ cosmosEnvironment.cosmosChains, known.chainId = "Oraichain") →
        chain.chainId = "Oraichain") :=
  validateAndIdentifyCosmosAddress_sound cosmosEnvironment oraiAccount "Oraichain" (by decide)

-- A network that is not listed is accepted with the prefix of any chain that is.
theorem unlisted_network_accepted :
    (validateAndIdentifyCosmosAddress cosmosEnvironment oraiAccount "kawaii_6886-1").isValid = true ∧
      ¬ ∃ chain ∈ cosmosEnvironment.cosmosChains, chain.chainId = "kawaii_6886-1" ∧
        DecodesTo cosmosEnvironment oraiAccount chain := by
  refine ⟨by decide, ?_⟩
  rintro ⟨chain, hchain, hnetwork, -⟩
  have hnone : ∀ chain ∈ cosmosEnvironment.cosmosChains, chain.chainId ≠ "kawaii_6886-1" := by decide
  exact hnone chain hchain hnetwork

end OraidexSdk
