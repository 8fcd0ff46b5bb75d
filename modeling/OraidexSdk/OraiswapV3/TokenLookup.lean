import OraidexSdk.Common.Constants
import OraidexSdk.OraiswapV3.SwapOperations

namespace OraidexSdk.OraiswapV3
open Js

def parseAssetInfo : AssetInfo → String
  | .nativeToken denom => denom
  | .token contractAddr => contractAddr

@[simp] theorem parseAssetInfo_parseTokenInfo (token : TokenItem) :
    parseAssetInfo (parseTokenInfo token) = extractAddress token := by
  unfold parseTokenInfo extractAddress
  cases truthy token.contractAddress <;> rfl

def lookedUp (toLowerCase : String → String) (tokens : List TokenItem) (id : String) :
    Option String :=
  (parseAssetInfoFromContractAddrOrDenom toLowerCase tokens id).map parseAssetInfo

section Lookup

variable {toLowerCase : String → String} {pre post tokens : List TokenItem} {t : TokenItem}

theorem lookedUp_empty : lookedUp toLowerCase tokens "" = none := rfl

theorem lookedUp_eq {id : String} (hid : id ≠ "") :
    lookedUp toLowerCase tokens id =
      (tokens.find? fun u => toLowerCase (extractAddress u) = toLowerCase id).map
        extractAddress := by
  rw [lookedUp, parseAssetInfoFromContractAddrOrDenom, if_neg hid, Option.map_map]
  exact congrArg (Option.map · _) (funext parseAssetInfo_parseTokenInfo)

theorem lookedUp_first (hid : extractAddress t ≠ "")
    (hfirst : ∀ u ∈ pre, toLowerCase (extractAddress u) ≠ toLowerCase (extractAddress t)) :
    lookedUp toLowerCase (pre ++ t :: post) (extractAddress t) = some (extractAddress t) := by
  have hpre : pre.find? (fun u => toLowerCase (extractAddress u) = toLowerCase (extractAddress t)) =
      none := by simpa using hfirst
  rw [lookedUp_eq hid, List.find?_append, hpre]
  simp

theorem lookedUp_earlier (post : List TokenItem) (hid : extractAddress t ≠ "") {u : TokenItem} (hu : u ∈ pre)
    (hcase : toLowerCase (extractAddress u) = toLowerCase (extractAddress t)) :
    ∃ v ∈ pre, lookedUp toLowerCase (pre ++ t :: post) (extractAddress t) =
      some (extractAddress v) := by
  have hsome : (pre.find? fun u =>
      toLowerCase (extractAddress u) = toLowerCase (extractAddress t)).isSome := by
    rw [List.find?_isSome]
    exact ⟨u, hu, decide_eq_true hcase⟩
  obtain ⟨v, hv⟩ := Option.isSome_iff_exists.mp hsome
  refine ⟨v, List.mem_of_find?_eq_some hv, ?_⟩
  rw [lookedUp_eq hid, List.find?_append, hv]
  rfl

end Lookup

theorem lookedUp_iff (toLowerCase : String → String) (pre post : List TokenItem) (t : TokenItem)
    (hdistinct : ((pre ++ t :: post).map extractAddress).Nodup) :
    lookedUp toLowerCase (pre ++ t :: post) (extractAddress t) = some (extractAddress t) ↔
      extractAddress t ≠ "" ∧
        ∀ u ∈ pre, toLowerCase (extractAddress u) ≠ toLowerCase (extractAddress t) := by
  constructor
  · intro hfound
    have hid : extractAddress t ≠ "" := by
      intro hempty
      rw [hempty, lookedUp_empty] at hfound
      cases hfound
    refine ⟨hid, fun u hu hcase => ?_⟩
    obtain ⟨v, hv, hfirst⟩ := lookedUp_earlier post hid hu hcase
    rw [List.map_append, List.map_cons] at hdistinct
    refine (List.nodup_append.mp hdistinct).2.2 _ (List.mem_map_of_mem hv) _ List.mem_cons_self ?_
    exact Option.some.inj (hfirst.symm.trans hfound)
  · exact fun ⟨hid, hfirst⟩ => lookedUp_first hid hfirst

theorem lookedUp_och :
    let orai : TokenItem := ⟨"ORAI", none, "orai", "Oraichain", 6⟩
    let och : TokenItem := ⟨"OCH", some OCH_CONTRACT, "och", "Oraichain", 6⟩
    lookedUp asciiLowerCase [orai, och] (extractAddress och) = some OCH_CONTRACT := by
  intro orai och
  exact (lookedUp_iff asciiLowerCase [orai] [] och (by decide +kernel)).mpr
    ⟨by decide +kernel, by decide +kernel⟩

-- Two denoms that differ in letter case only stand for the first of them.
theorem lookedUp_other_case :
    let upper : TokenItem := ⟨"HMSTR", none, "factory/orai1wuvh/HMSTR", "Oraichain", 6⟩
    let lower : TokenItem := ⟨"hmstr", none, "factory/orai1wuvh/hmstr", "Oraichain", 6⟩
    ([upper, lower].map extractAddress).Nodup ∧
      lookedUp asciiLowerCase [upper, lower] (extractAddress lower) =
        some (extractAddress upper) ∧
      lookedUp asciiLowerCase [upper, lower] (extractAddress lower) ≠
        some (extractAddress lower) := by
  decide +kernel

end OraidexSdk.OraiswapV3
