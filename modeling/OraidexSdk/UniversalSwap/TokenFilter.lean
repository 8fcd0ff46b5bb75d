import Mathlib.Data.List.Infix
import OraidexSdk.Ordered.Distinct
import OraidexSdk.UniversalSwap.RelayerFee

namespace OraidexSdk.UniversalSwap
open Js Distinct

inductive SwapDirection where
  | From
  | To
deriving DecidableEq, Repr

-- The tokens are objects, which a Set tells apart by identity.
structure TokenQuery (T : Type) where
  chainId : String
  coingeckoId : Option String
  denom : String
  searchTokenName : String
  direction : SwapDirection
  swapFromTokens : List T
  swapToTokens : List T
  oraichainTokens : List T
  flattenTokens : List T

-- swapEvmRoutes[chainId], with undefined where the table has no row
def swapEvmRow (chainId : String) : Option (List (String × List String)) :=
  if chainId ∈ ["0x38", "0x01"] then some (swapEvmRoutes chainId) else none

def swappableTokens (routes : List (String × List String)) : List (Option String) :=
  routes.map fun route => splitAt route.1 '-' 1

section Filter

variable {T : Type} (toLowerCase : String → String) (info : T → TokenItemType)
variable (query : TokenQuery T)

def TokenQuery.listTokens : List T :=
  match query.direction with
  | .From => query.swapFromTokens
  | .To => query.swapToTokens

def matchesSearch (token : T) : Bool :=
  (info token).denom ≠ query.denom ∧
    (toLowerCase query.searchTokenName).toList <:+: (toLowerCase (info token).name).toList

def isSwappable (routes : List (String × List String)) (token : T) : Bool :=
  (swappableTokens routes).contains (info token).contractAddress

-- getTokenOnOraichain without isNative, which finds the object itself
def oraichainToken (coingeckoId : Option String) : Option T :=
  match query.oraichainTokens.filter fun token => (info token).coinGeckoId = coingeckoId with
  | [] => none
  | [token] => some token
  | filterOraichainToken => filterOraichainToken.find? fun token =>
      (truthy (info token).contractAddress).isSome

def isKept (token : T) : Bool :=
  let isSupported := isSupportedNoPoolSwapEvm (info token).coinGeckoId
  if isEvmNetworkNativeSwapSupported query.chainId = false then
    match query.direction with
    | .To => !isSupported
    | .From =>
      if isSupported then
        (getTokenOnSpecificChainId query.coingeckoId (info token).chainId
          (query.flattenTokens.map info)).isSome
      else true
  else if isSupported then (info token).chainId = query.chainId
  else true

variable [DecidableEq T]

def filterNonPoolEvmTokens : Except JsError (List (Option T)) :=
  let filteredToTokens := query.listTokens.filter (matchesSearch toLowerCase info query)
  if isSupportedNoPoolSwapEvm query.coingeckoId then
    match swapEvmRow query.chainId with
    | none => .error .typeError
    | some routes =>
      let filteredTokens := filteredToTokens.filter (isSwappable info routes)
      match query.direction with
      | .To =>
        .ok (filteredTokens.map some ++ filteredTokens.map fun token =>
          oraichainToken info query (info token).coinGeckoId).eraseDups
      | .From => .ok ((filteredTokens.filter (isKept info query)).map some)
  else .ok ((filteredToTokens.filter (isKept info query)).map some)

def ReturnsDistinctTokens (result : Except JsError (List (Option T))) : Prop :=
  ∃ tokens : List T, result = .ok (tokens.map some) ∧ tokens.Nodup ∧
    ∀ token ∈ tokens, token ∈ query.listTokens ∨ token ∈ query.oraichainTokens

def Passes (token : T) : Prop :=
  matchesSearch toLowerCase info query token = true ∧ isKept info query token = true ∧
    (isSupportedNoPoolSwapEvm query.coingeckoId = true →
      ∀ routes, swapEvmRow query.chainId = some routes → isSwappable info routes token = true)

structure FilterCondition : Prop where
  row : isSupportedNoPoolSwapEvm query.coingeckoId = true → (swapEvmRow query.chainId).isSome = true
  counterparts : isSupportedNoPoolSwapEvm query.coingeckoId = true → query.direction = .To →
    ∀ routes, swapEvmRow query.chainId = some routes → ∀ token ∈ query.listTokens,
      matchesSearch toLowerCase info query token = true → isSwappable info routes token = true →
        (oraichainToken info query (info token).coinGeckoId).isSome = true
  distinct : (isSupportedNoPoolSwapEvm query.coingeckoId = true → query.direction = .From) →
    ∀ token, Passes toLowerCase info query token → query.listTokens.count token ≤ 1

end Filter

section Results

variable {T : Type} {toLowerCase : String → String} {info : T → TokenItemType}
variable {query : TokenQuery T}

theorem oraichainToken_map (coingeckoId : Option String) :
    (oraichainToken info query coingeckoId).map info =
      getTokenOnOraichain coingeckoId (query.oraichainTokens.map info) false := by
  have hfilter : (query.oraichainTokens.map info).filter (·.coinGeckoId = coingeckoId) =
      (query.oraichainTokens.filter fun token => (info token).coinGeckoId = coingeckoId).map info :=
    List.filter_map
  unfold oraichainToken getTokenOnOraichain
  rw [hfilter]
  rcases query.oraichainTokens.filter fun token => (info token).coinGeckoId = coingeckoId with
    _ | ⟨first, _ | ⟨second, rest⟩⟩
  · rfl
  · rfl
  · simp only [Bool.bne_false, List.map_cons]
    rw [← List.map_cons, ← List.map_cons, List.find?_map]
    rfl

theorem oraichainToken_mem {coingeckoId : Option String} {token : T}
    (h : oraichainToken info query coingeckoId = some token) : token ∈ query.oraichainTokens := by
  unfold oraichainToken at h
  split at h
  · cases h
  · rename_i found heq
    cases h
    have hmem : token ∈ query.oraichainTokens.filter fun token =>
        (info token).coinGeckoId = coingeckoId := heq ▸ List.mem_singleton.mpr rfl
    exact List.mem_of_mem_filter hmem
  · exact List.mem_of_mem_filter (List.mem_of_find?_eq_some h)

theorem returnsDistinctTokens_map_some_iff {tokens : List T}
    (hlisted : ∀ token ∈ tokens, token ∈ query.listTokens) :
    ReturnsDistinctTokens query (.ok (tokens.map some)) ↔ tokens.Nodup := by
  constructor
  · rintro ⟨tokens', heq, hnodup, -⟩
    rw [List.map_injective_iff.mpr (Option.some_injective T) (Except.ok.inj heq)]
    exact hnodup
  · exact fun hnodup => ⟨tokens, rfl, hnodup, fun token hmem => .inl (hlisted token hmem)⟩

variable [DecidableEq T]

theorem returnsDistinctTokens_eraseDups_iff {results : List (Option T)}
    (hlisted : ∀ token, some token ∈ results →
      token ∈ query.listTokens ∨ token ∈ query.oraichainTokens) :
    ReturnsDistinctTokens query (.ok results.eraseDups) ↔ none ∉ results := by
  rw [← List.mem_eraseDups, ← exists_map_some_iff]
  constructor
  · rintro ⟨tokens, heq, -⟩
    exact ⟨tokens, Except.ok.inj heq⟩
  · rintro ⟨tokens, heq⟩
    have hnodup : (tokens.map some).Nodup := heq ▸ nodup_eraseDups results
    refine ⟨tokens, congrArg _ heq, hnodup.of_map, fun token hmem => hlisted token ?_⟩
    rw [← List.mem_eraseDups, heq]
    exact List.mem_map_of_mem hmem

section Branches

variable (hpool : isSupportedNoPoolSwapEvm query.coingeckoId = true)
variable {routes : List (String × List String)} (hrow : swapEvmRow query.chainId = some routes)

theorem pool_returnsDistinctTokens_iff
    (hpool : isSupportedNoPoolSwapEvm query.coingeckoId = false) :
    ReturnsDistinctTokens query (filterNonPoolEvmTokens toLowerCase info query) ↔
      FilterCondition toLowerCase info query := by
  have hguard : ¬ isSupportedNoPoolSwapEvm query.coingeckoId = true := Bool.eq_false_iff.mp hpool
  have hlisted : ∀ token ∈ (query.listTokens.filter (matchesSearch toLowerCase info query)).filter
      (isKept info query), token ∈ query.listTokens := by
    intro token hmem
    exact List.mem_of_mem_filter (List.mem_of_mem_filter hmem)
  rw [filterNonPoolEvmTokens, if_neg hguard, returnsDistinctTokens_map_some_iff hlisted,
    List.filter_filter, nodup_filter_iff]
  constructor
  · intro hdistinct
    refine ⟨fun h => absurd h hguard, fun h => absurd h hguard, fun _ token hpasses => ?_⟩
    exact hdistinct token (by rw [hpasses.1, hpasses.2.1]; rfl)
  · intro hcondition token hboth
    obtain ⟨hkept, hmatches⟩ := Bool.and_eq_true_iff.mp hboth
    exact hcondition.distinct (fun h => absurd h hguard) token
      ⟨hmatches, hkept, fun h => absurd h hguard⟩

include hpool

theorem noRow_returnsDistinctTokens_iff (hrow : swapEvmRow query.chainId = none) :
    ReturnsDistinctTokens query (filterNonPoolEvmTokens toLowerCase info query) ↔
      FilterCondition toLowerCase info query := by
  rw [filterNonPoolEvmTokens, if_pos hpool, hrow]
  refine iff_of_false ?_ fun hcondition => ?_
  · rintro ⟨tokens, hrun, -⟩
    cases hrun
  · have hsome := hcondition.row hpool
    rw [hrow] at hsome
    cases hsome

include hrow

theorem sell_returnsDistinctTokens_iff (hdirection : query.direction = .From) :
    ReturnsDistinctTokens query (filterNonPoolEvmTokens toLowerCase info query) ↔
      FilterCondition toLowerCase info query := by
  have hlisted : ∀ token ∈ ((query.listTokens.filter (matchesSearch toLowerCase info query)).filter
      (isSwappable info routes)).filter (isKept info query), token ∈ query.listTokens := by
    intro token hmem
    exact List.mem_of_mem_filter (List.mem_of_mem_filter (List.mem_of_mem_filter hmem))
  rw [filterNonPoolEvmTokens, if_pos hpool, hrow]
  simp only [hdirection]
  rw [returnsDistinctTokens_map_some_iff hlisted, List.filter_filter, List.filter_filter,
    nodup_filter_iff]
  constructor
  · intro hdistinct
    refine ⟨fun _ => hrow ▸ rfl, fun _ hto => ?_, fun _ token hpasses => ?_⟩
    · rw [hdirection] at hto
      cases hto
    have hswappable := hpasses.2.2 hpool routes hrow
    exact hdistinct token (by rw [hpasses.1, hpasses.2.1, hswappable]; rfl)
  · intro hcondition token hall
    obtain ⟨hboth, hmatches⟩ := Bool.and_eq_true_iff.mp hall
    obtain ⟨hkept, hswappable⟩ := Bool.and_eq_true_iff.mp hboth
    refine hcondition.distinct (fun _ => hdirection) token ⟨hmatches, hkept, fun _ routes' h => ?_⟩
    rw [hrow] at h
    cases h
    exact hswappable

omit hpool hrow [DecidableEq T] in
theorem mem_filteredTokens {token : T} :
    token ∈ (query.listTokens.filter (matchesSearch toLowerCase info query)).filter
        (isSwappable info routes) ↔
      token ∈ query.listTokens ∧ matchesSearch toLowerCase info query token = true ∧
        isSwappable info routes token = true := by
  rw [List.mem_filter, List.mem_filter, and_assoc]

theorem buy_returnsDistinctTokens_iff (hdirection : query.direction = .To) :
    ReturnsDistinctTokens query (filterNonPoolEvmTokens toLowerCase info query) ↔
      FilterCondition toLowerCase info query := by
  let filteredTokens := (query.listTokens.filter (matchesSearch toLowerCase info query)).filter
    (isSwappable info routes)
  have hlisted : ∀ token, some token ∈ (filteredTokens.map some ++ filteredTokens.map fun token =>
      oraichainToken info query (info token).coinGeckoId) →
        token ∈ query.listTokens ∨ token ∈ query.oraichainTokens := by
    intro token h
    rcases List.mem_append.mp h with hin | hin
    · obtain ⟨other, hother, heq⟩ := List.mem_map.mp hin
      cases heq
      exact .inl (mem_filteredTokens.mp hother).1
    · obtain ⟨other, -, heq⟩ := List.mem_map.mp hin
      exact .inr (oraichainToken_mem heq)
  rw [filterNonPoolEvmTokens, if_pos hpool, hrow]
  simp only [hdirection]
  rw [returnsDistinctTokens_eraseDups_iff hlisted, none_not_mem_append_iff]
  constructor
  · intro hsome
    refine ⟨fun _ => hrow ▸ rfl, fun _ _ routes' hroutes token hlist hmatches hswap => ?_,
      fun hfrom => ?_⟩
    · rw [hrow] at hroutes
      cases hroutes
      exact hsome token (mem_filteredTokens.mpr ⟨hlist, hmatches, hswap⟩)
    · have hcontra := hfrom hpool
      rw [hdirection] at hcontra
      cases hcontra
  · intro hcondition token hfiltered
    obtain ⟨hlist, hmatches, hswap⟩ := mem_filteredTokens.mp hfiltered
    exact hcondition.counterparts hpool hdirection routes hrow token hlist hmatches hswap

end Branches

end Results

theorem filterNonPoolEvmTokens_returnsDistinctTokens_iff {T : Type} [DecidableEq T]
    (toLowerCase : String → String) (info : T → TokenItemType) (query : TokenQuery T) :
    ReturnsDistinctTokens query (filterNonPoolEvmTokens toLowerCase info query) ↔
      FilterCondition toLowerCase info query := by
  cases hpool : isSupportedNoPoolSwapEvm query.coingeckoId with
  | false => exact pool_returnsDistinctTokens_iff hpool
  | true =>
    cases hrow : swapEvmRow query.chainId with
    | none => exact noRow_returnsDistinctTokens_iff hpool hrow
    | some routes =>
      cases hdirection : query.direction with
      | From => exact sell_returnsDistinctTokens_iff hpool hrow hdirection
      | To => exact buy_returnsDistinctTokens_iff hpool hrow hdirection

def ethOnOraichain : TokenQuery TokenItemType where
  chainId := "Oraichain"
  coingeckoId := some "ethereum"
  denom := "ethereum"
  searchTokenName := ""
  direction := .From
  swapFromTokens := []
  swapToTokens := []
  oraichainTokens := []
  flattenTokens := []

-- The table has no row for the chain.
theorem filterNonPoolEvmTokens_without_row :
    ¬ ReturnsDistinctTokens ethOnOraichain
      (filterNonPoolEvmTokens asciiLowerCase id ethOnOraichain) := by
  have hrun : filterNonPoolEvmTokens asciiLowerCase id ethOnOraichain = .error .typeError := rfl
  rintro ⟨tokens, heq, -⟩
  rw [hrun] at heq
  cases heq

end OraidexSdk.UniversalSwap
