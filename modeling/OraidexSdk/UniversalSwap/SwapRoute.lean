import OraidexSdk.Common.Constants
import OraidexSdk.Loops.Walk
import OraidexSdk.OraiswapV3.SwapOperations

namespace OraidexSdk.UniversalSwap
open OraiswapV3

def ORAI_INFO : AssetInfo := .nativeToken ORAI

def USDC_INFO : AssetInfo := .token USDC_CONTRACT

def NEUTARO_INFO : AssetInfo := .nativeToken NEUTARO_ORAICHAIN_DENOM

def PAIRS : List (AssetInfo × AssetInfo) :=
  [(.token AIRI_CONTRACT, .nativeToken ORAI),
    (.token ORAIX_CONTRACT, .nativeToken ORAI),
    (.token SCORAI_CONTRACT, .nativeToken ORAI),
    (.nativeToken ORAI, .nativeToken ATOM_ORAICHAIN_DENOM),
    (.nativeToken ORAI, .token USDT_CONTRACT),
    (.token KWT_CONTRACT, .nativeToken ORAI),
    (.nativeToken ORAI, .nativeToken OSMOSIS_ORAICHAIN_DENOM),
    (.token MILKY_CONTRACT, .token USDT_CONTRACT),
    (.nativeToken ORAI, .token USDC_CONTRACT),
    (.nativeToken ORAI, .token TRX_CONTRACT),
    (.token SCATOM_CONTRACT, .nativeToken ATOM_ORAICHAIN_DENOM),
    (.token INJECTIVE_CONTRACT, .nativeToken ORAI),
    (.token USDC_CONTRACT, .token ORAIX_CONTRACT),
    (.nativeToken ORAI, .token WETH_CONTRACT),
    (.nativeToken NEUTARO_ORAICHAIN_DENOM, .token USDC_CONTRACT),
    (.nativeToken ORAI, .token BTC_CONTRACT),
    (.token OCH_CONTRACT, .nativeToken ORAI),
    (.nativeToken MAX_ORAICHAIN_DENOM, .token ORAIX_CONTRACT)]

structure OraiSwap where
  offerAssetInfo : AssetInfo
  askAssetInfo : AssetInfo
deriving DecidableEq, Repr

-- The loop over i from 0 to swapRoute.length - 2.
def hopsBetween : List AssetInfo → List OraiSwap
  | asset :: next :: rest => ⟨asset, next⟩ :: hopsBetween (next :: rest)
  | _ => []

def generateSwapRoute (offerAsset askAsset : AssetInfo) : List AssetInfo → List OraiSwap
  | [] => [⟨offerAsset, askAsset⟩]
  | first :: rest =>
      ⟨offerAsset, first⟩ :: hopsBetween (first :: rest) ++ [⟨rest.getLastD first, askAsset⟩]

def pairExist (offerInfo askInfo : AssetInfo) : Bool :=
  PAIRS.any fun assetInfos => (assetInfos.1 = offerInfo && assetInfos.2 = askInfo) ||
    (assetInfos.2 = offerInfo && assetInfos.1 = askInfo)

def generateSwapOperationMsgs (offerInfo askInfo : AssetInfo) : List OraiSwap :=
  if pairExist offerInfo askInfo then generateSwapRoute offerInfo askInfo []
  else if offerInfo = NEUTARO_INFO then
    let swapRoute := if askInfo = ORAI_INFO then [USDC_INFO] else [USDC_INFO, ORAI_INFO]
    generateSwapRoute offerInfo askInfo swapRoute
  else if askInfo = NEUTARO_INFO then
    let swapRoute := if offerInfo = ORAI_INFO then [USDC_INFO] else [ORAI_INFO, USDC_INFO]
    generateSwapRoute offerInfo askInfo swapRoute
  else generateSwapRoute offerInfo askInfo [ORAI_INFO]

section SwapRoute

theorem hopsBetween_concat (asset last : AssetInfo) (rest : List AssetInfo) :
    hopsBetween (asset :: rest ++ [last]) =
      hopsBetween (asset :: rest) ++ [⟨rest.getLastD asset, last⟩] := by
  induction rest generalizing asset with
  | nil => rfl
  | cons next rest ih =>
    rw [List.getLastD_cons]
    exact congrArg (List.cons ⟨asset, next⟩) (ih next)

-- The three parts of the route are one run over the assets from the offer to the ask.
theorem generateSwapRoute_eq (offer ask : AssetInfo) (swapRoute : List AssetInfo) :
    generateSwapRoute offer ask swapRoute = hopsBetween (offer :: swapRoute ++ [ask]) := by
  cases swapRoute with
  | nil => rfl
  | cons first rest =>
    rw [hopsBetween_concat, List.getLastD_cons]
    rfl

theorem hopsBetween_walk (asset last : AssetInfo) (rest : List AssetInfo) :
    Walk OraiSwap.offerAssetInfo OraiSwap.askAssetInfo asset
      (hopsBetween (asset :: rest ++ [last])) last := by
  induction rest generalizing asset with
  | nil => exact .cons rfl (.nil last)
  | cons next rest ih => exact .cons rfl (ih next)

theorem hopsBetween_moves (assets : List AssetInfo) :
    (∀ swap ∈ hopsBetween assets, swap.offerAssetInfo ≠ swap.askAssetInfo) ↔
      assets.IsChain (· ≠ ·) := by
  induction assets with
  | nil => simp [hopsBetween]
  | cons asset rest ih =>
    cases rest with
    | nil => simp [hopsBetween]
    | cons next rest => rw [hopsBetween, List.forall_mem_cons, ih, List.isChain_cons_cons]

end SwapRoute

structure Connects (offer ask : AssetInfo) (swaps : List OraiSwap) : Prop where
  nonempty : swaps ≠ []
  first : swaps.head?.map OraiSwap.offerAssetInfo = some offer
  last : swaps.getLast?.map OraiSwap.askAssetInfo = some ask
  linked : swaps.IsChain (fun swap next => next.offerAssetInfo = swap.askAssetInfo)
  moves : ∀ swap ∈ swaps, swap.offerAssetInfo ≠ swap.askAssetInfo

theorem generateSwapRoute_connects_iff (offer ask : AssetInfo) (swapRoute : List AssetInfo) :
    Connects offer ask (generateSwapRoute offer ask swapRoute) ↔
      (offer :: swapRoute ++ [ask]).IsChain (· ≠ ·) := by
  rw [generateSwapRoute_eq, ← hopsBetween_moves]
  have hwalk := hopsBetween_walk offer ask swapRoute
  have hne : hopsBetween (offer :: swapRoute ++ [ask]) ≠ [] := by
    rw [hopsBetween_concat]
    exact List.append_ne_nil_of_right_ne_nil _ (List.cons_ne_nil _ _)
  refine ⟨Connects.moves, fun hmoves => ⟨hne, ?_, ?_, hwalk.isChain, hmoves⟩⟩
  · rw [List.head?_eq_some_head hne, Option.map_some, hwalk.head_source (List.head?_eq_some_head hne)]
  · rw [List.getLast?_eq_some_getLast hne, Option.map_some,
      hwalk.getLast_target (List.getLast?_eq_some_getLast hne)]

theorem generateSwapOperationMsgs_connects_iff (offer ask : AssetInfo) (hne : offer ≠ ask) :
    Connects offer ask (generateSwapOperationMsgs offer ask) ↔
      pairExist offer ask = true ∨ offer = NEUTARO_INFO ∨ ask = NEUTARO_INFO ∨
        (offer ≠ ORAI_INFO ∧ ask ≠ ORAI_INFO) := by
  have husdcOrai : USDC_INFO ≠ ORAI_INFO := by decide
  have hneutaroUsdc : NEUTARO_INFO ≠ USDC_INFO := by decide
  rw [generateSwapOperationMsgs]
  by_cases hpair : pairExist offer ask = true
  · rw [if_pos hpair, generateSwapRoute_connects_iff]
    simp [hpair, hne]
  · rw [if_neg hpair, or_iff_right hpair]
    by_cases hoffer : offer = NEUTARO_INFO
    · rw [if_pos hoffer, generateSwapRoute_connects_iff]
      subst hoffer
      refine iff_of_true ?_ (.inl rfl)
      by_cases hask : ask = ORAI_INFO
      · simp [hask, hneutaroUsdc, husdcOrai]
      · simp [hask, hneutaroUsdc, husdcOrai, Ne.symm hask]
    · rw [if_neg hoffer, or_iff_right hoffer]
      by_cases hask : ask = NEUTARO_INFO
      · rw [if_pos hask, generateSwapRoute_connects_iff]
        subst hask
        refine iff_of_true ?_ (.inl rfl)
        by_cases horai : offer = ORAI_INFO
        · simp [horai, hneutaroUsdc.symm, husdcOrai.symm]
        · simp [horai, hneutaroUsdc.symm, husdcOrai.symm]
      · rw [if_neg hask, or_iff_right hask, generateSwapRoute_connects_iff]
        simp [eq_comm]

theorem usdt_to_atom_connects :
    Connects (.token USDT_CONTRACT) (.nativeToken ATOM_ORAICHAIN_DENOM)
      (generateSwapOperationMsgs (.token USDT_CONTRACT) (.nativeToken ATOM_ORAICHAIN_DENOM)) :=
  (generateSwapOperationMsgs_connects_iff _ _ (by decide)).mpr (.inr (.inr (.inr (by decide))))

-- ORAI to a token that it has no pair with is swapped for itself first.
theorem orai_to_unpaired_swaps_itself :
    let ton : AssetInfo :=
      .nativeToken "factory/orai1wuvhex9xqs3r539mvc6mtm7n20fcj3qr2m0y9khx6n5vtlngfzes3k0rq9/ton"
    ORAI_INFO ≠ ton ∧
      generateSwapOperationMsgs ORAI_INFO ton = [⟨ORAI_INFO, ORAI_INFO⟩, ⟨ORAI_INFO, ton⟩] ∧
      ¬ Connects ORAI_INFO ton (generateSwapOperationMsgs ORAI_INFO ton) := by
  intro ton
  have hrun : generateSwapOperationMsgs ORAI_INFO ton =
      [⟨ORAI_INFO, ORAI_INFO⟩, ⟨ORAI_INFO, ton⟩] := by decide +kernel
  refine ⟨by decide +kernel, hrun, fun h => ?_⟩
  rw [hrun] at h
  exact h.moves _ List.mem_cons_self rfl

end OraidexSdk.UniversalSwap
