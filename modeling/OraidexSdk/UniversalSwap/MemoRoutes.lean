import OraidexSdk.UniversalSwap.Memo
import Mathlib.Data.List.Chain

namespace OraidexSdk.UniversalSwap
open Js Outcome

structure KeepsAction (action : Action) (ops : List Memo.SwapOperation) : Prop where
  swapInfo : ops.map (fun op => (⟨op.poolId, op.denomOut⟩ : SwapInfo)) = action.swapInfo.getD []
  first : ∀ op ∈ ops.head?, op.denomIn = action.tokenIn
  linked : ops.IsChain (fun op next => next.denomIn = op.denomOut)

structure KeepsRoute (route : Route) (memoRoute : Memo.Route) : Prop where
  offerAmount : memoRoute.offerAmount = route.swapAmount
  operations : ∃ blocks, memoRoute.operations = blocks.flatten ∧
    List.Forall₂ KeepsAction (route.paths.flatMap Path.actions) blocks

def Memo.routes (memo : Memo) : List Memo.Route :=
  (memo.userSwap.bind UserSwap.smartSwapExactAssetIn).elim [] SmartSwapExactAssetIn.routes

def swapRoutes (routes : List Route) : List Route := routes.filter (·.paths ≠ [])

structure KeepsRoutes (routes : List Route) (post : Memo.PostAction) (memo : Memo) : Prop where
  kept : List.Forall₂ KeepsRoute (swapRoutes routes) memo.routes
  userSwap : memo.userSwap = none ↔ swapRoutes routes = []
  postSwapAction : memo.postSwapAction = none ↔ post = ⟨none, none, none, none⟩

def Refused (route : Route) : Prop :=
  route.paths ≠ [] ∧ (1 < route.paths.length ∨
    ∃ path ∈ route.paths, ∃ action ∈ path.actions, action.type ≠ .swap ∨ action.swapInfo = none)

theorem supports_iff {route : Route} : Memo.Supports route ↔ ¬ Refused route := by
  unfold Memo.Supports Refused
  rcases eq_or_ne route.paths [] with hnil | hne
  · simp [hnil]
  · simp [hne, Option.isSome_iff_ne_none]

theorem memoOperations_head (denomIn : String) (swapInfo : List SwapInfo) :
    ∀ op ∈ (memoOperations denomIn swapInfo).head?, op.denomIn = denomIn := by
  cases swapInfo with
  | nil => simp [memoOperations]
  | cons info rest => simp [memoOperations]

theorem memoOperations_isChain (denomIn : String) (swapInfo : List SwapInfo) :
    (memoOperations denomIn swapInfo).IsChain (fun op next => next.denomIn = op.denomOut) := by
  induction swapInfo generalizing denomIn with
  | nil => exact .nil
  | cons info rest ih =>
    exact List.isChain_cons.mpr ⟨memoOperations_head info.tokenOut rest, ih info.tokenOut⟩

theorem memoOperations_swapInfo (denomIn : String) (swapInfo : List SwapInfo) :
    (memoOperations denomIn swapInfo).map (fun op => (⟨op.poolId, op.denomOut⟩ : SwapInfo)) =
      swapInfo := by
  induction swapInfo generalizing denomIn with
  | nil => rfl
  | cons info rest ih => exact congrArg (List.cons info) (ih info.tokenOut)

theorem convertAction_keeps {action : Action} {ops : List Memo.SwapOperation}
    (h : convertAction action = .ok ops) : KeepsAction action ops := by
  unfold convertAction at h
  split at h
  · cases h
  · cases hinfo : action.swapInfo with
    | none =>
      rw [hinfo] at h
      cases h
    | some swapInfo =>
      rw [hinfo] at h
      obtain rfl := Except.ok.inj h
      refine ⟨?_, memoOperations_head _ _, memoOperations_isChain _ _⟩
      rw [hinfo]
      exact memoOperations_swapInfo _ _

theorem convertApiOpsToMemoRoute_keeps {route : Route} {memoRoute : Option Memo.Route}
    (h : convertApiOpsToMemoRoute route = .ok memoRoute) :
    (route.paths = [] ∧ memoRoute = none) ∨
      (route.paths ≠ [] ∧ ∃ kept, memoRoute = some kept ∧ KeepsRoute route kept) := by
  obtain ⟨swapAmount, returnAmount, paths⟩ := route
  match paths with
  | [] => exact .inl ⟨rfl, (Except.ok.inj h).symm⟩
  | [path] =>
    obtain ⟨blocks, hblocks, hmemo⟩ := bind_eq_ok.mp h
    cases hmemo
    refine .inr ⟨List.cons_ne_nil _ _, _, rfl, rfl, blocks, rfl, ?_⟩
    rw [List.flatMap_singleton]
    exact (forall₂_of_mapM hblocks).imp fun _ _ => convertAction_keeps
  | _ :: _ :: _ => cases h

theorem convertRoutes_keep {routes : List Route} {memoRoutes : List (Option Memo.Route)}
    (h : routes.mapM convertApiOpsToMemoRoute = .ok memoRoutes) :
    List.Forall₂ KeepsRoute (swapRoutes routes) (memoRoutes.filterMap id) := by
  have hroutes := forall₂_of_mapM h
  clear h
  induction hroutes with
  | nil => exact .nil
  | @cons route memoRoute routes memoRoutes hroute _ ih =>
    rcases convertApiOpsToMemoRoute_keeps hroute with ⟨hnil, rfl⟩ | ⟨hne, kept, rfl, hkept⟩
    · simpa [swapRoutes, hnil] using ih
    · simpa [swapRoutes, hne] using And.intro hkept ih

theorem userSwap_routes {memoRoutes : List Memo.Route} {minimumReceive recoveryAddr : String}
    {timeoutTimestamp : Nat} {postSwapAction : Option Memo.PostAction} :
    Memo.routes ⟨if memoRoutes.length > 0 then some ⟨SWAP_VENUE_NAME, none, some ⟨memoRoutes⟩⟩
      else none, minimumReceive, timeoutTimestamp, postSwapAction, recoveryAddr⟩ = memoRoutes := by
  cases memoRoutes <;> rfl

theorem buildUniversalSwapMemo_ok_keeps {env : Environment} {timeout : Nat}
    {minimumReceive recoveryAddr : String} {routes : Option (List Route)} {post : Memo.PostAction}
    {memo : Memo}
    (h : buildUniversalSwapMemo env timeout minimumReceive recoveryAddr routes post = .ok memo) :
    KeepsRoutes (routes.getD []) post memo := by
  obtain ⟨memoRoutes, hroutes, hmemo⟩ := bind_eq_ok.mp h
  have hkept := convertRoutes_keep hroutes
  have hempty : memoRoutes.filterMap id = [] ↔ swapRoutes (routes.getD []) = [] := by
    rw [← List.length_eq_zero_iff, ← List.length_eq_zero_iff, hkept.length_eq]
  cases hmemo
  refine ⟨?_, ?_, ?_⟩
  · rw [userSwap_routes]
    exact hkept
  · rw [← hempty]
    cases memoRoutes.filterMap id <;> simp
  · by_cases hpost : post = ⟨none, none, none, none⟩ <;> simp [hpost]

theorem buildUniversalSwapMemo_keeps (env : Environment) (timeout : Nat)
    (minimumReceive recoveryAddr : String) (routes : Option (List Route)) (post : Memo.PostAction) :
    ((∃ e, buildUniversalSwapMemo env timeout minimumReceive recoveryAddr routes post = .error e) ↔
        ∃ route ∈ routes.getD [], Refused route) ∧
      ((∃ route ∈ routes.getD [], Refused route) ∨
        ∃ memo, buildUniversalSwapMemo env timeout minimumReceive recoveryAddr routes post =
          .ok memo ∧ KeepsRoutes (routes.getD []) post memo) := by
  have hok := buildUniversalSwapMemo_ok_iff env timeout minimumReceive recoveryAddr routes post
  by_cases hrefused : ∃ route ∈ routes.getD [], Refused route
  · refine ⟨iff_of_true (error_of_not_ok fun h => ?_) hrefused, .inl hrefused⟩
    obtain ⟨route, hroute, hrefuses⟩ := hrefused
    exact supports_iff.mp (hok.mp h route hroute) hrefuses
  · obtain ⟨memo, hmemo⟩ := hok.mpr fun route hroute =>
      supports_iff.mpr fun hrefuses => hrefused ⟨route, hroute, hrefuses⟩
    refine ⟨iff_of_false ?_ hrefused, .inr ⟨memo, hmemo, buildUniversalSwapMemo_ok_keeps hmemo⟩⟩
    rintro ⟨e, he⟩
    cases hmemo.symm.trans he

end OraidexSdk.UniversalSwap
