import OraidexSdk.Common.Address
import OraidexSdk.Loops.Outcome
import OraidexSdk.SmartRouter.Data

namespace OraidexSdk.UniversalSwap
open Js Outcome

def SWAP_VENUE_NAME : String := "oraidex"

namespace Memo

structure SwapOperation where
  poolId : String
  denomIn : String
  denomOut : String
deriving DecidableEq, Repr

structure Route where
  offerAmount : String
  operations : List SwapOperation
deriving DecidableEq, Repr

structure SwapExactAssetIn where
  operations : List SwapOperation
deriving DecidableEq, Repr

structure SmartSwapExactAssetIn where
  routes : List Route
deriving DecidableEq, Repr

structure UserSwap where
  swapVenueName : String
  swapExactAssetIn : Option SwapExactAssetIn
  smartSwapExactAssetIn : Option SmartSwapExactAssetIn
deriving DecidableEq, Repr

structure IbcTransfer where
  sourceChannel : String
  sourcePort : String
  receiver : String
  memo : String
  recoverAddress : String
deriving DecidableEq, Repr

structure IbcWasmTransfer where
  localChannelId : String
  remoteAddress : String
  remoteDenom : String
  timeout : Option Nat
  memo : Option String
deriving DecidableEq, Repr

structure ContractCall where
  contractAddress : String
  msg : String
deriving DecidableEq, Repr

structure Transfer where
  toAddress : String
deriving DecidableEq, Repr

structure PostAction where
  ibcTransferMsg : Option IbcTransfer
  ibcWasmTransferMsg : Option IbcWasmTransfer
  contractCall : Option ContractCall
  transferMsg : Option Transfer
deriving DecidableEq, Repr

end Memo

structure Memo where
  userSwap : Option Memo.UserSwap
  minimumReceive : String
  timeoutTimestamp : Nat
  postSwapAction : Option Memo.PostAction
  recoveryAddr : String
deriving DecidableEq, Repr

def memoOperations (denomIn : String) : List SwapInfo → List Memo.SwapOperation
  | [] => []
  | info :: rest => ⟨info.poolId, denomIn, info.tokenOut⟩ :: memoOperations info.tokenOut rest

def convertAction (action : Action) : Except JsError (List Memo.SwapOperation) :=
  if action.type ≠ .swap then .error (.error "Only support swap on Oraichain!")
  else match action.swapInfo with
    | none => .error (.error "No swap info with action type Swap")
    | some swapInfo => .ok (memoOperations action.tokenIn swapInfo)

def convertApiOpsToMemoRoute (route : Route) : Except JsError (Option Memo.Route) :=
  match route.paths with
  | [] => .ok none
  | [path] => do
    let returnOps ← path.actions.mapM convertAction
    return some ⟨route.swapAmount, returnOps.flatten⟩
  | _ => .error (.error "Only support swap on Oraichain!")

-- The message that Memo.encode is given. The timeout is the one of the package that
-- the handler imports it from, in seconds; a router that was not asked leaves no routes. The
-- nanoseconds are exact where the source has the double nearest to them, from 2 ^ 53 on.
def buildUniversalSwapMemo (env : Environment) (timeout : Nat) (minimumReceive recoveryAddr : String)
    (routes : Option (List Route)) (post : Memo.PostAction) : Except JsError Memo := do
  let routes ← (routes.getD []).mapM convertApiOpsToMemoRoute
  let routes := routes.filterMap id
  return {
    timeoutTimestamp := (env.dateNow + timeout * 1000) * 1000000
    recoveryAddr := recoveryAddr
    postSwapAction := if post = ⟨none, none, none, none⟩ then none else some post
    userSwap := if routes.length > 0 then some ⟨SWAP_VENUE_NAME, none, some ⟨routes⟩⟩ else none
    minimumReceive := minimumReceive }

def Memo.Supports (route : OraidexSdk.Route) : Prop :=
  route.paths.length ≤ 1 ∧
    ∀ path ∈ route.paths, ∀ action ∈ path.actions, action.type = .swap ∧ action.swapInfo.isSome

instance (route : OraidexSdk.Route) : Decidable (Memo.Supports route) :=
  inferInstanceAs (Decidable (_ ∧ _))

theorem convertAction_ok_iff {action : Action} :
    (∃ ops, convertAction action = .ok ops) ↔ action.type = .swap ∧ action.swapInfo.isSome := by
  unfold convertAction
  by_cases htype : action.type = .swap
  · cases hinfo : action.swapInfo with
    | none => simp [htype]
    | some swapInfo => simp [htype]
  · simp [htype]

theorem convertApiOpsToMemoRoute_ok_iff {route : Route} :
    (∃ memoRoute, convertApiOpsToMemoRoute route = .ok memoRoute) ↔ Memo.Supports route := by
  obtain ⟨swapAmount, returnAmount, paths⟩ := route
  unfold convertApiOpsToMemoRoute Memo.Supports
  match paths with
  | [] => simp
  | [path] =>
    have hactions : (∃ ops, path.actions.mapM convertAction = .ok ops) ↔
        ∀ action ∈ path.actions, action.type = .swap ∧ action.swapInfo.isSome := by
      rw [mapM_ok_iff]
      exact forall₂_congr fun action _ => convertAction_ok_iff
    simp only [List.length_singleton, le_refl, true_and, List.mem_singleton, forall_eq]
    rw [← hactions]
    constructor
    · rintro ⟨memoRoute, h⟩
      obtain ⟨ops, hops, -⟩ := bind_eq_ok.mp h
      exact ⟨ops, hops⟩
    · rintro ⟨ops, hops⟩
      exact ⟨_, bind_eq_ok.mpr ⟨ops, hops, rfl⟩⟩
  | _ :: _ :: _ => simp

theorem buildUniversalSwapMemo_ok_iff (env : Environment) (timeout : Nat)
    (minimumReceive recoveryAddr : String) (routes : Option (List Route)) (post : Memo.PostAction) :
    (∃ memo, buildUniversalSwapMemo env timeout minimumReceive recoveryAddr routes post = .ok memo) ↔
      ∀ route ∈ routes.getD [], Memo.Supports route := by
  have hroutes : (∃ memoRoutes, (routes.getD []).mapM convertApiOpsToMemoRoute = .ok memoRoutes) ↔
      ∀ route ∈ routes.getD [], Memo.Supports route := by
    rw [mapM_ok_iff]
    exact forall₂_congr fun route _ => convertApiOpsToMemoRoute_ok_iff
  rw [← hroutes]
  constructor
  · rintro ⟨memo, h⟩
    obtain ⟨memoRoutes, hmemo, -⟩ := bind_eq_ok.mp h
    exact ⟨memoRoutes, hmemo⟩
  · rintro ⟨memoRoutes, hmemo⟩
    exact ⟨_, bind_eq_ok.mpr ⟨memoRoutes, hmemo, rfl⟩⟩

theorem postSwapAction_eq {env : Environment} {timeout : Nat} {minimumReceive recoveryAddr : String}
    {routes : Option (List Route)} {post : Memo.PostAction} {memo : Memo}
    (h : buildUniversalSwapMemo env timeout minimumReceive recoveryAddr routes post = .ok memo)
    (hpost : post ≠ ⟨none, none, none, none⟩) : memo.postSwapAction = some post := by
  obtain ⟨memoRoutes, -, hmemo⟩ := bind_eq_ok.mp h
  cases hmemo
  exact if_neg hpost

end OraidexSdk.UniversalSwap
