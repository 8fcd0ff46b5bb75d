import OraidexSdk.Js.Rendering
import OraidexSdk.OraiswapV3.ZapIn
import OraidexSdk.SmartRouter.Completeness
import Mathlib.Data.List.Chain

namespace OraidexSdk.OraiswapV3
open Js Outcome SmartRouter

inductive AssetInfo where
  | token (contractAddr : String)
  | nativeToken (denom : String)
deriving DecidableEq, Repr

inductive SwapOperation (N : Type) where
  | swapV3 (poolKey : PoolKey String N) (xToY : Bool)
  | oraiSwap (offerAssetInfo askAssetInfo : Option AssetInfo)
deriving DecidableEq

structure ZapperRoute (N : Type) where
  offerAmount : String
  operations : List (SwapOperation N)
  tokenIn : String
  minimumReceive : String
deriving DecidableEq

structure SmartRouterMsg where
  swapAmount : Option String
  returnAmount : Option String
  swapOps : List (SwapOperation (Number ℚ))
deriving DecidableEq

def parseTokenInfo (tokenInfo : TokenItem) : AssetInfo :=
  match truthy tokenInfo.contractAddress with
  | none => .nativeToken tokenInfo.denom
  | some contractAddress => .token contractAddress

-- The four parts of a pool id, where none of them is missing or empty.
def poolIdKey (poolId : String) : Option (PoolKey String (Number ℚ)) := do
  let tokenX ← truthy (splitAt poolId '-' 0)
  let tokenY ← truthy (splitAt poolId '-' 1)
  let fee ← truthy (splitAt poolId '-' 2)
  let tickSpacing ← truthy (splitAt poolId '-' 3)
  return ⟨tokenX, tokenY, ⟨number fee.toList, number tickSpacing.toList⟩⟩

def swapOperation (currTokenIn tokenOut : Option AssetInfo) (swap : SwapInfo) :
    SwapOperation (Number ℚ) :=
  match poolIdKey swap.poolId with
  | some poolKey => .swapV3 poolKey (poolKey.tokenY = swap.tokenOut)
  | none => .oraiSwap currTokenIn tokenOut

-- Math.round((returnAmount * (100 - slippage)) / 100).toString()
def minimumReceive (returnAmount : Number ℚ) (slippage : ℚ) : String :=
  match returnAmount with
  | .nan => "NaN"
  | .infinity negative =>
    if slippage = 100 then "NaN"
    else if negative = decide (slippage < 100) then "-Infinity" else "Infinity"
  | .finite amount => String.ofList (DecimalNumber.text ⟨round (amount * (100 - slippage) / 100), 0⟩)

section Compilers

variable (toLowerCase : String → String) (cosmosTokens : List TokenItem)

def parseAssetInfoFromContractAddrOrDenom (addressOrDenomToken : String) : Option AssetInfo :=
  if addressOrDenomToken = "" then none
  else (cosmosTokens.find? fun cosmosToken =>
    toLowerCase (extractAddress cosmosToken) = toLowerCase addressOrDenomToken).map parseTokenInfo

-- The carried token and the operations so far, over the hops of one swapInfo.
def pushSwap (state : Option AssetInfo × List (SwapOperation (Number ℚ))) (swap : SwapInfo) :
    Option AssetInfo × List (SwapOperation (Number ℚ)) :=
  let tokenOut := parseAssetInfoFromContractAddrOrDenom toLowerCase cosmosTokens swap.tokenOut
  (tokenOut, state.2 ++ [swapOperation state.1 tokenOut swap])

def pushAction (operations : List (SwapOperation (Number ℚ))) (action : Action) :
    Except JsError (List (SwapOperation (Number ℚ))) :=
  match action.swapInfo with
  | none => .error .typeError
  | some swapInfo =>
    let currTokenIn := parseAssetInfoFromContractAddrOrDenom toLowerCase cosmosTokens action.tokenIn
    .ok (swapInfo.foldl (pushSwap toLowerCase cosmosTokens) (currTokenIn, operations)).2

def pushPath (operations : List (SwapOperation (Number ℚ))) (path : Path) :
    Except JsError (List (SwapOperation (Number ℚ))) :=
  path.actions.foldlM (pushAction toLowerCase cosmosTokens) operations

def zapperRoute (slippage : ℚ) (route : Route) :
    Except JsError (ZapperRoute (Number ℚ)) := do
  let operations ← route.paths.foldlM (pushPath toLowerCase cosmosTokens) []
  match route.paths with
  | [] => .error .typeError
  | path :: _ =>
    return ⟨route.swapAmount, operations, path.tokenIn,
      minimumReceive (number route.returnAmount.toList) slippage⟩

def generateMessageSwapOperation (responses : List SmartRouteResponse) (slippage : ℚ) :
    Except JsError (List (ZapperRoute (Number ℚ))) :=
  (responses.flatMap (·.routes)).mapM (zapperRoute toLowerCase cosmosTokens slippage)

def smartRouterMsg (offerInfo : Option AssetInfo) (route : Entry) :
    Except JsError SmartRouterMsg :=
  match route.swapInfo with
  | none => .error .typeError
  | some swapInfo =>
    .ok ⟨route.tokenInAmount, route.tokenOutAmount,
      (swapInfo.foldl (pushSwap toLowerCase cosmosTokens) (offerInfo, [])).2⟩

def generateMsgsSmartRouterV2withV3 (routes : List Entry) (offerInfo : Option AssetInfo) :
    Except JsError (List SmartRouterMsg) :=
  routes.mapM (smartRouterMsg toLowerCase cosmosTokens offerInfo)

end Compilers

def LinkedActions : List Action → Prop :=
  List.IsChain fun previous next => ∃ swapInfo last, previous.swapInfo = some swapInfo ∧
    swapInfo.getLast? = some last ∧ next.tokenIn = last.tokenOut

section Agreement

variable {toLowerCase : String → String} {cosmosTokens : List TokenItem}

theorem pushSwap_token (swapInfo : List SwapInfo) :
    ∀ state, (swapInfo.foldl (pushSwap toLowerCase cosmosTokens) state).1 =
      (swapInfo.getLast?.map fun swap =>
        parseAssetInfoFromContractAddrOrDenom toLowerCase cosmosTokens swap.tokenOut).getD
          state.1 := by
  induction swapInfo with
  | nil => exact fun state => rfl
  | cons swap rest ih =>
    intro state
    rw [List.foldl_cons, ih]
    cases rest with
    | nil => rfl
    | cons next rest =>
      rw [List.getLast?_cons_cons, List.getLast?_cons]
      rfl

def hopOperations (toLowerCase : String → String) (cosmosTokens : List TokenItem)
    (tokenIn : Option AssetInfo) (swapInfo : List SwapInfo) : List (SwapOperation (Number ℚ)) :=
  let tokenOf (swap : SwapInfo) :=
    parseAssetInfoFromContractAddrOrDenom toLowerCase cosmosTokens swap.tokenOut
  List.zipWith (fun tokenIn swap => swapOperation tokenIn (tokenOf swap) swap)
    (tokenIn :: swapInfo.map tokenOf) swapInfo

theorem length_hopOperations (tokenIn : Option AssetInfo) (swapInfo : List SwapInfo) :
    (hopOperations toLowerCase cosmosTokens tokenIn swapInfo).length = swapInfo.length := by
  simp [hopOperations]

theorem pushSwap_operations (swapInfo : List SwapInfo) :
    ∀ state, (swapInfo.foldl (pushSwap toLowerCase cosmosTokens) state).2 =
      state.2 ++ hopOperations toLowerCase cosmosTokens state.1 swapInfo := by
  induction swapInfo with
  | nil => exact fun state => (List.append_nil _).symm
  | cons swap rest ih =>
    intro state
    rw [List.foldl_cons, ih, pushSwap, List.append_assoc]
    rfl

theorem pushActions_carry {actions : List Action} (hlinked : LinkedActions actions)
    (hgiven : ∀ action ∈ actions, action.swapInfo.isSome = true) :
    ∀ state : Option AssetInfo × List (SwapOperation (Number ℚ)),
      (∀ first ∈ actions.head?,
        parseAssetInfoFromContractAddrOrDenom toLowerCase cosmosTokens first.tokenIn = state.1) →
      actions.foldlM (pushAction toLowerCase cosmosTokens) state.2 =
        .ok ((actions.flatMap (·.swapInfo.getD [])).foldl
          (pushSwap toLowerCase cosmosTokens) state).2 := by
  induction actions with
  | nil => exact fun state _ => rfl
  | cons action rest ih =>
    intro state hstate
    obtain ⟨haction, hrest⟩ := List.forall_mem_cons.mp hgiven
    obtain ⟨swapInfo, hinfo⟩ := Option.isSome_iff_exists.mp haction
    have htoken : (parseAssetInfoFromContractAddrOrDenom toLowerCase cosmosTokens action.tokenIn,
        state.2) = state := Prod.ext (hstate action rfl) rfl
    have hpush : pushAction toLowerCase cosmosTokens state.2 action =
        .ok (swapInfo.foldl (pushSwap toLowerCase cosmosTokens) state).2 := by
      simp only [pushAction, hinfo, htoken]
    have hnext : ∀ next ∈ rest.head?,
        parseAssetInfoFromContractAddrOrDenom toLowerCase cosmosTokens next.tokenIn =
          (swapInfo.foldl (pushSwap toLowerCase cosmosTokens) state).1 := by
      intro next hmem
      obtain ⟨info, last, hsome, hlast, heq⟩ := hlinked.rel_head? hmem
      rw [hinfo, Option.some.injEq] at hsome
      subst hsome
      rw [pushSwap_token, hlast, heq]
      rfl
    rw [List.foldlM_cons, hpush, ok_bind, ih hlinked.tail hrest _ hnext, List.flatMap_cons,
      List.foldl_append, hinfo]
    rfl

theorem pushActions_typeError (actions : List Action) (operations : List (SwapOperation (Number ℚ))) :
    FailsWith (· = .typeError) (actions.foldlM (pushAction toLowerCase cosmosTokens) operations) := by
  refine FailsWith.foldlM (fun operations action => ?_) actions operations
  unfold pushAction
  split
  · exact FailsWith.error rfl
  · exact FailsWith.ok _

theorem pushActions_ok_iff (actions : List Action) (operations : List (SwapOperation (Number ℚ))) :
    (∃ result, actions.foldlM (pushAction toLowerCase cosmosTokens) operations = .ok result) ↔
      ∀ action ∈ actions, action.swapInfo.isSome = true := by
  refine foldlM_ok_iff (fun operations action => ?_)
  unfold pushAction
  split
  · rename_i h
    rw [h]
    exact error_iff_false _
  · rename_i h
    rw [h]
    exact ok_iff_true _

end Agreement

section SwapPath

variable {i : Nat} {isLastPath : Bool} {path : Path}

theorem pathsSwapInOraichain_all (hchain : path.chainId = "Oraichain")
    (hswap : ∀ action ∈ path.actions, action.type = .swap) :
    pathsSwapInOraichain path = path.actions :=
  List.filter_eq_self.mpr fun action h => isSwapInOraichain_iff.mpr ⟨hswap action h, hchain⟩

theorem pushes_iff (hall : pathsSwapInOraichain path = path.actions) {k : Nat}
    (hk : k < path.actions.length) : pushes path k = true ↔ k + 1 = path.actions.length := by
  simp only [pushes, hall, Bool.or_eq_true, Bool.and_eq_true, decide_eq_true_eq]
  omega

-- One entry, pushed by the last action, with the hops of every action.
theorem visitSwaps (hchain : path.chainId = "Oraichain")
    (hswap : ∀ action ∈ path.actions, action.type = .swap) {tail : List Action} :
    ∀ {pre : List Action} {obj : Entry}, pre ++ tail = path.actions → tail ≠ [] →
      Collecting i path pre obj → (∀ action ∈ tail, action.swapInfo.isSome = true) →
      ∃ entry, entry.swapInfo = some (collected path path.actions) ∧
        Prod.snd <$> (tail.zipIdx pre.length).foldlM (visitAction i isLastPath path) (obj, []) =
          .ok [entry] := by
  have hall := pathsSwapInOraichain_all hchain hswap
  induction tail with
  | nil => exact fun _ hne => absurd rfl hne
  | cons action tail ih =>
    intro pre obj hpath _ hobj hgiven
    obtain ⟨haction, htail⟩ := List.forall_mem_cons.mp hgiven
    obtain ⟨swapInfo, hinfo⟩ := Option.isSome_iff_exists.mp haction
    have hmem : action ∈ path.actions := by
      rw [← hpath]
      exact List.mem_append_right pre List.mem_cons_self
    have hlength : pre.length + 1 + tail.length = path.actions.length := by
      rw [← hpath, List.length_append, List.length_cons]
      omega
    have hpush := pushes_iff hall (k := pre.length) (by omega)
    have hs : isSwapInOraichain path action = true :=
      isSwapInOraichain_iff.mpr ⟨hswap action hmem, hchain⟩
    have hnext := @Collecting.swap i isLastPath path pre obj action swapInfo hobj hs hinfo pre.length
    have hpath' : (pre ++ [action]) ++ tail = path.actions := by
      rw [List.append_assoc]
      exact hpath
    rw [List.zipIdx_cons, List.foldlM_cons, visit_swap hs hinfo hobj, ok_bind]
    generalize aggregated _ obj action _ = next at hnext ⊢
    cases tail with
    | nil =>
      refine ⟨next, ?_, ?_⟩
      · rw [hnext.swapInfo, ← hpath', List.append_nil]
      · rw [if_pos (hpush.mpr hlength)]
        rfl
    | cons second tail =>
      have hmore : ¬ pushes path pre.length = true := by
        rw [hpush]
        simp only [List.length_cons] at hlength
        omega
      have hrest := ih hpath' (List.cons_ne_nil _ _) hnext htail
      rw [List.length_append, List.length_singleton] at hrest
      rw [if_neg hmore]
      exact hrest

theorem flatten_swaps {route : Route} (hpaths : route.paths = [path])
    (hchain : path.chainId = "Oraichain") (hne : path.actions ≠ [])
    (hswap : ∀ action ∈ path.actions, action.type = .swap)
    (hgiven : ∀ action ∈ path.actions, action.swapInfo.isSome = true) :
    ∃ entry, entry.swapInfo = some (path.actions.flatMap (·.swapInfo.getD [])) ∧
      flattenSmartRouters [route] = .ok [entry] := by
  obtain ⟨entry, hinfo, hrun⟩ := @visitSwaps 0 true path hchain hswap path.actions [] _
    (List.nil_append _) hne collecting_nil hgiven
  have hall := pathsSwapInOraichain_all hchain hswap
  rw [collected, ← pathsSwapInOraichain, hall] at hinfo
  refine ⟨entry, hinfo, ?_⟩
  have hpath : visitPath 0 1 [] (path, 0) = .ok [entry] := hrun
  have hroute : visitRoute [] (route, 0) = .ok [entry] := by
    rw [visitRoute, hpaths]
    change visitPath 0 1 [] (path, 0) >>= pure = .ok [entry]
    rw [hpath]
    rfl
  change visitRoute [] (route, 0) >>= pure = .ok [entry]
  rw [hroute]
  rfl

theorem flatten_swaps_typeError (routers : List Route) :
    FailsWith (· = .typeError) (flattenSmartRouters routers) := by
  have hspread (obj : Entry) (action : Action) :
      FailsWith (· = .typeError) (spreadSwapInfo obj action) := by
    unfold spreadSwapInfo
    split
    · exact FailsWith.ok _
    · exact FailsWith.error rfl
  refine FailsWith.foldlM (fun acc route => FailsWith.foldlM (fun acc path => ?_) _ _) _ _
  refine FailsWith.map _ (FailsWith.foldlM (fun state action => ?_) _ _)
  unfold visitAction
  exact FailsWith.ite (fun _ => (hspread _ _).bind fun swapInfo _ => FailsWith.ok _)
    fun _ => FailsWith.ok _

theorem flatten_missing_swapInfo {route : Route} (hpaths : route.paths = [path])
    (hchain : path.chainId = "Oraichain") (hswap : ∀ action ∈ path.actions, action.type = .swap)
    (hnot : ¬ ∀ action ∈ path.actions, action.swapInfo.isSome = true) :
    flattenSmartRouters [route] = .error .typeError := by
  rcases flattenSmartRouters_emits visitPath_emits [route] with ⟨hgiven, -⟩ | ⟨-, e, he⟩
  · refine absurd (fun action haction => ?_) hnot
    have hmem : path ∈ route.paths := by
      rw [hpaths]
      exact List.mem_singleton_self path
    exact hgiven route (List.mem_singleton_self route) path hmem action haction
      (isSwapInOraichain_iff.mpr ⟨hswap action haction, hchain⟩)
  · rw [he, flatten_swaps_typeError [route] e he]

end SwapPath

theorem message_operations_single (toLowerCase : String → String) (cosmosTokens : List TokenItem)
    (slippage : ℚ) (swapAmount : String) (returnAmount : Int) {route : Route} {path : Path}
    (hpaths : route.paths = [path]) :
    (List.map (·.operations) <$> generateMessageSwapOperation toLowerCase cosmosTokens
        [⟨swapAmount, returnAmount, [route]⟩] slippage) =
      (List.singleton <$> path.actions.foldlM (pushAction toLowerCase cosmosTokens) []) := by
  have hroute : (ZapperRoute.operations <$> zapperRoute toLowerCase cosmosTokens slippage route) =
      path.actions.foldlM (pushAction toLowerCase cosmosTokens) [] := by
    rw [zapperRoute, hpaths]
    change (_ <$> ((pushPath toLowerCase cosmosTokens [] path >>= pure) >>= _)) = _
    rw [pushPath]
    cases path.actions.foldlM (pushAction toLowerCase cosmosTokens) [] <;> rfl
  rw [← hroute, generateMessageSwapOperation]
  change (_ <$> [route].mapM _) = _
  rw [List.mapM_cons]
  cases zapperRoute toLowerCase cosmosTokens slippage route <;> rfl

theorem smartRouterMsg_operations {toLowerCase : String → String} {cosmosTokens : List TokenItem}
    {offerInfo : Option AssetInfo} {route : Entry} {msg : SmartRouterMsg}
    (h : smartRouterMsg toLowerCase cosmosTokens offerInfo route = .ok msg) :
    ∃ swapInfo, route.swapInfo = some swapInfo ∧
      msg.swapOps = hopOperations toLowerCase cosmosTokens offerInfo swapInfo := by
  unfold smartRouterMsg at h
  split at h
  · cases h
  · rename_i swapInfo hinfo
    cases h
    exact ⟨swapInfo, hinfo, pushSwap_operations swapInfo _⟩

theorem message_operations_hops (toLowerCase : String → String) (cosmosTokens : List TokenItem)
    (slippage : ℚ) (swapAmount : String) (returnAmount : Int) {route : Route} {path : Path}
    {first : Action} {rest : List Action} (hpaths : route.paths = [path])
    (hactions : path.actions = first :: rest) (hlinked : LinkedActions path.actions)
    (hgiven : ∀ action ∈ path.actions, action.swapInfo.isSome = true) :
    (List.map (·.operations) <$> generateMessageSwapOperation toLowerCase cosmosTokens
        [⟨swapAmount, returnAmount, [route]⟩] slippage) =
      .ok [hopOperations toLowerCase cosmosTokens
        (parseAssetInfoFromContractAddrOrDenom toLowerCase cosmosTokens first.tokenIn)
        (path.actions.flatMap (·.swapInfo.getD []))] := by
  have hfirst : ∀ action ∈ path.actions.head?,
      parseAssetInfoFromContractAddrOrDenom toLowerCase cosmosTokens action.tokenIn =
        parseAssetInfoFromContractAddrOrDenom toLowerCase cosmosTokens first.tokenIn := by
    intro action haction
    rw [hactions, List.head?_cons, Option.mem_some_iff] at haction
    rw [haction]
  rw [message_operations_single toLowerCase cosmosTokens slippage swapAmount returnAmount hpaths,
    pushActions_carry hlinked hgiven (_, []) hfirst, pushSwap_operations]
  rfl

theorem swap_compilers_agree (toLowerCase : String → String) (cosmosTokens : List TokenItem)
    (slippage : ℚ) (swapAmount : String) (returnAmount : Int) {route : Route} {path : Path}
    {first : Action} {rest : List Action} (hpaths : route.paths = [path])
    (hchain : path.chainId = "Oraichain") (hactions : path.actions = first :: rest)
    (hswap : ∀ action ∈ path.actions, action.type = .swap) (hlinked : LinkedActions path.actions) :
    (List.map (·.operations) <$> generateMessageSwapOperation toLowerCase cosmosTokens
        [⟨swapAmount, returnAmount, [route]⟩] slippage) =
      (List.map (·.swapOps) <$> do
        let routes ← flattenSmartRouters [route]
        generateMsgsSmartRouterV2withV3 toLowerCase cosmosTokens routes
          (parseAssetInfoFromContractAddrOrDenom toLowerCase cosmosTokens first.tokenIn)) := by
  rw [message_operations_single toLowerCase cosmosTokens slippage swapAmount returnAmount hpaths]
  by_cases hgiven : ∀ action ∈ path.actions, action.swapInfo.isSome = true
  · have hne : path.actions ≠ [] := by
      rw [hactions]
      exact List.cons_ne_nil first rest
    obtain ⟨entry, hinfo, hflatten⟩ := flatten_swaps hpaths hchain hne hswap hgiven
    have hfirst : ∀ action ∈ path.actions.head?,
        parseAssetInfoFromContractAddrOrDenom toLowerCase cosmosTokens action.tokenIn =
          parseAssetInfoFromContractAddrOrDenom toLowerCase cosmosTokens first.tokenIn := by
      intro action haction
      rw [hactions, List.head?_cons, Option.mem_some_iff] at haction
      rw [haction]
    have hcarry := pushActions_carry hlinked hgiven
      (parseAssetInfoFromContractAddrOrDenom toLowerCase cosmosTokens first.tokenIn, []) hfirst
    rw [hcarry, hflatten, ok_bind, generateMsgsSmartRouterV2withV3, List.mapM_cons,
      smartRouterMsg, hinfo]
    rfl
  · have hfails : ¬ ∃ result,
        path.actions.foldlM (pushAction toLowerCase cosmosTokens) [] = .ok result :=
      fun h => hgiven ((pushActions_ok_iff path.actions []).mp h)
    obtain ⟨e, he⟩ := error_of_not_ok hfails
    rw [flatten_missing_swapInfo hpaths hchain hswap hgiven, he,
      pushActions_typeError path.actions [] e he]
    rfl

def airiToUsdt : Action :=
  ⟨.swap, "airi", "10", "usdt", "2", none,
    some [⟨"pair1", "orai"⟩, ⟨"orai-usdt-3000000000-100", "usdt"⟩], none⟩

def usdtToInj : Action :=
  ⟨.swap, "usdt", "2", "inj", "1", none, some [⟨"inj-usdt-500000000-10", "inj"⟩], none⟩

def airiToInj : Path :=
  ⟨"Oraichain", "airi", "10", "inj", "1", "Oraichain", [airiToUsdt, usdtToInj]⟩

def zapTokens : List TokenItem := [token "airi", token "orai", token "usdt"]

theorem airi_compilers_agree :
    (List.map (·.operations) <$> generateMessageSwapOperation id zapTokens
        [⟨"10", 1, [⟨"10", "1", [airiToInj]⟩]⟩] 1) =
      (List.map (·.swapOps) <$> do
        let routes ← flattenSmartRouters [⟨"10", "1", [airiToInj]⟩]
        generateMsgsSmartRouterV2withV3 id zapTokens routes
          (parseAssetInfoFromContractAddrOrDenom id zapTokens airiToUsdt.tokenIn)) :=
  @swap_compilers_agree id zapTokens 1 "10" 1 ⟨"10", "1", [airiToInj]⟩ airiToInj airiToUsdt
    [usdtToInj] rfl rfl rfl (by decide) (List.isChain_pair.mpr ⟨_, _, rfl, rfl, rfl⟩)

end OraidexSdk.OraiswapV3
