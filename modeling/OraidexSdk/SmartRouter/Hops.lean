import OraidexSdk.SmartRouter.Flatten
import OraidexSdk.Loops.Emitting

namespace OraidexSdk.SmartRouter
open Js EmittingLoop

inductive Hop where
  | swap (path : Nat) (chainId : String) (swapInfo : List SwapInfo)
  | action (entry : Entry)
deriving DecidableEq

def Entry.hop (e : Entry) : Hop :=
  if e.type = some .swap ∧ e.chainId = some "Oraichain" then
    .swap (e.path.getD 0) (e.chainId.getD "") (e.swapInfo.getD [])
  else .action e

def collected (path : Path) (actions : List Action) : List SwapInfo :=
  (actions.filter (isSwapInOraichain path)).flatMap (·.swapInfo.getD [])

-- One aggregated Swap entry where the path swaps on Oraichain, one entry for
-- every other action.
def expectedHops (i : Nat) (isLastPath : Bool) (path : Path) : List Hop :=
  (if pathsSwapInOraichain path = [] then [] else
    [.swap i path.chainId (collected path path.actions)]) ++
  (path.actions.zipIdx.filter (! isSwapInOraichain path ·.1)).map
    fun x => .action (actionsPath i isLastPath path x.1 x.2)

def visits (routers : List Route) : List (Nat × Bool × Path) :=
  routers.zipIdx.flatMap fun r => r.1.paths.zipIdx.map fun p =>
    (r.2, decide (r.1.paths.length = p.2 + 1), p.1)

def Complete (routers : List Route) : Prop :=
  ∃ out, flattenSmartRouters routers = .ok out ∧
    (out.map Entry.hop).Perm ((visits routers).flatMap fun v => expectedHops v.1 v.2.1 v.2.2)

def Given (path : Path) (action : Action) : Prop :=
  isSwapInOraichain path action = true → action.swapInfo.isSome = true

-- With two or more Swap actions on Oraichain, the action whose index is one less
-- than their number is a Swap, and the actions after it add no hop.
def Pushed (path : Path) : Prop :=
  1 < (pathsSwapInOraichain path).length →
    path.actions[(pathsSwapInOraichain path).length - 1]?.any (isSwapInOraichain path) = true ∧
      collected path (path.actions.drop (pathsSwapInOraichain path).length) = []

structure Kept (path : Path) : Prop where
  given : ∀ action ∈ path.actions, Given path action
  pushed : Pushed path

section Path

variable {i : Nat} {isLastPath : Bool} {path : Path}

theorem collected_append (a b : List Action) :
    collected path (a ++ b) = collected path a ++ collected path b := by
  simp [collected]

theorem isSwapInOraichain_iff {action : Action} :
    isSwapInOraichain path action = true ↔ action.type = .swap ∧ path.chainId = "Oraichain" := by
  simp [isSwapInOraichain, isInOraichain]

theorem hop_actionsPath {action : Action} (h : isSwapInOraichain path action = false) (k : Nat) :
    (actionsPath i isLastPath path action k).hop =
      .action (actionsPath i isLastPath path action k) := by
  have hn : ¬ (action.type = .swap ∧ path.chainId = "Oraichain") := by
    rw [← isSwapInOraichain_iff, h]
    exact Bool.false_ne_true
  exact if_neg (by simpa [actionsPath, Entry.ofAction] using hn)

structure Collecting (i : Nat) (path : Path) (pre : List Action) (obj : Entry) : Prop where
  type : obj.type = some .swap
  swapInfo : obj.swapInfo = some (collected path pre)
  index : obj.path.getD i = i
  chain : obj.chainId.getD path.chainId = path.chainId

theorem collecting_nil : Collecting i path [] (.objActionSwap path) := ⟨rfl, rfl, rfl, rfl⟩

theorem orElse_some {α : Type} {o : Option α} {a : α} (h : o.getD a = a) :
    (o <|> some a) = some a := by
  cases o with
  | none => rfl
  | some b => exact congrArg some h

def segment (i : Nat) (isLastPath : Bool) (path : Path) (x : Action × Nat) : List Hop :=
  if isSwapInOraichain path x.1 then
    if pushes path x.2 then
      [.swap i path.chainId (collected path (path.actions.take (x.2 + 1)))] else []
  else [.action (actionsPath i isLastPath path x.1 x.2)]

def aggregated (entry obj : Entry) (action : Action) (swapInfo : List SwapInfo) : Entry :=
  { entry.spread obj with tokenOutAmount := some action.tokenOutAmount, swapInfo := some swapInfo }

theorem visit_swap {pre : List Action} {obj : Entry} {action : Action} {info : List SwapInfo}
    (hs : isSwapInOraichain path action = true) (hinfo : action.swapInfo = some info)
    (hobj : Collecting i path pre obj) (acc : List Entry) (k : Nat) :
    let obj' := aggregated (actionsPath i isLastPath path action k) obj action
      (collected path pre ++ info)
    visitAction i isLastPath path (obj, acc) (action, k) =
      .ok (obj', if pushes path k then acc ++ [obj'] else acc) := by
  have hspread : spreadSwapInfo obj action = .ok (collected path pre ++ info) := by
    rw [spreadSwapInfo, hobj.swapInfo, hinfo]
  simp only [visitAction, hs, hspread]
  rfl

theorem visit_other {obj : Entry} {action : Action} (hs : isSwapInOraichain path action = false)
    (acc : List Entry) (k : Nat) :
    visitAction i isLastPath path (obj, acc) (action, k) =
      .ok (obj, acc ++ [actionsPath i isLastPath path action k]) := by
  simp only [visitAction, hs]
  rfl

theorem collected_swap {pre : List Action} {action : Action} {info : List SwapInfo}
    (hs : isSwapInOraichain path action = true) (hinfo : action.swapInfo = some info) :
    collected path (pre ++ [action]) = collected path pre ++ info := by
  rw [collected_append]
  simp [collected, hs, hinfo]

theorem aggregated_path {pre : List Action} {obj : Entry} (hobj : Collecting i path pre obj)
    (action : Action) (k : Nat) (info : List SwapInfo) :
    (aggregated (actionsPath i isLastPath path action k) obj action info).path = some i :=
  orElse_some hobj.index

theorem aggregated_chainId {pre : List Action} {obj : Entry} (hobj : Collecting i path pre obj)
    (action : Action) (k : Nat) (info : List SwapInfo) :
    (aggregated (actionsPath i isLastPath path action k) obj action info).chainId =
      some path.chainId :=
  orElse_some hobj.chain

theorem aggregated_type {pre : List Action} {obj : Entry} (hobj : Collecting i path pre obj)
    (action : Action) (k : Nat) (info : List SwapInfo) :
    (aggregated (actionsPath i isLastPath path action k) obj action info).type = some .swap := by
  change (obj.type <|> some action.type) = some .swap
  rw [hobj.type]
  rfl

theorem Collecting.swap {pre : List Action} {obj : Entry} {action : Action}
    {info : List SwapInfo} (hobj : Collecting i path pre obj)
    (hs : isSwapInOraichain path action = true) (hinfo : action.swapInfo = some info) (k : Nat) :
    Collecting i path (pre ++ [action])
      (aggregated (actionsPath i isLastPath path action k) obj action
        (collected path pre ++ info)) where
  type := aggregated_type hobj action k _
  swapInfo := congrArg some (collected_swap hs hinfo).symm
  index := by rw [aggregated_path hobj]; rfl
  chain := by rw [aggregated_chainId hobj]; rfl

theorem Collecting.other {pre : List Action} {obj : Entry} {action : Action}
    (hobj : Collecting i path pre obj) (hs : isSwapInOraichain path action = false) :
    Collecting i path (pre ++ [action]) obj := by
  refine ⟨hobj.type, ?_, hobj.index, hobj.chain⟩
  rw [hobj.swapInfo, collected_append]
  simp [collected, hs]

theorem hop_aggregated {pre : List Action} {obj : Entry} {action : Action}
    {info : List SwapInfo} (hobj : Collecting i path pre obj)
    (hs : isSwapInOraichain path action = true) (k : Nat) :
    (aggregated (actionsPath i isLastPath path action k) obj action info).hop =
      .swap i path.chainId info := by
  have horaichain := @aggregated_chainId i isLastPath path pre obj hobj action k info
  rw [(isSwapInOraichain_iff.mp hs).2] at horaichain
  rw [Entry.hop, if_pos ⟨aggregated_type hobj action k info, horaichain⟩,
    aggregated_path hobj, aggregated_chainId hobj]
  rfl

-- An invariant of the aggregated entry, by the actions behind it, and what each action then
-- shows through key.
structure Tracks {γ : Type} (i : Nat) (isLastPath : Bool) (path : Path) (key : Entry → γ)
    (Inv : List Action → Entry → Prop) (shown : Action × Nat → List γ) : Prop where
  collecting : ∀ {pre obj}, Inv pre obj → Collecting i path pre obj
  swap : ∀ {pre tail obj action info}, pre ++ action :: tail = path.actions → Inv pre obj →
    isSwapInOraichain path action = true → action.swapInfo = some info →
      let obj' := aggregated (actionsPath i isLastPath path action pre.length) obj action
        (collected path pre ++ info)
      Inv (pre ++ [action]) obj' ∧
        shown (action, pre.length) = if pushes path pre.length then [key obj'] else []
  other : ∀ {pre tail obj action}, pre ++ action :: tail = path.actions → Inv pre obj →
    isSwapInOraichain path action = false →
      Inv (pre ++ [action]) obj ∧
        shown (action, pre.length) = [key (actionsPath i isLastPath path action pre.length)]

theorem visitAction_step {γ : Type} {key : Entry → γ} {Inv : List Action → Entry → Prop}
    {shown : Action × Nat → List γ} (htracks : Tracks i isLastPath path key Inv shown)
    {pre tail : List Action} {obj : Entry} {action : Action}
    (hpath : pre ++ action :: tail = path.actions) (hobj : Inv pre obj)
    (haction : Given path action) (acc : List Entry) :
    ∃ obj' pushed, visitAction i isLastPath path (obj, acc) (action, pre.length) =
        .ok (obj', acc ++ pushed) ∧
      Inv (pre ++ [action]) obj' ∧ pushed.map key = shown (action, pre.length) := by
  cases hs : isSwapInOraichain path action with
  | false =>
    obtain ⟨hsame, hshown⟩ := htracks.other hpath hobj hs
    exact ⟨obj, [actionsPath i isLastPath path action pre.length], visit_other hs acc _, hsame,
      hshown.symm⟩
  | true =>
    obtain ⟨info, hinfo⟩ := Option.isSome_iff_exists.mp (haction hs)
    obtain ⟨hnew, hshown⟩ := htracks.swap hpath hobj hs hinfo
    rw [visit_swap hs hinfo (htracks.collecting hobj), hshown]
    generalize aggregated _ obj action _ = new at hnew ⊢
    by_cases hp : pushes path pre.length = true
    · rw [if_pos hp, if_pos hp]
      exact ⟨new, [new], rfl, hnew, rfl⟩
    · rw [if_neg hp, if_neg hp]
      exact ⟨new, [], by rw [List.append_nil], hnew, rfl⟩

theorem visitActions_ok {γ : Type} {key : Entry → γ} {Inv : List Action → Entry → Prop}
    {shown : Action × Nat → List γ} (htracks : Tracks i isLastPath path key Inv shown)
    {tail : List Action} : ∀ {pre : List Action} {obj : Entry}
    (acc : List Entry), pre ++ tail = path.actions → Inv pre obj →
    (∀ action ∈ tail, Given path action) →
    ∃ obj' es, (tail.zipIdx pre.length).foldlM (visitAction i isLastPath path) (obj, acc) =
        .ok (obj', acc ++ es) ∧
      es.map key = (tail.zipIdx pre.length).flatMap shown := by
  induction tail with
  | nil => exact fun {pre obj} acc _ _ _ => ⟨obj, [], by simp [pure, Except.pure], rfl⟩
  | cons action tail ih =>
    intro pre obj acc hpath hobj hgiven
    obtain ⟨haction, htail⟩ := List.forall_mem_cons.mp hgiven
    obtain ⟨obj', pushed, hstep, hinv, hshown⟩ := visitAction_step htracks hpath hobj haction acc
    have hpath' : (pre ++ [action]) ++ tail = path.actions := by
      rw [List.append_assoc]
      exact hpath
    have hlength : (pre ++ [action]).length = pre.length + 1 := by simp
    obtain ⟨obj'', es, hrun, hkeys⟩ := ih (acc ++ pushed) hpath' hinv htail
    rw [hlength, List.append_assoc] at hrun
    rw [hlength] at hkeys
    rw [List.zipIdx_cons, List.foldlM_cons, List.flatMap_cons, hstep]
    refine ⟨obj'', pushed ++ es, hrun, ?_⟩
    rw [List.map_append, hshown, hkeys]

theorem take_of_split {pre tail : List Action} {action : Action}
    (hpath : pre ++ action :: tail = path.actions) :
    path.actions.take (pre.length + 1) = pre ++ [action] := by
  rw [← hpath, List.append_cons, List.take_left' (by simp)]

theorem segment_tracks :
    Tracks i isLastPath path Entry.hop (Collecting i path) (segment i isLastPath path) where
  collecting := id
  swap := by
    intro pre tail obj action info hpath hobj hs hinfo
    refine ⟨hobj.swap hs hinfo _, ?_⟩
    rw [hop_aggregated hobj hs, segment, if_pos hs, take_of_split hpath, collected_swap hs hinfo]
  other := by
    intro pre tail obj action hpath hobj hs
    refine ⟨hobj.other hs, ?_⟩
    rw [segment, if_neg (by simp [hs]), hop_actionsPath hs]

theorem visitActions_error {tail : List Action} (hnot : ¬ ∀ action ∈ tail, Given path action) :
    ∀ (k : Nat) (state : Entry × List Entry),
      ∃ e, (tail.zipIdx k).foldlM (visitAction i isLastPath path) state = .error e := by
  induction tail with
  | nil => exact absurd (List.forall_mem_nil _) hnot
  | cons action tail ih =>
    intro k state
    rw [List.zipIdx_cons, List.foldlM_cons]
    by_cases haction : Given path action
    · have htail := ih fun hall => hnot (List.forall_mem_cons.mpr ⟨haction, hall⟩)
      cases visitAction i isLastPath path state (action, k) with
      | error e => exact ⟨e, rfl⟩
      | ok state' => exact htail (k + 1) state'
    · simp only [Given, Classical.not_imp, Option.not_isSome_iff_eq_none] at haction
      have hspread : spreadSwapInfo state.1 action = .error .typeError := by
        rw [spreadSwapInfo, haction.2]
        cases state.1.swapInfo <;> rfl
      refine ⟨.typeError, ?_⟩
      simp only [visitAction, haction.1, hspread]
      rfl

end Path

theorem visitPath_tracks {γ : Type} {key : Entry → γ}
    {Inv : Bool → Path → List Action → Entry → Prop} {shown : Bool → Path → Action × Nat → List γ}
    (i pathCount : Nat) (hstart : ∀ isLastPath path, Inv isLastPath path [] (.objActionSwap path))
    (htracks : ∀ isLastPath path,
      Tracks i isLastPath path key (Inv isLastPath path) (shown isLastPath path)) :
    Emits (visitPath i pathCount) key (fun x => ∀ action ∈ x.1.actions, Given x.1 action)
      (fun x => x.1.actions.zipIdx.flatMap (shown (decide (pathCount = x.2 + 1)) x.1)) := by
  constructor
  · intro acc x hgiven
    obtain ⟨obj, es, hrun, hkeys⟩ := visitActions_ok
      (htracks (decide (pathCount = x.2 + 1)) x.1) acc (List.nil_append _) (hstart _ x.1) hgiven
    refine ⟨es, ?_, hkeys⟩
    rw [List.length_nil] at hrun
    simp only [visitPath, hrun]
    rfl
  · intro acc x hnot
    obtain ⟨e, he⟩ := @visitActions_error i (decide (pathCount = x.2 + 1)) x.1 _ hnot 0
      (.objActionSwap x.1, acc)
    refine ⟨e, ?_⟩
    simp only [visitPath, he]
    rfl

def pathHops (i : Nat) (isLastPath : Bool) (path : Path) : List Hop :=
  path.actions.zipIdx.flatMap (segment i isLastPath path)

theorem visitPath_emits (i pathCount : Nat) :
    Emits (visitPath i pathCount) Entry.hop (fun x => ∀ action ∈ x.1.actions, Given x.1 action)
      (fun x => pathHops i (decide (pathCount = x.2 + 1)) x.1) :=
  visitPath_tracks i pathCount (fun _ _ => collecting_nil) fun _ _ => segment_tracks

def AllGiven (routers : List Route) : Prop :=
  ∀ route ∈ routers, ∀ path ∈ route.paths, ∀ action ∈ path.actions, Given path action

section Routers

variable {γ : Type} {key : Entry → γ} {shown : Nat → Bool → Path → List γ}
  (hpath : ∀ i pathCount, Emits (visitPath i pathCount) key
    (fun x => ∀ action ∈ x.1.actions, Given x.1 action)
    (fun x => shown i (decide (pathCount = x.2 + 1)) x.1))

include hpath

theorem visitRoute_emits :
    Emits visitRoute key
      (fun r => ∀ p ∈ r.1.paths.zipIdx, ∀ action ∈ p.1.actions, Given p.1 action)
      (fun r => r.1.paths.zipIdx.flatMap fun p =>
        shown r.2 (decide (r.1.paths.length = p.2 + 1)) p.1) :=
  ⟨fun acc r hok => (hpath r.2 r.1.paths.length).foldlM.emits acc _ hok,
    fun acc r hok => (hpath r.2 r.1.paths.length).foldlM.fails acc _ hok⟩

theorem flattenSmartRouters_emits (routers : List Route) :
    (AllGiven routers ∧ ∃ out, flattenSmartRouters routers = .ok out ∧
      out.map key = routers.zipIdx.flatMap fun r => r.1.paths.zipIdx.flatMap fun p =>
        shown r.2 (decide (r.1.paths.length = p.2 + 1)) p.1) ∨
    (¬ AllGiven routers ∧ ∃ e, flattenSmartRouters routers = .error e) := by
  have hgiven : (∀ r ∈ routers.zipIdx, ∀ p ∈ r.1.paths.zipIdx, ∀ action ∈ p.1.actions,
      Given p.1 action) ↔ AllGiven routers := by
    rw [AllGiven, ← @forall_mem_zipIdx _ _ routers]
    exact forall₂_congr fun r _ =>
      forall_mem_zipIdx (P := fun path : Path => ∀ action ∈ path.actions, Given path action)
  rw [← hgiven]
  by_cases hok : ∀ r ∈ routers.zipIdx, ∀ p ∈ r.1.paths.zipIdx, ∀ action ∈ p.1.actions,
      Given p.1 action
  · obtain ⟨es, hes, hkeys⟩ := (visitRoute_emits hpath).foldlM.emits [] _ hok
    exact .inl ⟨hok, es, hes, hkeys⟩
  · exact .inr ⟨hok, (visitRoute_emits hpath).foldlM.fails [] _ hok⟩

end Routers

end OraidexSdk.SmartRouter
