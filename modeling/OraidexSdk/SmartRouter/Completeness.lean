import OraidexSdk.SmartRouter.Hops

namespace OraidexSdk.SmartRouter
open Js EmittingLoop

def aggregates (i : Nat) (path : Path) : List Hop :=
  (path.actions.zipIdx.filter (isSwapInOraichain path ·.1)).flatMap fun x =>
    if pushes path x.2 then
      [.swap i path.chainId (collected path (path.actions.take (x.2 + 1)))] else []

def expectedAggregates (i : Nat) (path : Path) : List Hop :=
  if pathsSwapInOraichain path = [] then [] else
    [.swap i path.chainId (collected path path.actions)]

def Hop.weight : Hop → Nat
  | .swap _ _ swapInfo => swapInfo.length + 1
  | .action _ => 0

section Path

variable (i : Nat) (isLastPath : Bool) {path : Path}

theorem aggregates_none (h : pathsSwapInOraichain path = []) : aggregates i path = [] := by
  have hfilter := map_filter_zipIdx (isSwapInOraichain path) path.actions
  rw [← pathsSwapInOraichain, h] at hfilter
  rw [aggregates, List.map_eq_nil_iff.mp hfilter]
  rfl

theorem collected_drop_of_single (h : (pathsSwapInOraichain path).length = 1) {action : Action}
    {k : Nat} (hk : path.actions[k]? = some action) (hs : isSwapInOraichain path action = true) :
    collected path (path.actions.take (k + 1)) = collected path path.actions := by
  have hmem : action ∈ (path.actions.take (k + 1)).filter (isSwapInOraichain path) := by
    refine List.mem_filter.mpr ⟨List.mem_of_getElem? (i := k) ?_, hs⟩
    rw [List.getElem?_take_of_lt (Nat.lt_succ_self k), hk]
  have hpos := List.length_pos_of_mem hmem
  rw [pathsSwapInOraichain, ← List.take_append_drop (k + 1) path.actions, List.filter_append,
    List.length_append] at h
  have hnil : (path.actions.drop (k + 1)).filter (isSwapInOraichain path) = [] :=
    List.length_eq_zero_iff.mp (by omega)
  conv_rhs => rw [← List.take_append_drop (k + 1) path.actions]
  rw [collected_append, collected, collected, hnil, List.flatMap_nil, List.append_nil]

theorem aggregates_one (h : (pathsSwapInOraichain path).length = 1) :
    aggregates i path = [.swap i path.chainId (collected path path.actions)] := by
  have hfilter := map_filter_zipIdx (isSwapInOraichain path) path.actions
  rw [← pathsSwapInOraichain] at hfilter
  obtain ⟨x, hx⟩ := List.length_eq_one_iff.mp
    ((List.length_map _).symm.trans ((congrArg List.length hfilter).trans h))
  have hmem : x ∈ path.actions.zipIdx.filter (isSwapInOraichain path ·.1) := by
    rw [hx]
    exact List.mem_singleton_self x
  obtain ⟨hzip, hs⟩ := List.mem_filter.mp hmem
  have hpush : pushes path x.2 = true := by simp [pushes, h]
  rw [aggregates, hx, List.flatMap_singleton, if_pos hpush,
    collected_drop_of_single h (List.mem_zipIdx_iff_getElem?.mp hzip) hs]

theorem aggregates_many (h : 1 < (pathsSwapInOraichain path).length) :
    aggregates i path =
      if path.actions[(pathsSwapInOraichain path).length - 1]?.any (isSwapInOraichain path) then
        [.swap i path.chainId
          (collected path (path.actions.take (pathsSwapInOraichain path).length))]
      else [] := by
  have hpush (k : Nat) :
      pushes path k = true ↔ 0 + ((pathsSwapInOraichain path).length - 1) = k := by
    have hone : (pathsSwapInOraichain path).length ≠ 1 := by omega
    simp [pushes, h, hone]
  rw [← flatMap_zipIdx_at, aggregates]
  refine congrArg (List.flatMap · _) (funext fun x => ?_)
  simp only [hpush]
  split
  · rename_i hk
    have htake : x.2 + 1 = (pathsSwapInOraichain path).length := by omega
    rw [htake]
  · rfl

theorem collected_take_length (path : Path) (n : Nat) :
    (collected path (path.actions.take n)).length + (collected path (path.actions.drop n)).length =
      (collected path path.actions).length := by
  rw [← List.length_append, ← collected_append, List.take_append_drop]

theorem aggregates_of_pushed (h : Pushed path) : aggregates i path = expectedAggregates i path := by
  rcases lt_trichotomy (pathsSwapInOraichain path).length 1 with hlt | heq | hgt
  · have hnil := List.length_eq_zero_iff.mp (Nat.lt_one_iff.mp hlt)
    rw [aggregates_none i hnil, expectedAggregates, if_pos hnil]
  · have hne : pathsSwapInOraichain path ≠ [] := List.ne_nil_of_length_eq_add_one heq
    rw [aggregates_one i heq, expectedAggregates, if_neg hne]
  · obtain ⟨hany, hdrop⟩ := h hgt
    have hne : pathsSwapInOraichain path ≠ [] := List.ne_nil_of_length_pos (by omega)
    have hall : collected path (path.actions.take (pathsSwapInOraichain path).length) =
        collected path path.actions := by
      conv_rhs => rw [← List.take_append_drop (pathsSwapInOraichain path).length path.actions]
      rw [collected_append, hdrop, List.append_nil]
    rw [aggregates_many i hgt, if_pos hany, expectedAggregates, if_neg hne, hall]

theorem weight_of_not_pushed (h : ¬ Pushed path) :
    weight Hop.weight (aggregates i path) < weight Hop.weight (expectedAggregates i path) := by
  simp only [Pushed, Classical.not_imp, not_and_or] at h
  obtain ⟨hgt, hlost⟩ := h
  have hne : pathsSwapInOraichain path ≠ [] := List.ne_nil_of_length_pos (by omega)
  rw [aggregates_many i hgt, expectedAggregates, if_neg hne]
  have htotal := collected_take_length path (pathsSwapInOraichain path).length
  rcases hlost with hany | hdrop
  · rw [if_neg hany]
    simp [weight, Hop.weight]
  · have hpos := List.length_pos_iff.mpr hdrop
    split
    · simp only [weight, List.map_singleton, List.sum_singleton, Hop.weight]
      omega
    · simp [weight, Hop.weight]

theorem pathHops_perm :
    (pathHops i isLastPath path).Perm (aggregates i path ++
      (path.actions.zipIdx.filter (! isSwapInOraichain path ·.1)).map
        fun x => .action (actionsPath i isLastPath path x.1 x.2)) :=
  flatMap_ite_perm (fun x : Action × Nat => isSwapInOraichain path x.1) _ _ path.actions.zipIdx

theorem pathHops_of_pushed (h : Pushed path) :
    (pathHops i isLastPath path).Perm (expectedHops i isLastPath path) := by
  have hperm : (pathHops i isLastPath path).Perm _ := pathHops_perm i isLastPath
  rwa [aggregates_of_pushed i h] at hperm

theorem pathHops_weight_lt (h : ¬ Pushed path) :
    weight Hop.weight (pathHops i isLastPath path) <
      weight Hop.weight (expectedHops i isLastPath path) := by
  rw [weight_perm Hop.weight (pathHops_perm i isLastPath), weight_append, expectedHops,
    weight_append]
  exact Nat.add_lt_add_right (weight_of_not_pushed i h) _

theorem pathHops_weight_le :
    weight Hop.weight (pathHops i isLastPath path) ≤
      weight Hop.weight (expectedHops i isLastPath path) := by
  by_cases h : Pushed path
  · exact (weight_perm Hop.weight (pathHops_of_pushed i isLastPath h)).le
  · exact (pathHops_weight_lt i isLastPath h).le

end Path

theorem forall_mem_visits {routers : List Route} {P : Path → Prop} :
    (∀ v ∈ visits routers, P v.2.2) ↔ ∀ route ∈ routers, ∀ path ∈ route.paths, P path := by
  simp only [visits, List.forall_mem_flatMap, List.forall_mem_map, forall_mem_zipIdx]
  exact forall_mem_zipIdx (P := fun route : Route => ∀ path ∈ route.paths, P path)

theorem flatMap_visits (routers : List Route) :
    ((visits routers).flatMap fun v => pathHops v.1 v.2.1 v.2.2) =
      routers.zipIdx.flatMap fun r => r.1.paths.zipIdx.flatMap fun p =>
        pathHops r.2 (decide (r.1.paths.length = p.2 + 1)) p.1 := by
  simp only [visits, List.flatMap_assoc, List.flatMap_map]

theorem flatten_complete_iff (routers : List Route) :
    Complete routers ↔ ∀ route ∈ routers, ∀ path ∈ route.paths, Kept path := by
  have hpushed : ((visits routers).flatMap fun v => pathHops v.1 v.2.1 v.2.2).Perm
        ((visits routers).flatMap fun v => expectedHops v.1 v.2.1 v.2.2) ↔
      ∀ route ∈ routers, ∀ path ∈ route.paths, Pushed path := by
    rw [← forall_mem_visits (P := Pushed)]
    exact flatMap_perm_iff Hop.weight
      (fun v : Nat × Bool × Path => pathHops_of_pushed v.1 v.2.1)
      (fun v => pathHops_weight_le v.1 v.2.1) (fun v => pathHops_weight_lt v.1 v.2.1) _
  rcases flattenSmartRouters_emits visitPath_emits routers with
    ⟨hgiven, out, hout, hhops⟩ | ⟨hnot, e, he⟩
  · rw [← flatMap_visits] at hhops
    constructor
    · rintro ⟨out', hout', hperm⟩ route hroute path hpath
      rw [← Except.ok.inj (hout.symm.trans hout'), hhops, hpushed] at hperm
      exact ⟨hgiven route hroute path hpath, hperm route hroute path hpath⟩
    · intro hkept
      refine ⟨out, hout, ?_⟩
      rw [hhops, hpushed]
      exact fun route hroute path hpath => (hkept route hroute path hpath).pushed
  · constructor
    · rintro ⟨out, hout, -⟩
      exact absurd (hout.symm.trans he) nofun
    · exact fun hkept => absurd (fun route hroute path hpath =>
        (hkept route hroute path hpath).given) hnot

theorem interleaved_swaps_lost :
    let swap (tokenIn tokenOut pool : String) : Action :=
      ⟨.swap, tokenIn, "1", tokenOut, "1", none, some [⟨pool, tokenOut⟩], none⟩
    let convert : Action := ⟨.convert, "b", "1", "c", "1", none, none, none⟩
    let path : Path :=
      ⟨"Oraichain", "a", "1", "d", "1", "Oraichain", [swap "a" "b" "1", convert, swap "c" "d" "2"]⟩
    flattenSmartRouters [⟨"1", "1", [path]⟩] = .ok [.ofAction convert 0 "Oraichain" false] ∧
      ¬ Complete [⟨"1", "1", [path]⟩] := by
  intro swap convert path
  have hrun : flattenSmartRouters [⟨"1", "1", [path]⟩] =
      .ok [.ofAction convert 0 "Oraichain" false] := by decide
  refine ⟨hrun, ?_⟩
  rintro ⟨out, hout, hperm⟩
  rw [← Except.ok.inj (hrun.symm.trans hout)] at hperm
  exact absurd hperm.length_eq (by decide)

end OraidexSdk.SmartRouter
