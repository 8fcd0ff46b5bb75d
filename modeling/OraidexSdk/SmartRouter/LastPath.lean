import OraidexSdk.SmartRouter.Hops

namespace OraidexSdk.SmartRouter
open Js EmittingLoop

def MarksEnds (routers : List Route) : Prop :=
  ∃ out, flattenSmartRouters routers = .ok out ∧ ∀ i < routers.length,
    EndsIn (fun e => e.isLastPath = some true) (out.filter (·.path = some i))

def EndsAlone (path : Path) : Prop :=
  path.actions.getLast?.any (isSwapInOraichain path) = true →
    (pathsSwapInOraichain path).length = 1

abbrev Mark : Type := Option Nat × Option Bool

def Entry.mark (e : Entry) : Mark := (e.path, e.isLastPath)

def firstFlag (isLastPath : Bool) (path : Path) (pre : List Action) : Option Bool :=
  (pre.findIdx? (isSwapInOraichain path)).map fun k =>
    isLastPath && decide (path.actions.length ≤ k + 1)

def marks (i : Nat) (isLastPath : Bool) (path : Path) (x : Action × Nat) : List Mark :=
  if isSwapInOraichain path x.1 then
    if pushes path x.2 then
      [(some i, firstFlag isLastPath path (path.actions.take (x.2 + 1)))] else []
  else [(some i, some (isLastPath && decide (path.actions.length ≤ x.2 + 1)))]

instance (path : Path) (action : Action) : Decidable (Given path action) :=
  inferInstanceAs (Decidable (_ → _))

instance (path : Path) : Decidable (EndsAlone path) := inferInstanceAs (Decidable (_ → _))

structure Flagged (i : Nat) (isLastPath : Bool) (path : Path) (pre : List Action)
    (obj : Entry) : Prop where
  collecting : Collecting i path pre obj
  flag : obj.isLastPath = firstFlag isLastPath path pre

section Path

variable {i : Nat} {isLastPath : Bool} {path : Path}

theorem flagged_nil : Flagged i isLastPath path [] (.objActionSwap path) := ⟨collecting_nil, rfl⟩

theorem firstFlag_swap {pre : List Action} {action : Action}
    (hs : isSwapInOraichain path action = true) :
    firstFlag isLastPath path (pre ++ [action]) =
      (firstFlag isLastPath path pre <|>
        some (isLastPath && decide (path.actions.length ≤ pre.length + 1))) := by
  rw [firstFlag, firstFlag, List.findIdx?_append]
  cases pre.findIdx? (isSwapInOraichain path) <;> simp [hs]

theorem firstFlag_other {pre : List Action} {action : Action}
    (hs : isSwapInOraichain path action = false) :
    firstFlag isLastPath path (pre ++ [action]) = firstFlag isLastPath path pre := by
  rw [firstFlag, firstFlag, List.findIdx?_append]
  cases pre.findIdx? (isSwapInOraichain path) <;> simp [hs]

theorem marks_tracks :
    Tracks i isLastPath path Entry.mark (Flagged i isLastPath path) (marks i isLastPath path) where
  collecting := Flagged.collecting
  swap := by
    intro pre tail obj action info hpath hobj hs hinfo
    have hflag : (aggregated (actionsPath i isLastPath path action pre.length) obj action
        (collected path pre ++ info)).isLastPath = firstFlag isLastPath path (pre ++ [action]) := by
      rw [firstFlag_swap hs, ← hobj.flag]
      rfl
    refine ⟨⟨hobj.collecting.swap hs hinfo _, hflag⟩, ?_⟩
    rw [marks, if_pos hs, take_of_split hpath, Entry.mark, hflag, aggregated_path hobj.collecting]
  other := by
    intro pre tail obj action hpath hobj hs
    refine ⟨⟨hobj.collecting.other hs, hobj.flag.trans (firstFlag_other hs).symm⟩, ?_⟩
    rw [marks, if_neg (by simp [hs])]
    rfl

end Path

def pathMarks (i : Nat) (isLastPath : Bool) (path : Path) : List Mark :=
  path.actions.zipIdx.flatMap (marks i isLastPath path)

theorem visitPath_marks (i pathCount : Nat) :
    Emits (visitPath i pathCount) Entry.mark (fun x => ∀ action ∈ x.1.actions, Given x.1 action)
      (fun x => pathMarks i (decide (pathCount = x.2 + 1)) x.1) :=
  visitPath_tracks i pathCount (fun _ _ => flagged_nil) fun _ _ => marks_tracks

section Flags

variable {i : Nat} {isLastPath : Bool} {path : Path}

theorem mark_fst {x : Action × Nat} {m : Mark} (h : m ∈ marks i isLastPath path x) :
    m.1 = some i := by
  rw [marks] at h
  split at h
  · split at h
    · exact congrArg Prod.fst (List.mem_singleton.mp h)
    · exact absurd h List.not_mem_nil
  · exact congrArg Prod.fst (List.mem_singleton.mp h)

theorem pathMark_fst {m : Mark} (h : m ∈ pathMarks i isLastPath path) : m.1 = some i := by
  obtain ⟨x, -, hx⟩ := List.mem_flatMap.mp h
  exact mark_fst hx

theorem mark_snd {x : Action × Nat} {m : Mark}
    (hearly : isLastPath = true → x.2 + 1 < path.actions.length)
    (h : m ∈ marks i isLastPath path x) : m.2 ≠ some true := by
  have hlate {k : Nat} (hk : k ≤ x.2) :
      (isLastPath && decide (path.actions.length ≤ k + 1)) = false := by
    cases isLastPath with
    | false => rfl
    | true =>
      have hlt := hearly rfl
      simp only [Bool.true_and, decide_eq_false_iff_not]
      omega
  rw [marks] at h
  split at h
  · split at h
    · obtain rfl := List.mem_singleton.mp h
      change firstFlag isLastPath path (path.actions.take (x.2 + 1)) ≠ some true
      rw [firstFlag, Ne, Option.map_eq_some_iff]
      rintro ⟨k, hk, htrue⟩
      have hlt := (List.findIdx?_eq_some_iff_findIdx_eq.mp hk).1
      rw [List.length_take] at hlt
      rw [hlate (by omega)] at htrue
      exact Bool.false_ne_true htrue
    · exact absurd h List.not_mem_nil
  · obtain rfl := List.mem_singleton.mp h
    change some (isLastPath && decide (path.actions.length ≤ x.2 + 1)) ≠ some true
    rw [hlate le_rfl]
    exact fun h => Bool.false_ne_true (Option.some.inj h)

theorem swaps_eq_one_iff {init : List Action} {last : Action} (hpath : path.actions = init ++ [last])
    (hs : isSwapInOraichain path last = true) :
    (pathsSwapInOraichain path).length = 1 ↔ ∀ a ∈ init, isSwapInOraichain path a = false := by
  have hlast : [last].filter (isSwapInOraichain path) = [last] := by simp [hs]
  rw [pathsSwapInOraichain, hpath, List.filter_append, hlast, List.length_append,
    List.length_singleton, Nat.add_eq_right, List.length_eq_zero_iff, List.filter_eq_nil_iff]
  simp

theorem endsIn_marks_last {init : List Action} {last : Action}
    (hpath : path.actions = init ++ [last]) :
    EndsIn (fun m => m.2 = some true) (marks i true path (last, init.length)) ↔
      EndsAlone path := by
  have hlength : path.actions.length = init.length + 1 := by rw [hpath, List.length_append]; rfl
  have htake : path.actions.take (init.length + 1) = init ++ [last] := take_of_split hpath.symm
  rw [EndsAlone, hpath, List.getLast?_concat, Option.any_some, marks]
  cases hs : isSwapInOraichain path last with
  | false =>
    rw [if_neg Bool.false_ne_true]
    refine iff_of_true (endsIn_singleton ?_) (fun h => absurd h Bool.false_ne_true)
    simp [hlength]
  | true =>
    rw [if_pos rfl, htake, firstFlag_swap hs]
    by_cases hone : (pathsSwapInOraichain path).length = 1
    · have hnone : init.findIdx? (isSwapInOraichain path) = none :=
        List.findIdx?_eq_none_iff.mpr ((swaps_eq_one_iff hpath hs).mp hone)
      refine iff_of_true ?_ fun _ => hone
      rw [if_pos (by simp [pushes, hone])]
      refine endsIn_singleton ?_
      simp [firstFlag, hnone, hlength]
    · refine iff_of_false (not_endsIn fun m hm => ?_) fun h => hone (h rfl)
      rw [swaps_eq_one_iff hpath hs, ← List.findIdx?_eq_none_iff] at hone
      obtain ⟨k, hk⟩ := Option.ne_none_iff_exists'.mp hone
      have hlt := (List.findIdx?_eq_some_iff_findIdx_eq.mp hk).1
      split at hm
      · obtain rfl := List.mem_singleton.mp hm
        simp [firstFlag, hk, hlength]
        omega
      · exact absurd hm List.not_mem_nil

theorem endsIn_pathMarks (hne : path.actions ≠ []) :
    EndsIn (fun m => m.2 = some true) (pathMarks i true path) ↔ EndsAlone path := by
  obtain ⟨init, last, hpath⟩ := (List.eq_nil_or_concat path.actions).resolve_left hne
  rw [List.concat_eq_append] at hpath
  have hsplit : pathMarks i true path =
      init.zipIdx.flatMap (marks i true path) ++ marks i true path (last, init.length) := by
    rw [pathMarks, hpath, List.zipIdx_append, List.flatMap_append]
    simp
  rw [hsplit, endsIn_append, endsIn_marks_last hpath]
  intro m hm
  obtain ⟨x, hx, hmx⟩ := List.mem_flatMap.mp hm
  have hlt := List.snd_lt_of_mem_zipIdx hx
  refine mark_snd (fun _ => ?_) hmx
  rw [hpath, List.length_append, List.length_singleton]
  omega

end Flags

def routeMarks (r : Route × Nat) : List Mark :=
  r.1.paths.zipIdx.flatMap fun p => pathMarks r.2 (decide (r.1.paths.length = p.2 + 1)) p.1

section Route

variable {route : Route}

def RouteEndsAlone (route : Route) : Prop := ∀ path ∈ route.paths.getLast?, EndsAlone path

theorem endsIn_routeMarks (i : Nat) (hpaths : route.paths ≠ [])
    (hactions : ∀ path ∈ route.paths, path.actions ≠ []) :
    EndsIn (fun m => m.2 = some true) (routeMarks (route, i)) ↔ RouteEndsAlone route := by
  obtain ⟨init, last, hroute⟩ := (List.eq_nil_or_concat route.paths).resolve_left hpaths
  rw [List.concat_eq_append] at hroute
  have hlength : route.paths.length = init.length + 1 := by
    rw [hroute, List.length_append, List.length_singleton]
  have hsplit : routeMarks (route, i) =
      (init.zipIdx.flatMap fun p => pathMarks i (decide (init.length + 1 = p.2 + 1)) p.1) ++
        pathMarks i true last := by
    simp only [routeMarks, hlength]
    rw [hroute, List.zipIdx_append, List.flatMap_append]
    simp
  have hlast : last ∈ route.paths := by
    rw [hroute]
    exact List.mem_append_right _ (List.mem_singleton_self last)
  rw [hsplit, endsIn_append, endsIn_pathMarks (hactions last hlast), RouteEndsAlone, hroute,
    List.getLast?_concat]
  · simp
  · intro m hm
    obtain ⟨p, hp, hmp⟩ := List.mem_flatMap.mp hm
    obtain ⟨x, -, hx⟩ := List.mem_flatMap.mp hmp
    have hlt := List.snd_lt_of_mem_zipIdx hp
    refine mark_snd (fun hend => ?_) hx
    have heq := of_decide_eq_true hend
    omega

theorem routeMark_fst {r : Route × Nat} {m : Mark} (h : m ∈ routeMarks r) : m.1 = some r.2 := by
  obtain ⟨p, -, hp⟩ := List.mem_flatMap.mp h
  exact pathMark_fst hp

end Route

theorem filter_marks {routers : List Route} {out : List Entry}
    (hmarks : out.map Entry.mark = routers.zipIdx.flatMap routeMarks) {i : Nat}
    (hi : i < routers.length) :
    (out.filter (·.path = some i)).map Entry.mark = routeMarks (routers[i], i) := by
  have hblock := filter_flatMap_zipIdx (Option.some_injective Nat)
    (fun r (m : Mark) (hm : m ∈ routeMarks r) => routeMark_fst hm) routers 0 i
  rw [Nat.zero_add, ← hmarks, List.filter_map, List.getElem?_eq_getElem hi] at hblock
  exact hblock

theorem flatten_marksEnds_iff (routers : List Route)
    (hpaths : ∀ route ∈ routers, route.paths ≠ [])
    (hactions : ∀ route ∈ routers, ∀ path ∈ route.paths, path.actions ≠ []) :
    MarksEnds routers ↔ AllGiven routers ∧ ∀ route ∈ routers, RouteEndsAlone route := by
  rcases flattenSmartRouters_emits visitPath_marks routers with
    ⟨hgiven, out, hout, hmarks⟩ | ⟨hnot, e, he⟩
  · have hroute (i : Nat) (hi : i < routers.length) :
        EndsIn (fun e => e.isLastPath = some true) (out.filter (·.path = some i)) ↔
          RouteEndsAlone routers[i] := by
      have hmem := List.getElem_mem hi
      rw [← endsIn_routeMarks i (hpaths _ hmem) (hactions _ hmem), ← filter_marks hmarks hi,
        endsIn_map]
      rfl
    rw [and_iff_right hgiven, List.forall_mem_iff_getElem]
    constructor
    · rintro ⟨out', hout', hends⟩ i hi
      obtain rfl := Except.ok.inj (hout.symm.trans hout')
      exact (hroute i hi).mp (hends i hi)
    · exact fun hends => ⟨out, hout, fun i hi => (hroute i hi).mpr (hends i hi)⟩
  · refine iff_of_false ?_ fun h => hnot h.1
    rintro ⟨out, hout, -⟩
    exact absurd (hout.symm.trans he) nofun

theorem bridge_then_swap_marked :
    let bridge : Action := ⟨.bridge, "uatom", "1", "a", "1", none, none, none⟩
    let swap : Action := ⟨.swap, "a", "1", "b", "1", none, some [⟨"pool", "b"⟩], none⟩
    MarksEnds [⟨"1", "1", [⟨"cosmoshub-4", "uatom", "1", "a", "1", "Oraichain", [bridge]⟩,
      ⟨"Oraichain", "a", "1", "b", "1", "Oraichain", [swap]⟩]⟩] := by
  intro bridge swap
  refine (flatten_marksEnds_iff _ (by decide) (by decide)).mpr ⟨?_, ?_⟩
  · unfold AllGiven
    decide
  · unfold RouteEndsAlone
    decide

-- Of two Swap actions at the end of a route the aggregated entry keeps the flag of the first.
theorem two_swaps_unmarked :
    let swap (tokenIn tokenOut pool : String) : Action :=
      ⟨.swap, tokenIn, "1", tokenOut, "1", none, some [⟨pool, tokenOut⟩], none⟩
    let route : Route := ⟨"1", "1", [⟨"Oraichain", "a", "1", "c", "1", "Oraichain",
      [swap "a" "b" "1", swap "b" "c" "2"]⟩]⟩
    route.paths ≠ [] ∧ (∀ path ∈ route.paths, path.actions ≠ []) ∧ ¬ MarksEnds [route] := by
  intro swap route
  have hrun : flattenSmartRouters [route] = .ok [{ (Entry.ofAction (swap "a" "c" "1") 0
      "Oraichain" false) with swapInfo := some [⟨"1", "b"⟩, ⟨"2", "c"⟩] }] := by decide
  refine ⟨by decide, by decide, ?_⟩
  rintro ⟨out, hout, hends⟩
  obtain rfl := Except.ok.inj (hrun.symm.trans hout)
  exact not_endsIn (by decide) (hends 0 Nat.one_pos)

end OraidexSdk.SmartRouter
