import OraidexSdk.Js.SparseArray
import OraidexSdk.Js.Text
import Mathlib.Algebra.BigOperators.Group.List.Basic
import Mathlib.Algebra.Ring.Int.Defs

namespace OraidexSdk.OraiswapV3
open Js Outcome SparseArray

structure LiquidityTick where
  index : Int
  liquidityChange : Int
  sign : Bool
deriving DecidableEq, Repr

structure VirtualRange where
  lowerTick : Int
  upperTick : Int
deriving DecidableEq, Repr

structure PositionLiquidInfo where
  lowerTickIndex : Int
  upperTickIndex : Int
  liquidity : Int
deriving DecidableEq, Repr

namespace LiquidityTick

def signedChange (change : LiquidityTick) : Int :=
  if change.sign then change.liquidityChange else -change.liquidityChange

def Within (change : LiquidityTick) (range : VirtualRange) : Prop :=
  range.lowerTick ≤ change.index ∧ change.index < range.upperTick

instance (change : LiquidityTick) (range : VirtualRange) : Decidable (change.Within range) :=
  inferInstanceAs (Decidable (_ ∧ _))

end LiquidityTick

def writeRange (change : LiquidityTick) (currentLiquidity : Int) (rangeLiquidity : SparseArray Int)
    (x : VirtualRange × Nat) : SparseArray Int :=
  let (range, index) := x
  if change.Within range then
    -- Undefined and zero are both falsy.
    let rangeLiquidity := if (get rangeLiquidity index).getD 0 = 0 then assign rangeLiquidity index 0
      else rangeLiquidity
    assign rangeLiquidity index currentLiquidity
  else rangeLiquidity

def visitChange (tickRanges : List VirtualRange) (state : Int × SparseArray Int)
    (change : LiquidityTick) : Int × SparseArray Int :=
  let currentLiquidity := state.1 + change.signedChange
  (currentLiquidity, tickRanges.zipIdx.foldl (writeRange change currentLiquidity) state.2)

def positionLiquidInfo (tickRanges : List VirtualRange) (liquidity : Int) (index : Nat) :
    Except JsError PositionLiquidInfo :=
  match tickRanges[index]? with
  | none => .error .typeError
  | some range => .ok ⟨range.lowerTick, range.upperTick, liquidity⟩

def calculateLiquidityForRanges (liquidityChanges : List LiquidityTick)
    (tickRanges : List VirtualRange) : Except JsError (SparseArray PositionLiquidInfo) :=
  SparseArray.mapM (positionLiquidInfo tickRanges)
    (liquidityChanges.foldl (visitChange tickRanges) (0, [])).2

def activeLiquidity (liquidityChanges : List LiquidityTick) (range : VirtualRange) : Int :=
  ((liquidityChanges.filter (·.index < range.upperTick)).map (·.signedChange)).sum

section Scan

variable {tickRanges : List VirtualRange}

theorem get_writeRange (change : LiquidityTick) (currentLiquidity : Int)
    (rangeLiquidity : SparseArray Int) (range : VirtualRange) (index i : Nat) :
    get (writeRange change currentLiquidity rangeLiquidity (range, index)) i =
      if i = index ∧ change.Within range then some currentLiquidity else get rangeLiquidity i := by
  simp only [writeRange]
  by_cases hwithin : change.Within range
  · by_cases hi : i = index
    · simp [hwithin, hi, get_assign]
    · simp only [hwithin, if_true, get_assign, hi, if_false, false_and]
      split <;> simp [get_assign, hi]
  · simp [hwithin]

theorem length_writeRange_le (change : LiquidityTick) (currentLiquidity : Int)
    {rangeLiquidity : SparseArray Int} {x : VirtualRange × Nat} {n : Nat} (hx : x.2 < n)
    (h : rangeLiquidity.length ≤ n) :
    (writeRange change currentLiquidity rangeLiquidity x).length ≤ n := by
  simp only [writeRange]
  split
  · rw [length_assign]
    split
    · rw [length_assign]
      omega
    · omega
  · exact h

theorem get_writeRanges (change : LiquidityTick) (currentLiquidity : Int) (i : Nat) :
    ∀ (k : Nat) (rangeLiquidity : SparseArray Int),
      get ((tickRanges.zipIdx k).foldl (writeRange change currentLiquidity) rangeLiquidity) i =
        if ∃ x ∈ tickRanges.zipIdx k, i = x.2 ∧ change.Within x.1 then some currentLiquidity
        else get rangeLiquidity i := by
  induction tickRanges with
  | nil => simp
  | cons range rest ih =>
    intro k rangeLiquidity
    simp only [List.zipIdx_cons, List.foldl_cons, ih, get_writeRange, List.mem_cons,
      exists_eq_or_imp]
    by_cases hrest : ∃ x ∈ rest.zipIdx (k + 1), i = x.2 ∧ change.Within x.1
    · rw [if_pos hrest, if_pos (.inr hrest)]
    · simp only [hrest, if_false, or_false]

theorem length_writeRanges_le (change : LiquidityTick) (currentLiquidity : Int) {n : Nat} :
    ∀ {xs : List (VirtualRange × Nat)} {rangeLiquidity : SparseArray Int}, (∀ x ∈ xs, x.2 < n) →
      rangeLiquidity.length ≤ n →
      (xs.foldl (writeRange change currentLiquidity) rangeLiquidity).length ≤ n := by
  intro xs
  induction xs with
  | nil => exact fun _ h => h
  | cons x xs ih =>
    intro rangeLiquidity hxs h
    obtain ⟨hx, hrest⟩ := List.forall_mem_cons.mp hxs
    exact ih hrest (length_writeRange_le change currentLiquidity hx h)

theorem length_visitChanges_le (liquidityChanges : List LiquidityTick) :
    ∀ state : Int × SparseArray Int, state.2.length ≤ tickRanges.length →
      (liquidityChanges.foldl (visitChange tickRanges) state).2.length ≤ tickRanges.length := by
  induction liquidityChanges with
  | nil => exact fun _ h => h
  | cons change rest ih =>
    intro state h
    refine ih _ (length_writeRanges_le change _ (fun x hx => ?_) h)
    have hlt := List.mem_zipIdx hx
    omega

theorem activeLiquidity_cons (change : LiquidityTick) (rest : List LiquidityTick)
    (range : VirtualRange) :
    activeLiquidity (change :: rest) range =
      (if change.index < range.upperTick then change.signedChange else 0) +
        activeLiquidity rest range := by
  by_cases h : change.index < range.upperTick <;> simp [activeLiquidity, h]

-- After a change at or above the lower tick, all later changes below the upper tick
-- lie in the range.
theorem activeLiquidity_of_none_within {range : VirtualRange} {rest : List LiquidityTick}
    (hlater : ∀ change ∈ rest, range.lowerTick ≤ change.index)
    (hnone : ¬ ∃ change ∈ rest, change.Within range) : activeLiquidity rest range = 0 := by
  have hfilter : rest.filter (·.index < range.upperTick) = [] := by
    rw [List.filter_eq_nil_iff]
    intro change hchange hlt
    exact hnone ⟨change, hchange, hlater change hchange, of_decide_eq_true hlt⟩
  rw [activeLiquidity, hfilter]
  rfl

theorem get_visitChanges {liquidityChanges : List LiquidityTick}
    (hsorted : liquidityChanges.Pairwise (·.index < ·.index)) {i : Nat} {range : VirtualRange}
    (hrange : tickRanges[i]? = some range) :
    ∀ state : Int × SparseArray Int,
      get (liquidityChanges.foldl (visitChange tickRanges) state).2 i =
        if ∃ change ∈ liquidityChanges, change.Within range then
          some (state.1 + activeLiquidity liquidityChanges range)
        else get state.2 i := by
  have hwritten (change : LiquidityTick) : (∃ x ∈ tickRanges.zipIdx, i = x.2 ∧
      change.Within x.1) ↔ change.Within range := by
    simp [List.mem_zipIdx_iff_getElem?, Prod.exists, hrange]
  induction liquidityChanges with
  | nil => simp
  | cons change rest ih =>
    intro state
    obtain ⟨hlater, hrest⟩ := List.pairwise_cons.mp hsorted
    rw [List.foldl_cons, ih hrest]
    simp only [visitChange, get_writeRanges, hwritten, activeLiquidity_cons, List.mem_cons,
      exists_eq_or_imp]
    by_cases hsome : ∃ next ∈ rest, next.Within range
    · obtain ⟨next, hnext, hwithin⟩ := hsome
      have hlt : change.index < range.upperTick := (hlater next hnext).trans hwithin.2
      rw [if_pos ⟨next, hnext, hwithin⟩, if_pos (.inr ⟨next, hnext, hwithin⟩), if_pos hlt,
        add_assoc]
    · by_cases hchange : change.Within range
      · have hzero : activeLiquidity rest range = 0 :=
          activeLiquidity_of_none_within (fun next hnext =>
            hchange.1.trans (hlater next hnext).le) hsome
        rw [if_neg hsome, if_pos hchange, if_pos (.inl hchange), if_pos hchange.2, hzero,
          add_zero]
      · rw [if_neg hsome, if_neg hchange, if_neg (not_or.mpr ⟨hchange, hsome⟩)]

theorem calculate_eq (liquidityChanges : List LiquidityTick) :
    calculateLiquidityForRanges liquidityChanges tickRanges =
      .ok ((liquidityChanges.foldl (visitChange tickRanges) (0, [])).2.mapIdx fun i => Option.map
        fun liquidity => let range := tickRanges.getD i ⟨0, 0⟩
          ⟨range.lowerTick, range.upperTick, liquidity⟩) := by
  refine mapM_eq fun i liquidity hliquidity => ?_
  have hlength : (liquidityChanges.foldl (visitChange tickRanges) (0, [])).2.length ≤
      tickRanges.length := length_visitChanges_le liquidityChanges (0, []) (Nat.zero_le _)
  have hi : i < tickRanges.length := by
    refine lt_of_not_ge fun hge => ?_
    rw [SparseArray.get, List.getElem?_eq_none (hlength.trans hge)] at hliquidity
    cases hliquidity
  simp [positionLiquidInfo, hi]

end Scan

theorem liquidity_for_ranges_iff {liquidityChanges : List LiquidityTick}
    (hsorted : liquidityChanges.Pairwise (·.index < ·.index)) (tickRanges : List VirtualRange) :
    calculateLiquidityForRanges liquidityChanges tickRanges =
        .ok (tickRanges.map fun range =>
          some ⟨range.lowerTick, range.upperTick, activeLiquidity liquidityChanges range⟩) ↔
      ∀ range ∈ tickRanges, ∃ change ∈ liquidityChanges, change.Within range := by
  have hlength : (liquidityChanges.foldl (visitChange tickRanges) (0, [])).2.length ≤
      tickRanges.length := length_visitChanges_le liquidityChanges (0, []) (Nat.zero_le _)
  have hget (i : Nat) {range : VirtualRange} (hrange : tickRanges[i]? = some range) :=
    get_visitChanges hsorted hrange (0, [])
  rw [calculate_eq, Except.ok.injEq]
  generalize (liquidityChanges.foldl (visitChange tickRanges) (0, [])).2 = written at *
  constructor
  · intro h range hmem
    obtain ⟨i, hi⟩ := List.mem_iff_getElem?.mp hmem
    have helement := congrArg (·[i]?) h
    simp only [List.getElem?_mapIdx, List.getElem?_map, hi, Option.map_some] at helement
    by_contra hnone
    have hundefined := hget i hi
    rw [if_neg hnone, get_nil, SparseArray.get] at hundefined
    cases hwritten : written[i]? with
    | none => simp [hwritten] at helement
    | some element =>
      rw [hwritten, Option.join_some] at hundefined
      simp [hwritten, hundefined] at helement
  · intro h
    refine List.ext_getElem? fun i => ?_
    simp only [List.getElem?_mapIdx, List.getElem?_map]
    cases hi : tickRanges[i]? with
    | none =>
      have hout := List.getElem?_eq_none_iff.mp hi
      rw [List.getElem?_eq_none (hlength.trans hout)]
      rfl
    | some range =>
      have hwritten := hget i hi
      rw [if_pos (h range (List.mem_of_getElem? hi)), SparseArray.get,
        Option.join_eq_some_iff] at hwritten
      simp [hwritten, hi]

def oneThousandUpTo100 : List LiquidityTick := [⟨0, 1000, true⟩, ⟨100, 1000, false⟩]

theorem range_without_change_lost :
    calculateLiquidityForRanges oneThousandUpTo100 [⟨10, 20⟩, ⟨90, 110⟩] =
        .ok [none, some ⟨90, 110, 0⟩] ∧
      activeLiquidity oneThousandUpTo100 ⟨10, 20⟩ = 1000 ∧
      calculateLiquidityForRanges oneThousandUpTo100 [⟨10, 20⟩, ⟨90, 110⟩] ≠
        .ok ([⟨10, 20⟩, ⟨90, 110⟩].map fun range : VirtualRange =>
          some ⟨range.lowerTick, range.upperTick, activeLiquidity oneThousandUpTo100 range⟩) := by
  decide

theorem adjacent_ranges_liquidity :
    calculateLiquidityForRanges oneThousandUpTo100 [⟨0, 100⟩, ⟨100, 200⟩] =
      .ok ([⟨0, 100⟩, ⟨100, 200⟩].map fun range : VirtualRange =>
        some ⟨range.lowerTick, range.upperTick, activeLiquidity oneThousandUpTo100 range⟩) :=
  (liquidity_for_ranges_iff (by decide) _).mpr (by decide)

end OraidexSdk.OraiswapV3
