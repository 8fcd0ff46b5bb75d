import OraidexSdk.Common.NumberOperands
import OraidexSdk.Js.Arithmetic
import OraidexSdk.OraiswapV3.SwapOperations

namespace OraidexSdk.OraiswapV3
open Js DecimalNumber ScaledInteger BigDecimal Script Outcome

structure RouteInfo where
  swapAmount : String
  returnAmount : Int
  routes : Option (List Route)
deriving DecidableEq

inductive ZapOutResult where
  | success
deriving DecidableEq, Repr

structure ZapOutLiquidityResponse where
  minimumReceiveX : String
  minimumReceiveY : String
  positionIndex : Nat
  routes : List (ZapperRoute (Number ℚ))
  swapFee : Number ℚ
  amountToX : Int
  amountToY : Int
  result : ZapOutResult
deriving DecidableEq

def RouteInfo.response (info : RouteInfo) : SmartRouteResponse :=
  ⟨info.swapAmount, info.returnAmount, info.routes.getD []⟩

-- (100 - slippage) / 100
def keptShare (slippage : DecimalNumber) : DecimalNumber :=
  ⟨100 * 10 ^ slippage.places - slippage.numerator, slippage.places + 2⟩

-- Math.trunc(x).toString()
def truncText : Number ℚ → String
  | .nan => "NaN"
  | .infinity negative => if negative then "-Infinity" else "Infinity"
  | .finite x => numberText ⟨truncate x, 0⟩

def sideMinimum (info : RouteInfo) (slippage : DecimalNumber) : Except JsError String :=
  match info.routes with
  | some _ => do
    let product ← contents (do
      mul (← new (.string (String.ofList (bigIntText info.returnAmount))) none)
        (.number (numberText (keptShare slippage)))) emptyHeap
    return truncText product.toNumber
  | none => .ok (String.ofList (bigIntText info.returnAmount))

def getFeeRate : SwapOperation (Number ℚ) → Number ℚ
  | .oraiSwap _ _ => .finite (3 / 1000)
  | .swapV3 poolKey _ => poolKey.feeTier.fee.div (.finite (10 ^ 12))

def swapFee (routes : List (ZapperRoute (Number ℚ))) : Number ℚ :=
  (routes.flatMap (·.operations)).foldl (fun fee operation => fee.add (getFeeRate operation))
    (.finite 0)

def buildZapOutMessage (toLowerCase : String → String) (cosmosTokens : List TokenItem)
    (zapOutResult : ZapOutResult) (positionIndex : Nat) (xRouteInfo yRouteInfo : RouteInfo)
    (slippage : DecimalNumber) : Except JsError ZapOutLiquidityResponse := do
  let minimumReceiveX ← sideMinimum xRouteInfo slippage
  let minimumReceiveY ← sideMinimum yRouteInfo slippage
  let routes ← generateMessageSwapOperation toLowerCase cosmosTokens
    [xRouteInfo.response, yRouteInfo.response] slippage.value
  return ⟨minimumReceiveX, minimumReceiveY, positionIndex, routes, swapFee routes,
    xRouteInfo.returnAmount, yRouteInfo.returnAmount, zapOutResult⟩

def exactMinimum (returnAmount : Int) (slippage : DecimalNumber) : ℚ :=
  returnAmount * (100 - slippage.value) / 100

structure WithinSlippage (returnAmount : Int) (slippage : DecimalNumber) (minimumReceive : String)
    (side : Except JsError String) : Prop where
  bounds : ∃ n : Int, number minimumReceive.toList = .finite n ∧
    n ≤ exactMinimum returnAmount slippage ∧ exactMinimum returnAmount slippage - 1 < n
  agrees : side = .ok minimumReceive

-- The exact minimum is nearest to its floor, what six decimals cut off the kept share
-- does not reach below that floor, and the text of the share is read as decimals.
structure RoundsDown (returnAmount : Int) (slippage : DecimalNumber) : Prop where
  below_half : Int.fract (exactMinimum returnAmount slippage) < 1 / 2
  plain : PlainText (if returnAmount = 0 then scaleText 6 (keptShare slippage).text
    else (keptShare slippage).text)
  covered : |(returnAmount : ℚ)| * lost 10 6 (keptShare slippage).value ≤
    Int.fract (exactMinimum returnAmount slippage)
  negative : returnAmount < 0 → Int.fract (exactMinimum returnAmount slippage) = 0

section Share

variable (slippage : DecimalNumber)

theorem keptShare_value : (keptShare slippage).value = (100 - slippage.value) / 100 := by
  have hpow : (10 : ℚ) ^ slippage.places ≠ 0 := pow_ne_zero _ (by norm_num)
  rw [keptShare, DecimalNumber.value, DecimalNumber.value, scaled, scaled, pow_add]
  push_cast
  field_simp
  ring

theorem exactMinimum_eq (returnAmount : Int) :
    exactMinimum returnAmount slippage = returnAmount * (keptShare slippage).value := by
  rw [exactMinimum, keptShare_value, mul_div_assoc]

variable {slippage}

theorem keptShare_nonneg (hhigh : slippage.value ≤ 100) : 0 ≤ (keptShare slippage).value := by
  rw [keptShare_value]
  exact div_nonneg (sub_nonneg.mpr hhigh) (by norm_num)

theorem keptShare_numerator (hhigh : slippage.value ≤ 100) : 0 ≤ (keptShare slippage).numerator := by
  have hvalue := keptShare_nonneg hhigh
  rw [DecimalNumber.value, scaled, le_div_iff₀ (by positivity), zero_mul] at hvalue
  exact_mod_cast hvalue

theorem keptShare_le_one (hlow : 0 ≤ slippage.value) : (keptShare slippage).value ≤ 1 := by
  rw [keptShare_value, div_le_one (by norm_num)]
  exact sub_le_self _ hlow

end Share

theorem numberText_int_inj {a b : Int} : numberText ⟨a, 0⟩ = numberText ⟨b, 0⟩ ↔ a = b := by
  refine ⟨fun h => ?_, fun h => h ▸ rfl⟩
  have hvalue := (number_numberText ⟨a, 0⟩).symm.trans (h ▸ number_numberText ⟨b, 0⟩)
  exact (scaled_inj (K := ℚ) 10).mp (Number.finite.inj hvalue)

theorem zapperRoute_minimum {toLowerCase : String → String} {cosmosTokens : List TokenItem}
    {slippage : ℚ} {route : Route} {z : ZapperRoute (Number ℚ)}
    (h : zapperRoute toLowerCase cosmosTokens slippage route = .ok z) :
    z.minimumReceive = minimumReceive (number route.returnAmount.toList) slippage := by
  obtain ⟨operations, -, hrest⟩ := bind_eq_ok.mp h
  cases hpaths : route.paths with
  | nil =>
    rw [hpaths] at hrest
    cases hrest
  | cons path paths =>
    rw [hpaths] at hrest
    rw [← Except.ok.inj hrest]

def SideGives (returnAmount : Int) (slippage : DecimalNumber) (n : Int) : Prop :=
  ∃ o, parse (keptShare slippage).text (some 6) = .ok o ∧
    truncate (returnAmount * scaled ℚ 10 o.bigInt 6) = n

section Sides

variable {slippage : DecimalNumber} {returnAmount : Int}

theorem sideMinimum_iff (swapAmount : String) (routes : List Route) (n : Int) :
    sideMinimum ⟨swapAmount, returnAmount, some routes⟩ slippage = .ok (numberText ⟨n, 0⟩) ↔
      SideGives returnAmount slippage n := by
  have htext (o : BigDecimal) : truncText (toNumber ⟨returnAmount * o.bigInt, 6⟩) =
      numberText ⟨truncate (returnAmount * scaled ℚ 10 o.bigInt 6), 0⟩ := by
    have hvalue : BigDecimal.value ⟨returnAmount * o.bigInt, 6⟩ =
        returnAmount * scaled ℚ 10 o.bigInt 6 := by
      rw [BigDecimal.value, scaled, scaled, Int.cast_mul, mul_div_assoc]
    rw [toNumber_eq (Nat.succ_pos 5), hvalue, truncText]
  rw [sideMinimum]
  simp only [product_eq]
  cases hparse : parse (keptShare slippage).text (some 6) with
  | error e =>
    constructor
    · intro h
      cases h
    · rintro ⟨o, ho, -⟩
      cases hparse.symm.trans ho
  | ok o =>
    change Except.ok (truncText (toNumber ⟨returnAmount * o.bigInt, 6⟩)) = _ ↔ _
    rw [htext, Except.ok.injEq, numberText_int_inj]
    constructor
    · exact fun h => ⟨o, hparse, h⟩
    · rintro ⟨o', ho, h⟩
      obtain rfl := Except.ok.inj (hparse.symm.trans ho)
      exact h

theorem gives_plain (hhigh : slippage.value ≤ 100) (hplain : PlainText (keptShare slippage).text) :
    SideGives returnAmount slippage ⌊exactMinimum returnAmount slippage⌋ ↔
      |(returnAmount : ℚ)| * lost 10 6 (keptShare slippage).value ≤
          Int.fract (exactMinimum returnAmount slippage) ∧
        (returnAmount < 0 → Int.fract (exactMinimum returnAmount slippage) = 0) := by
  have hkept := keptShare_nonneg hhigh
  have hparse := (parse_plain_at (show 6 ≠ 0 by decide) hplain).2
  have htruncated : scaled ℚ 10 (truncate ((keptShare slippage).value * 10 ^ 6)) 6 =
      truncateTo 10 6 (keptShare slippage).value := rfl
  have hgives : SideGives returnAmount slippage ⌊exactMinimum returnAmount slippage⌋ ↔
      truncate (returnAmount * truncateTo 10 6 (keptShare slippage).value) =
        ⌊returnAmount * (keptShare slippage).value⌋ := by
    rw [← exactMinimum_eq, SideGives, hparse]
    simp only [Except.ok.injEq, exists_eq_left', htruncated]
  rw [hgives, exactMinimum_eq]
  rcases lt_or_ge returnAmount 0 with hneg | hnonneg
  · have hcast : (returnAmount : ℚ) < 0 := Int.cast_lt_zero.mpr hneg
    rw [mul_truncateTo_of_neg 10 6 hkept hcast, abs_of_neg hcast]
    exact and_congr_right fun _ => ⟨fun hzero _ => hzero, fun hzero => hzero hneg⟩
  · have hcast : (0 : ℚ) ≤ returnAmount := Int.cast_nonneg hnonneg
    rw [mul_truncateTo_of_nonneg 10 6 hkept hcast, abs_of_nonneg hcast]
    exact (and_iff_left fun hneg => absurd hneg (Int.not_lt.mpr hnonneg)).symm

theorem misread_share {q v : ℚ} (hq : q < 1 / 2) (hv : 1 ≤ v) (hne : returnAmount ≠ 0)
    (hhalf : Int.fract (returnAmount * q) < 1 / 2) :
    truncate (returnAmount * v) ≠ ⌊returnAmount * q⌋ := by
  intro h
  have hfloor := Int.floor_add_fract (returnAmount * q)
  have hfract := Int.fract_nonneg (returnAmount * q)
  rcases lt_or_gt_of_ne hne with hneg | hpos
  · have hcast : (returnAmount : ℚ) ≤ -1 := by exact_mod_cast Int.le_sub_one_of_lt hneg
    have hle : -returnAmount ≤ truncate (-(returnAmount * v)) := by
      refine le_truncate (by omega) ?_
      push_cast
      nlinarith
    rw [truncate_neg, h, neg_le_neg_iff] at hle
    have hle' : (⌊returnAmount * q⌋ : ℚ) ≤ returnAmount := Int.cast_le.mpr hle
    nlinarith
  · have hcast : (1 : ℚ) ≤ returnAmount := by exact_mod_cast hpos
    have hle : returnAmount ≤ truncate (returnAmount * v) :=
      le_truncate hpos.le (le_mul_of_one_le_right (by linarith) hv)
    rw [h] at hle
    have hle' : (returnAmount : ℚ) ≤ ⌊returnAmount * q⌋ := Int.cast_le.mpr hle
    nlinarith

theorem gives_marked (hlow : 0 ≤ slippage.value) (hhigh : slippage.value ≤ 100)
    (hplain : ¬ PlainText (keptShare slippage).text)
    (hhalf : Int.fract (exactMinimum returnAmount slippage) < 1 / 2) :
    SideGives returnAmount slippage ⌊exactMinimum returnAmount slippage⌋ ↔
      returnAmount = 0 ∧ PlainText (scaleText 6 (keptShare slippage).text) := by
  have hnumerator := keptShare_numerator hhigh
  have hsmall := marked_small hnumerator (keptShare_le_one hlow) hplain
  have hkept := keptShare_nonneg hhigh
  rcases parse_marked_operand (show 6 ≠ 0 by decide) hnumerator hplain with
    ⟨hscale, n, hn, hparse⟩ | ⟨hscale, hparse⟩
  · rw [and_iff_left hscale]
    constructor
    · rintro ⟨o, ho, htruncate⟩
      obtain rfl := Except.ok.inj (hparse.symm.trans ho)
      have hone : (1 : ℚ) ≤ scaled ℚ 10 (n : ℤ) 6 := by
        have hcast : (10 : ℚ) ^ 6 ≤ n := by exact_mod_cast hn
        rw [scaled, le_div_iff₀ (by norm_num)]
        push_cast
        linarith
      rw [exactMinimum_eq] at hhalf htruncate
      by_contra hne
      exact misread_share hsmall hone hne hhalf htruncate
    · rintro rfl
      exact ⟨_, hparse, by simp [exactMinimum, truncate]⟩
  · refine iff_of_false ?_ fun h => hscale h.2
    rintro ⟨o, ho, -⟩
    cases hparse.symm.trans ho

end Sides

theorem within_slippage_iff {slippage : DecimalNumber} (returnAmount : Int) (swapAmount : String)
    (routes : List Route) :
    WithinSlippage returnAmount slippage
        (numberText ⟨round (exactMinimum returnAmount slippage), 0⟩)
        (sideMinimum ⟨swapAmount, returnAmount, some routes⟩ slippage) ↔
      Int.fract (exactMinimum returnAmount slippage) < 1 / 2 ∧
        SideGives returnAmount slippage ⌊exactMinimum returnAmount slippage⌋ := by
  have hread := number_numberText ⟨round (exactMinimum returnAmount slippage), 0⟩
  have hvalue : DecimalNumber.value ⟨round (exactMinimum returnAmount slippage), 0⟩ =
      round (exactMinimum returnAmount slippage) := by
    rw [DecimalNumber.value, scaled, pow_zero, div_one]
  rw [hvalue] at hread
  rw [← round_eq_floor_iff]
  constructor
  · rintro ⟨⟨n, hn, hle, hlt⟩, hagrees⟩
    have hround : (round (exactMinimum returnAmount slippage) : ℚ) = n :=
      Number.finite.inj (hread.symm.trans hn)
    have hfloor : ⌊exactMinimum returnAmount slippage⌋ = n :=
      Int.floor_eq_iff.mpr ⟨hle, by linarith⟩
    have heq : round (exactMinimum returnAmount slippage) = ⌊exactMinimum returnAmount slippage⌋ := by
      rw [hfloor]
      exact_mod_cast hround
    rw [heq] at hagrees
    exact ⟨heq, (sideMinimum_iff swapAmount routes _).mp hagrees⟩
  · rintro ⟨heq, hgives⟩
    rw [heq] at hread ⊢
    refine ⟨⟨_, hread, Int.floor_le _, ?_⟩, (sideMinimum_iff swapAmount routes _).mpr hgives⟩
    linarith [Int.lt_floor_add_one (exactMinimum returnAmount slippage)]

theorem rounds_down_iff {slippage : DecimalNumber} (hlow : 0 ≤ slippage.value)
    (hhigh : slippage.value ≤ 100) (returnAmount : Int) :
    RoundsDown returnAmount slippage ↔ Int.fract (exactMinimum returnAmount slippage) < 1 / 2 ∧
      SideGives returnAmount slippage ⌊exactMinimum returnAmount slippage⌋ := by
  by_cases hplain : PlainText (keptShare slippage).text
  · have hscale := (parse_plain_at (show 6 ≠ 0 by decide) hplain).1
    rw [gives_plain hhigh hplain]
    constructor
    · exact fun h => ⟨h.below_half, h.covered, h.negative⟩
    · rintro ⟨hhalf, hcovered, hnegative⟩
      refine ⟨hhalf, ?_, hcovered, hnegative⟩
      split
      · exact hscale
      · exact hplain
  · constructor
    · intro h
      have hread := h.plain
      refine ⟨h.below_half, (gives_marked hlow hhigh hplain h.below_half).mpr ?_⟩
      split at hread
      · rename_i hzero
        exact ⟨hzero, hread⟩
      · exact absurd hread hplain
    · rintro ⟨hhalf, hgives⟩
      obtain ⟨rfl, hread⟩ := (gives_marked hlow hhigh hplain hhalf).mp hgives
      refine ⟨hhalf, hread, ?_, fun h => absurd h (lt_irrefl 0)⟩
      rw [Int.cast_zero, abs_zero, zero_mul]
      exact Int.fract_nonneg _

section Messages

variable {toLowerCase : String → String} {cosmosTokens : List TokenItem} {slippage : DecimalNumber}

theorem zapperRoute_text {route : Route} {returnAmount : Int}
    (hreturn : route.returnAmount = String.ofList (bigIntText returnAmount))
    {z : ZapperRoute (Number ℚ)}
    (h : zapperRoute toLowerCase cosmosTokens slippage.value route = .ok z) :
    z.minimumReceive = numberText ⟨round (exactMinimum returnAmount slippage), 0⟩ := by
  rw [zapperRoute_minimum h, hreturn, String.toList_ofList, number_bigIntText]
  rfl

theorem single_routes_agree (hlow : 0 ≤ slippage.value) (hhigh : slippage.value ≤ 100)
    {amountX amountY : Int} (hx : RoundsDown amountX slippage) (hy : RoundsDown amountY slippage)
    {routeX routeY : Route} (hroutex : routeX.returnAmount = String.ofList (bigIntText amountX))
    (hroutey : routeY.returnAmount = String.ofList (bigIntText amountY)) {swapX swapY : String}
    {zapOutResult : ZapOutResult} {positionIndex : Nat} {message : ZapOutLiquidityResponse}
    (h : buildZapOutMessage toLowerCase cosmosTokens zapOutResult positionIndex
      ⟨swapX, amountX, some [routeX]⟩ ⟨swapY, amountY, some [routeY]⟩ slippage = .ok message) :
    message.routes.map (·.minimumReceive) = [message.minimumReceiveX, message.minimumReceiveY] := by
  have hagrees {amount : Int} (hdown : RoundsDown amount slippage) (swapAmount : String)
      (routes : List Route) :=
    ((within_slippage_iff amount swapAmount routes).mpr
      ((rounds_down_iff hlow hhigh amount).mp hdown)).agrees
  obtain ⟨minimumX, hminimumx, h⟩ := bind_eq_ok.mp h
  obtain ⟨minimumY, hminimumy, h⟩ := bind_eq_ok.mp h
  obtain ⟨zs, hzs, h⟩ := bind_eq_ok.mp h
  change [routeX, routeY].mapM (zapperRoute toLowerCase cosmosTokens slippage.value) = .ok zs at hzs
  rw [List.mapM_cons, List.mapM_cons] at hzs
  obtain ⟨zx, hzx, hzs⟩ := bind_eq_ok.mp hzs
  obtain ⟨rest, hrest, hzs⟩ := bind_eq_ok.mp hzs
  obtain ⟨zy, hzy, hrest⟩ := bind_eq_ok.mp hrest
  rw [hagrees hx, Except.ok.injEq] at hminimumx
  rw [hagrees hy, Except.ok.injEq] at hminimumy
  rw [← Except.ok.inj h, ← Except.ok.inj hzs, ← Except.ok.inj hrest]
  change [zx.minimumReceive, zy.minimumReceive] = [minimumX, minimumY]
  rw [zapperRoute_text hroutex hzx, zapperRoute_text hroutey hzy, hminimumx, hminimumy]

end Messages

theorem minimum_receive_iff (toLowerCase : String → String) (cosmosTokens : List TokenItem)
    (swapAmount : String) (returnAmount : Int) {slippage : DecimalNumber}
    (hlow : 0 ≤ slippage.value) (hhigh : slippage.value ≤ 100) {route : Route}
    (hreturn : route.returnAmount = String.ofList (bigIntText returnAmount))
    {z : ZapperRoute (Number ℚ)}
    (h : zapperRoute toLowerCase cosmosTokens slippage.value route = .ok z) :
    WithinSlippage returnAmount slippage z.minimumReceive
        (sideMinimum ⟨swapAmount, returnAmount, some [route]⟩ slippage) ↔
      RoundsDown returnAmount slippage := by
  rw [zapperRoute_text hreturn h, within_slippage_iff, rounds_down_iff hlow hhigh]

def onePercent : DecimalNumber := ⟨1, 0⟩

def airiRoute (returnAmount : String) : Route := ⟨"10", returnAmount, [airiToInj]⟩

def airiOperations : List (SwapOperation (Number ℚ)) :=
  [.oraiSwap (some (.nativeToken "airi")) (some (.nativeToken "orai")),
    .swapV3 ⟨"orai", "usdt", ⟨.finite 3000000000, .finite 100⟩⟩ true,
    .swapV3 ⟨"inj", "usdt", ⟨.finite 500000000, .finite 10⟩⟩ false]

theorem one_million_within :
    WithinSlippage 1000000 onePercent "990000"
      (sideMinimum ⟨"10", 1000000, some [airiRoute "1000000"]⟩ onePercent) := by
  have hrun : zapperRoute id zapTokens onePercent.value (airiRoute "1000000") =
      .ok ⟨"10", airiOperations, "airi", "990000"⟩ := by decide +kernel
  refine (@minimum_receive_iff id zapTokens "10" 1000000 onePercent (by decide +kernel)
    (by decide +kernel) (airiRoute "1000000") (by decide +kernel) _ hrun).mpr ?_
  exact ⟨by decide +kernel, by decide +kernel, by decide +kernel, by decide⟩

-- 0.99 is rounded up to 1 for the swap, and down to 0 for the side.
theorem one_demands_more :
    (∃ z, zapperRoute id zapTokens onePercent.value (airiRoute "1") = .ok z ∧
      z.minimumReceive = "1") ∧
    sideMinimum ⟨"10", 1, some [airiRoute "1"]⟩ onePercent = .ok "0" ∧
    ¬ WithinSlippage 1 onePercent "1" (sideMinimum ⟨"10", 1, some [airiRoute "1"]⟩ onePercent) := by
  refine ⟨⟨⟨"10", airiOperations, "airi", "1"⟩, by decide +kernel, rfl⟩, by decide +kernel, ?_⟩
  rintro ⟨⟨n, hn, hle, -⟩, -⟩
  have hread : number "1".toList = .finite 1 := by decide +kernel
  have hone : (n : ℚ) = 1 := (Number.finite.inj (hread.symm.trans hn)).symm
  rw [hone] at hle
  exact absurd hle (by decide +kernel)

end OraidexSdk.OraiswapV3
