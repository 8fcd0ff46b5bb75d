import OraidexSdk.Message.Nesting
import OraidexSdk.BigDecimal.Flooring

namespace OraidexSdk.Message
open Js Outcome ChainMsg DigitText DecimalLiteral ScaledInteger BigDecimal

structure Slippage.Renders (slippage : Slippage) (f : ℚ) : Prop where
  inside : slippage.outside = false
  plain : readDecimal slippage.factor.toList = some f
  pos : 0 < f
  lt_one : f < 1

def IsAmount (text : String) (R : Nat) : Prop :=
  text.toList ≠ [] ∧ AllDigits text.toList ∧ numeral text.toList = R

def guardedAmount (path : Path) : String :=
  ((bridgeAction path).map (·.tokenInAmount)).getD path.tokenOutAmount

structure Guarded (f : ℚ) (path : Path) (supports : Action → Bool) (set : Except JsError String) :
    Prop where
  sets : (∀ a ∈ path.actions, supports a = true) → ∀ R, IsAmount (guardedAmount path) R →
    ∃ m : Nat, set = .ok m.repr ∧ m = ⌊f * R⌋₊ ∧ m ≤ R ∧ (0 < R → m < R)
  refuses : (∃ a ∈ path.actions, supports a = false) → ∃ e, set = .error e

section Factor

variable {slippage : Slippage} {f : ℚ} (hs : slippage.Renders f)
include hs

theorem floor_bounds (R : Nat) : ⌊f * R⌋₊ ≤ R ∧ (0 < R → ⌊f * R⌋₊ < R) := by
  have hR : (0 : ℚ) ≤ R := Nat.cast_nonneg R
  have hnonneg : 0 ≤ f * R := mul_nonneg hs.pos.le hR
  constructor
  · exact Nat.floor_le_of_le (mul_le_of_le_one_left hR hs.lt_one.le)
  · intro hpos
    rw [Nat.floor_lt hnonneg]
    exact mul_lt_of_lt_one_left (Nat.cast_pos.mpr hpos) hs.lt_one

theorem slippedAmount_eq {amount : String} {R : Nat} (hamount : IsAmount amount R) :
    slippedAmount slippage amount = .ok (Nat.repr ⌊f * R⌋₊) := by
  obtain ⟨hne, hdigits, rfl⟩ := hamount
  obtain ⟨L, hL, rfl⟩ := read_iff.mp hs.plain
  have hproduct := outcome_wholeNumber hdigits hne ⟨0, fun _ => ⟨0, 0⟩⟩ (ofLiteral L none)
  rw [String.ofList_toList] at hproduct
  have hvalue : ((ofLiteral L none).times (numeral amount.toList)).value =
      L.value * numeral amount.toList := by
    rw [times_value, value_ofLiteral_default]
  have hnonneg : 0 ≤ ((ofLiteral L none).times (numeral amount.toList)).value := by
    rw [hvalue]
    exact mul_nonneg hs.pos.le (Nat.cast_nonneg _)
  have hpart := integer_part (x := (ofLiteral L none).times (numeral amount.toList))
    (decimals_pos L) hnonneg
  rw [hvalue] at hpart
  rw [slippedAmount, contents_product L hL, hproduct]
  change Except.ok (String.ofList _) = _
  rw [hpart]
  rfl

theorem minimumReceiveFor_ok {amount : String} {R : Nat} (hamount : IsAmount amount R) :
    minimumReceiveFor slippage (.ok amount) = .ok (Nat.repr ⌊f * R⌋₊) := by
  rw [minimumReceiveFor, hs.inside, if_neg Bool.false_ne_true]
  exact slippedAmount_eq hs hamount

theorem guarded_of {path : Path} {supports : Action → Bool} {amount : Except JsError String}
    (hok : (∃ t, amount = .ok t) ↔ ∀ a ∈ path.actions, supports a = true)
    (hread : ∀ t, amount = .ok t → t = guardedAmount path) :
    Guarded f path supports (minimumReceiveFor slippage amount) := by
  constructor
  · intro hall R hR
    obtain ⟨t, ht⟩ := hok.mpr hall
    rw [ht, hread t ht]
    obtain ⟨hle, hlt⟩ := floor_bounds hs R
    exact ⟨⌊f * R⌋₊, minimumReceiveFor_ok hs hR, rfl, hle, hlt⟩
  · rintro ⟨a, ha, hunsupported⟩
    have hnot : ¬ ∃ t, amount = .ok t := by
      rw [hok]
      intro hall
      rw [hall a ha] at hunsupported
      cases hunsupported
    obtain ⟨e, he⟩ := error_of_not_ok hnot
    refine ⟨e, ?_⟩
    rw [he, minimumReceiveFor, hs.inside, if_neg Bool.false_ne_true]
    rfl

end Factor

section Visited

variable {env : Environment} {this : ChainMsg}

theorem guardedAmount_of_read {bridge : Option BridgeMsgInfo}
    (hread : BridgeRead env this this.path.actions bridge) :
    (bridge.map (·.amount)).getD this.path.tokenOutAmount = guardedAmount this.path := by
  rcases hread with ⟨hnone, rfl⟩ | ⟨a, b, ha, -, rfl⟩
  · rw [guardedAmount, bridgeAction, hnone]
    rfl
  · rw [guardedAmount, bridgeAction, ha]
    rfl

theorem guarded_of_visits {slippage : Slippage} {f : ℚ} (hs : slippage.Renders f)
    {supports : Action → Bool} {visit} (hv : Visits env this visit)
    (haccepts : ∀ s a, (∃ t, visit s a = .ok t) ↔ supports a = true) :
    Guarded f this.path supports (minimumReceiveFor slippage do
      let (_, bridgeInfo) ← this.path.actions.foldlM visit ([], none)
      return (bridgeInfo.map (·.amount)).getD this.path.tokenOutAmount) := by
  apply guarded_of hs
  · rw [← foldlM_ok_iff haccepts (s := ([], none))]
    constructor
    · rintro ⟨t, ht⟩
      obtain ⟨u, hu, -⟩ := bind_eq_ok.mp ht
      exact ⟨u, hu⟩
    · rintro ⟨u, hu⟩
      exact ⟨_, bind_eq_ok.mpr ⟨u, hu, rfl⟩⟩
  · intro t ht
    obtain ⟨⟨ops, bridge⟩, hu, ht⟩ := bind_eq_ok.mp ht
    cases ht
    exact guardedAmount_of_read (hv.run hu).2

theorem appendSwap_ok_iff {a : Action} (s : List SwapOperation × Option BridgeMsgInfo) :
    (∃ t, (do return (s.1 ++ (← swapAction a), s.2) : Except JsError _) = .ok t) ↔
      a.swapInfo.isSome = true := by
  simp only [swapAction]
  cases a.swapInfo with
  | none => exact error_iff_false _
  | some infos => exact ok_iff_true _

end Visited

namespace OraichainMsg

def supports (a : Action) : Bool :=
  match a.type with
  | .swap => a.swapInfo.isSome
  | .convert => true
  | .bridge => a.bridgeInfo.isSome
  | .other _ => false

theorem visitAction_ok_iff (env : Environment) (this : OraichainMsg)
    (s : List SwapOperation × Option BridgeMsgInfo) (a : Action) :
    (∃ t, visitAction env this s a = .ok t) ↔ supports a = true := by
  rw [visitAction, supports]
  cases a.type with
  | swap => exact appendSwap_ok_iff s
  | convert => exact ok_iff_true _
  | bridge =>
    cases a.bridgeInfo with
    | none => exact error_iff_false _
    | some b => exact ok_iff_true _
  | other name => exact error_iff_false _

end OraichainMsg

namespace OsmosisMsg

def supports (a : Action) : Bool :=
  match a.type with
  | .swap => a.swapInfo.isSome
  | .bridge => a.bridgeInfo.any (·.port = "transfer")
  | _ => false

theorem visitAction_ok_iff (env : Environment) (this : OsmosisMsg)
    (s : List SwapOperation × Option BridgeMsgInfo) (a : Action) :
    (∃ t, visitAction env this s a = .ok t) ↔ supports a = true := by
  rw [visitAction, supports]
  cases a.type with
  | swap => exact appendSwap_ok_iff s
  | convert => exact error_iff_false _
  | bridge =>
    cases a.bridgeInfo with
    | none => exact error_iff_false _
    | some b =>
      by_cases hport : b.port = "transfer"
      · simp [hport]
      · simp [hport, generateError]
  | other name => exact error_iff_false _

end OsmosisMsg

namespace CosmosMsg

def supports (a : Action) : Bool :=
  a.type = .bridge ∧ a.bridgeInfo.any (·.port = "transfer")

variable {env : Environment} {this : CosmosMsg}

theorem getBridgeInfo_ok_iff :
    (∃ bridge, getBridgeInfo env this = .ok bridge) ↔
      ∀ a ∈ this.path.actions, supports a = true := by
  cases hactions : this.path.actions with
  | nil =>
    obtain ⟨init, last, hsplit, -⟩ := actions_split this.valid
    rw [hactions] at hsplit
    exact absurd hsplit.symm (by simp)
  | cons a rest =>
    rw [getBridgeInfo, findBridgeInfo, hactions]
    by_cases htype : a.type = .bridge
    · obtain rfl := actions_of_bridge_first this.valid hactions htype
      rw [List.forall_mem_singleton, supports]
      simp only [htype, true_and]
      cases a.bridgeInfo with
      | none => exact error_iff_false _
      | some b =>
        by_cases hport : b.port = "transfer"
        · refine ⟨fun _ => by simp [hport], fun _ => ⟨bridgeMsgInfo env this.toChainMsg a b, ?_⟩⟩
          exact if_neg (not_not.mpr hport)
        · simp [hport, bridgeMsgInfo, bind_eq_ok, generateError]
    · simp [htype, supports, bind_eq_ok, generateError]

theorem guarded_of_bridge {slippage : Slippage} {f : ℚ} (hs : slippage.Renders f) :
    Guarded f this.path supports
      (minimumReceiveFor slippage ((·.amount) <$> getBridgeInfo env this)) := by
  apply guarded_of hs
  · rw [← @getBridgeInfo_ok_iff env this]
    constructor
    · rintro ⟨t, ht⟩
      obtain ⟨bridge, hbridge, -⟩ := map_eq_ok.mp ht
      exact ⟨bridge, hbridge⟩
    · rintro ⟨bridge, hbridge⟩
      exact ⟨_, map_eq_ok.mpr ⟨bridge, hbridge, rfl⟩⟩
  · intro t ht
    obtain ⟨bridge, hbridge, rfl⟩ := map_eq_ok.mp ht
    obtain ⟨a, b, ha, hb, -, rfl, -⟩ := getBridgeInfo_reads hbridge
    exact guardedAmount_of_read (.inr ⟨a, b, ha, hb, rfl⟩)

end CosmosMsg

theorem map_of_set {M : Type} {build : String → M} {read : M → String}
    (h : ∀ m, read (build m) = m) (x : Except JsError String) :
    (read <$> do return build (← x)) = x := by
  cases x with
  | error e => rfl
  | ok m => exact congrArg Except.ok (h m)

theorem slippage_guard {slippage : Slippage} {f : ℚ} (hs : slippage.Renders f) (env : Environment) :
    (∀ this : OraichainMsg, Guarded f this.path OraichainMsg.supports
      ((·.minimumReceive) <$> this.setMinimumReceiveForSwap env slippage)) ∧
    (∀ this : OsmosisMsg, Guarded f this.path OsmosisMsg.supports
      ((·.minimumReceive) <$> this.setMinimumReceiveForSwap env slippage)) ∧
    (∀ this : CosmosMsg, Guarded f this.path CosmosMsg.supports
      ((·.minimumReceive) <$> this.setMinimumReceiveForSwap env slippage)) := by
  refine ⟨fun this => ?_, fun this => ?_, fun this => ?_⟩
  · rw [OraichainMsg.setMinimumReceiveForSwap, map_of_set (fun _ => rfl)]
    exact guarded_of_visits hs OraichainMsg.visits (OraichainMsg.visitAction_ok_iff env this)
  · rw [OsmosisMsg.setMinimumReceiveForSwap, map_of_set (fun _ => rfl)]
    exact guarded_of_visits hs OsmosisMsg.visits (OsmosisMsg.visitAction_ok_iff env this)
  · rw [CosmosMsg.setMinimumReceiveForSwap, map_of_set (fun _ => rfl)]
    exact CosmosMsg.guarded_of_bridge hs

theorem exampleSlippage_renders : exampleSlippage.Renders (99 / 100) := by
  let L : Literal := ⟨.unsigned, ['0'], some ['9', '9'], by decide, by decide, by decide⟩
  have hvalue : L.value = 99 / 100 := by
    have hnum : numeral ['0', '9', '9'] = 99 := by decide
    change scaled ℚ 10 (1 * numeral ['0', '9', '9']) 2 = 99 / 100
    rw [hnum, scaled]
    norm_num
  refine ⟨rfl, ?_, by norm_num, by norm_num⟩
  rw [← hvalue, ← read_text L]
  rfl

def swapMsgOnOraichain : OraichainMsg :=
  ⟨⟨swapOnOraichain, "1", "orai1user", "orai1user", .empty, rfl, by decide, by decide⟩, "", none, rfl⟩

theorem swap_guarded :
    (·.minimumReceive) <$> swapMsgOnOraichain.setMinimumReceiveForSwap exampleEnvironment
      exampleSlippage = .ok "49" := by
  have hguard := (slippage_guard exampleSlippage_renders exampleEnvironment).1 swapMsgOnOraichain
  have hamount : IsAmount (guardedAmount swapMsgOnOraichain.path) 50 :=
    ⟨by decide, by decide, by decide⟩
  obtain ⟨m, hset, hfloor, -, -⟩ := hguard.sets (by decide) 50 hamount
  have hm : m = 49 := by
    rw [hfloor]
    norm_num
  rw [hset, hm]
  rfl

def convertOnOsmosis : Path :=
  ⟨"osmosis-1", "uosmo", "100", "orai", "50", "osmosis-1",
    [⟨.convert, "uosmo", "100", "orai", "50", none, none, none⟩]⟩

def convertMsgOnOsmosis : OsmosisMsg :=
  ⟨⟨convertOnOsmosis, "1", "osmo1user", "osmo1user", .empty, rfl, by decide, by decide⟩, rfl⟩

theorem convert_on_osmosis_refused :
    exampleSlippage.Renders (99 / 100) ∧
      IsAmount (guardedAmount convertMsgOnOsmosis.path) 50 ∧
      (·.minimumReceive) <$> convertMsgOnOsmosis.setMinimumReceiveForSwap exampleEnvironment
        exampleSlippage = .error (.ex "Only support swap + bridge on Osmosis") :=
  ⟨exampleSlippage_renders, ⟨by decide, by decide, by decide⟩, rfl⟩

end OraidexSdk.Message
