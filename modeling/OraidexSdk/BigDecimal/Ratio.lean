import OraidexSdk.BigDecimal.Operands
import OraidexSdk.BigDecimal.Truncation
import OraidexSdk.Decimal.Truncation
import OraidexSdk.Loops.Outcome

namespace OraidexSdk.BigDecimal
open Js ScaledInteger Script Outcome

structure RatioTruncated (h : Heap) (x n m : Ref) (v : BigDecimal) : Prop where
  value : v.value = truncateTo 10 v.decimals
    ((h.objects x).value * (h.objects n).value / (h.objects m).value)
  same : (h.objects n).value = (h.objects m).value → v.value = (h.objects x).value

def productScale (h : Heap) (x n : Ref) : Nat := max (h.objects x).decimals (h.objects n).decimals

def ratioScale (h : Heap) (x n m : Ref) : Nat :=
  max (productScale h x n) (h.objects m).decimals

-- What the multiplication cuts off, divided by m, is no more than what the exact
-- ratio has beyond the scale of the result.
def ProductCovered (h : Heap) (x n m : Ref) : Prop :=
  lost 10 (productScale h x n) ((h.objects x).value * (h.objects n).value) / |(h.objects m).value| ≤
    lost 10 (ratioScale h x n m)
      ((h.objects x).value * (h.objects n).value / (h.objects m).value)

instance (h : Heap) (x n m : Ref) : Decidable (ProductCovered h x n m) :=
  inferInstanceAs (Decidable (_ ≤ _))

section Ratio

variable {h : Heap} {x n m : Ref}

-- m may be n itself, which the multiplication has aligned with x.
theorem touched_decimals :
    max (productScale h x n) (touched h (h.objects x).decimals (.object n) m).decimals =
      ratioScale h x n m := by
  rw [touched, ratioScale]
  split
  · rename_i heq
    obtain rfl : n = m := by simpa using heq
    rw [rescale_decimals, productScale]
    omega
  · rfl

theorem ratioOutcome_truncated (hm : (h.objects m).value ≠ 0) :
    ∃ v, ratioOutcome h (h.objects x) (.object n) (.object m) = .ok v ∧
      v.decimals = ratioScale h x n m ∧
      v.value = truncateTo 10 (ratioScale h x n m)
        (truncateTo 10 (productScale h x n) ((h.objects x).value * (h.objects n).value) /
          (h.objects m).value) := by
  obtain ⟨p, hp, hpdecimals, hpvalue⟩ := outcome_mul_truncated (h := h) (t := h.objects x) (v := n)
  let g := afterNumerator h (h.objects x).decimals (.object n)
  have hgm : (g.objects m).value = (h.objects m).value := touched_value h _ _ m
  obtain ⟨v, hv, hvdecimals, hvvalue⟩ :=
    outcome_div_truncated (h := g) (t := p) (v := m) (hgm ▸ hm)
  have hscale : max p.decimals (g.objects m).decimals = ratioScale h x n m := by
    rw [hpdecimals]
    exact touched_decimals
  rw [hscale] at hvdecimals hvvalue
  refine ⟨v, ?_, hvdecimals, ?_⟩
  · rw [ratioOutcome, if_neg (by simp [isZeroLiteral])]
    exact bind_eq_ok.mpr ⟨p, hp, hv⟩
  · rw [hvvalue, hpvalue, hgm]
    rfl

theorem ratio_same {v : BigDecimal} (hm : (h.objects m).value ≠ 0)
    (hdecimals : (h.objects x).decimals ≤ v.decimals)
    (hvalue : v.value = truncateTo 10 v.decimals
      ((h.objects x).value * (h.objects n).value / (h.objects m).value))
    (hsame : (h.objects n).value = (h.objects m).value) : v.value = (h.objects x).value := by
  rw [hvalue, hsame, mul_div_cancel_right₀ _ hm]
  exact truncateTo_scaled 10 hdecimals (h.objects x).bigInt

end Ratio

theorem mulByRatio_truncated_iff (h : Heap) (x n m : h.Object) (hm : (h.objects m).value ≠ 0) :
    (∃ v, contents (mulByRatio x (.object n) (.object m)) h = .ok v ∧ RatioTruncated h x n m v) ↔
      ProductCovered h x n m := by
  have hwithin : (Arith.mulByRatio (.object n) (.object m)).Within h := by
    intro a ha
    rcases List.mem_pair.mp ha with rfl | rfl
    · exact valid_object n.property
    · exact valid_object m.property
  have hcontents : contents (mulByRatio x (.object n) (.object m)) h =
      ratioOutcome h (h.objects x) (.object n) (.object m) :=
    @Arith.contents_script h x.val _ hwithin
  obtain ⟨v, hv, hdecimals, hvalue⟩ := ratioOutcome_truncated (x := x.val) (n := n.val) hm
  have hnested := truncateTo_div_truncateTo (K := ℚ) 10 (productScale h x n) (ratioScale h x n m)
    ((h.objects x).value * (h.objects n).value) hm
  rw [ProductCovered, ← hnested, hcontents, hv]
  constructor
  · rintro ⟨w, hw, htruncated, -⟩
    obtain rfl := Except.ok.inj hw
    rw [← hvalue, ← hdecimals]
    exact htruncated
  · intro hcovered
    have htruncated := hvalue.trans hcovered
    rw [← hdecimals] at htruncated
    have hle : (h.objects x).decimals ≤ v.decimals := by
      rw [hdecimals, ratioScale, productScale]
      omega
    exact ⟨v, rfl, htruncated, ratio_same hm hle htruncated⟩

theorem twelve_by_ten_tenths :
    let h : Heap := ⟨2, fun r => if r = 0 then ⟨12000000, 6⟩ else ⟨10000000, 6⟩⟩
    ∃ v, contents (mulByRatio 0 (.object 1) (.object 1)) h = .ok v ∧ RatioTruncated h 0 1 1 v := by
  intro h
  have hm : (h.objects 1).value ≠ 0 := (value_eq_zero _).not.mpr (by decide)
  exact (mulByRatio_truncated_iff h ⟨0, by decide⟩ ⟨1, by decide⟩ ⟨1, by decide⟩ hm).mpr
    (by decide +kernel)

-- A millionth times one half is nothing at scale 6, and stays so.
theorem millionth_by_halves_vanishes :
    let h : Heap := ⟨2, fun r => if r = 0 then ⟨1, 6⟩ else ⟨500000, 6⟩⟩
    (h.objects 1).value ≠ 0 ∧
      ¬ ∃ v, contents (mulByRatio 0 (.object 1) (.object 1)) h = .ok v ∧
        RatioTruncated h 0 1 1 v := by
  intro h
  refine ⟨(value_eq_zero _).not.mpr (by decide), ?_⟩
  rintro ⟨v, hv, -, hsame⟩
  have hrun : contents (mulByRatio 0 (.object 1) (.object 1)) h = .ok ⟨0, 6⟩ := by decide
  obtain rfl := Except.ok.inj (hv.symm.trans hrun)
  exact absurd (hsame rfl) (by decide +kernel)

end OraidexSdk.BigDecimal
