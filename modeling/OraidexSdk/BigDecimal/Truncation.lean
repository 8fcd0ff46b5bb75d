import OraidexSdk.BigDecimal.Exact

namespace OraidexSdk.BigDecimal
open Js ScaledInteger Script

def neg (x : BigDecimal) : BigDecimal := ⟨-x.bigInt, x.decimals⟩

@[simp] theorem neg_decimals (x : BigDecimal) : x.neg.decimals = x.decimals := rfl

theorem rescale_neg (x : BigDecimal) (scale : Nat) : x.neg.rescale scale = (x.rescale scale).neg := by
  by_cases hlt : x.decimals < scale
  · simp [rescale, neg, if_pos hlt]
  · simp [rescale, neg, if_neg hlt]

theorem value_eq_zero (x : BigDecimal) : x.value = 0 ↔ x.bigInt = 0 := scaled_eq_zero 10

section Kernels

variable {h : Heap} {t : BigDecimal} {v : Ref}

theorem outcome_mul :
    outcome mulKernel h t (.object v) =
      .ok ⟨((t.rescale (h.objects v).decimals).bigInt *
          ((h.objects v).rescale t.decimals).bigInt).tdiv (10 ^ max t.decimals (h.objects v).decimals),
        max t.decimals (h.objects v).decimals⟩ := by
  rw [outcome_object]
  rfl

theorem rescale_bigInt_eq_zero (x : BigDecimal) (scale : Nat) :
    (x.rescale scale).bigInt = 0 ↔ x.value = 0 := by
  rw [← value_eq_zero, rescale_value]

theorem outcome_div_zero (hv : (h.objects v).value = 0) :
    outcome divKernel h t (.object v) = .error .rangeError := by
  have hb := (rescale_bigInt_eq_zero (h.objects v) t.decimals).mpr hv
  rw [outcome_object, divKernel, if_pos hb]
  rfl

theorem outcome_div (hv : (h.objects v).value ≠ 0) :
    outcome divKernel h t (.object v) =
      .ok ⟨((t.rescale (h.objects v).decimals).bigInt *
          10 ^ max t.decimals (h.objects v).decimals).tdiv
            ((h.objects v).rescale t.decimals).bigInt,
        max t.decimals (h.objects v).decimals⟩ := by
  have hb := (rescale_bigInt_eq_zero (h.objects v) t.decimals).not.mpr hv
  rw [outcome_object, divKernel, if_neg hb]
  rfl

theorem outcome_mul_truncated :
    ∃ x, outcome mulKernel h t (.object v) = .ok x ∧
      x.decimals = max t.decimals (h.objects v).decimals ∧
      x.value = truncateTo 10 (max t.decimals (h.objects v).decimals)
        (t.value * (h.objects v).value) := by
  refine ⟨_, outcome_mul, rfl, ?_⟩
  rw [value_of_rescaled t (h.objects v).decimals, value_of_rescaled (h.objects v) t.decimals,
    max_comm (h.objects v).decimals, truncateTo_scaled_mul]
  rfl

theorem outcome_div_truncated (hv : (h.objects v).value ≠ 0) :
    ∃ x, outcome divKernel h t (.object v) = .ok x ∧
      x.decimals = max t.decimals (h.objects v).decimals ∧
      x.value = truncateTo 10 (max t.decimals (h.objects v).decimals)
        (t.value / (h.objects v).value) := by
  refine ⟨_, outcome_div hv, rfl, ?_⟩
  rw [value_of_rescaled t (h.objects v).decimals, value_of_rescaled (h.objects v) t.decimals,
    max_comm (h.objects v).decimals, truncateTo_scaled_div]
  rfl

theorem outcome_mul_comm (w : Ref) :
    outcome mulKernel h (h.objects w) (.object v) = outcome mulKernel h (h.objects v) (.object w) := by
  rw [outcome_mul, outcome_mul, max_comm (h.objects v).decimals, Int.mul_comm]

end Kernels

def Odd (f : Kernel) : Prop :=
  ∀ a b scale, f (-a) b scale = (-·) <$> f a b scale ∧ f a (-b) scale = (-·) <$> f a b scale

theorem mulKernel_odd : Odd mulKernel := by
  intro a b scale
  simp only [mulKernel, Int.neg_mul, Int.mul_neg, Int.neg_tdiv]
  exact ⟨rfl, rfl⟩

theorem divKernel_odd : Odd divKernel := by
  intro a b scale
  by_cases hb : b = 0
  · simp only [divKernel, hb, neg_zero, if_pos]
    exact ⟨rfl, rfl⟩
  · simp only [divKernel, if_neg hb, if_neg (neg_ne_zero.mpr hb), Int.neg_mul, Int.neg_tdiv,
      Int.tdiv_neg]
    exact ⟨rfl, rfl⟩

theorem outcome_neg {f : Kernel} (hf : Odd f) {h : Heap} {t t' : BigDecimal} {v v' : Ref}
    (hs : (t' = t.neg ∧ h.objects v' = h.objects v) ∨
      (t' = t ∧ h.objects v' = (h.objects v).neg)) :
    outcome f h t' (.object v') = neg <$> outcome f h t (.object v) := by
  obtain ⟨hl, hr⟩ := hf (t.rescale (h.objects v).decimals).bigInt
    ((h.objects v).rescale t.decimals).bigInt (max t.decimals (h.objects v).decimals)
  rw [outcome_object, outcome_object]
  rcases hs with ⟨rfl, hv⟩ | ⟨rfl, hv⟩
  · simp only [hv, rescale_neg, neg_decimals]
    change _ <$> f (-(t.rescale (h.objects v).decimals).bigInt) _ _ = _
    rw [hl]
    simp only [Functor.map_map]
    rfl
  · simp only [hv, rescale_neg, neg_decimals]
    change _ <$> f _ (-((h.objects v).rescale t'.decimals).bigInt) _ = _
    rw [hr]
    simp only [Functor.map_map]
    rfl

theorem contents_neg {f : Kernel} (hf : Odd f) {h : Heap} (x x' y y' : h.Object)
    (hs : (h.objects x' = (h.objects x).neg ∧ h.objects y' = h.objects y) ∨
      (h.objects x' = h.objects x ∧ h.objects y' = (h.objects y).neg)) :
    contents (do inPlace f (← clone x') (.object y')) h =
      neg <$> contents (do inPlace f (← clone x) (.object y)) h := by
  rw [contents_cloned f (valid_object y'.property), contents_cloned f (valid_object y.property)]
  exact outcome_neg hf hs

theorem div_zero_frame (h : Heap) (x y : h.Object) (hy : (h.objects y).value = 0) :
    ∃ h', run (div x (.object y)) h = (.error .rangeError, h') ∧ h'.objects x = h.objects x := by
  obtain ⟨h', hrun, -, hframe, -⟩ := run_cloned divKernel (x := x.val) (valid_object y.property)
  rw [outcome_div_zero hy] at hrun
  refine ⟨h', hrun, ?_⟩
  rw [hframe x x.property, touched]
  split
  · exact rescale_of_le le_rfl
  · rfl

theorem mul_div_truncated (h : Heap) (x y : h.Object) :
    (∃ v, contents (mul x (.object y)) h = .ok v ∧
      v.decimals = max (h.objects x).decimals (h.objects y).decimals ∧
      v.value = truncateTo 10 (max (h.objects x).decimals (h.objects y).decimals)
        ((h.objects x).value * (h.objects y).value)) ∧
    ((h.objects y).value ≠ 0 → ∃ v, contents (div x (.object y)) h = .ok v ∧
      v.decimals = max (h.objects x).decimals (h.objects y).decimals ∧
      v.value = truncateTo 10 (max (h.objects x).decimals (h.objects y).decimals)
        ((h.objects x).value / (h.objects y).value)) ∧
    contents (mul x (.object y)) h = contents (mul y (.object x)) h ∧
    (∀ x' y' : h.Object, (h.objects x' = (h.objects x).neg ∧ h.objects y' = h.objects y) ∨
        (h.objects x' = h.objects x ∧ h.objects y' = (h.objects y).neg) →
      contents (mul x' (.object y')) h = neg <$> contents (mul x (.object y)) h ∧
      contents (div x' (.object y')) h = neg <$> contents (div x (.object y)) h) ∧
    ((h.objects y).value = 0 → ∃ h', run (div x (.object y)) h = (.error .rangeError, h') ∧
      h'.objects x = h.objects x) := by
  have hmul (a b : h.Object) :
      contents (mul a (.object b)) h = outcome mulKernel h (h.objects a) (.object b) :=
    contents_cloned mulKernel (valid_object b.property)
  have hdiv : contents (div x (.object y)) h = outcome divKernel h (h.objects x) (.object y) :=
    contents_cloned divKernel (valid_object y.property)
  refine ⟨?_, ?_, ?_, ?_, div_zero_frame h x y⟩
  · rw [hmul]
    exact outcome_mul_truncated
  · intro hy
    rw [hdiv]
    exact outcome_div_truncated hy
  · rw [hmul, hmul, outcome_mul_comm]
  · intro x' y' hs
    exact ⟨contents_neg mulKernel_odd x x' y y' hs, contents_neg divKernel_odd x x' y y' hs⟩

end OraidexSdk.BigDecimal
