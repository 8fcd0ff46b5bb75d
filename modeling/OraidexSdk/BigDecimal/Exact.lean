import OraidexSdk.BigDecimal.Alignment

namespace OraidexSdk
open Js ScaledInteger

abbrev Heap.Object (h : Heap) := {r : Ref // r < h.next}

namespace BigDecimal
open Script

theorem valid_object {h : Heap} {x : Ref} (hx : x < h.next) : Valid h (.object x) := by
  rintro r ⟨⟩
  exact hx

-- The immutable reading of a heap: every object keeps the number it denotes,
-- even where its scale is rewritten.
structure Preserves (h h' : Heap) : Prop where
  next_le : h.next ≤ h'.next
  value_eq : ∀ r, r < h.next → (h'.objects r).value = (h.objects r).value

theorem Preserves.refl (h : Heap) : Preserves h h := ⟨le_rfl, fun _ _ => rfl⟩

theorem Preserves.trans {h g k : Heap} (hg : Preserves h g) (gk : Preserves g k) : Preserves h k :=
  ⟨hg.next_le.trans gk.next_le, fun r hr =>
    (gk.value_eq r (hr.trans_le hg.next_le)).trans (hg.value_eq r hr)⟩

theorem touched_value (h : Heap) (scale : Nat) (other : DecimalLike) (r : Ref) :
    (touched h scale other r).value = (h.objects r).value := by
  rw [touched]
  split
  · exact rescale_value _ _
  · rfl

def Exactly (f : Kernel) (op : ℚ → ℚ → ℚ) : Prop :=
  ∀ a b scale, ∃ n, f a b scale = .ok n ∧
    scaled ℚ 10 n scale = op (scaled ℚ 10 a scale) (scaled ℚ 10 b scale)

theorem addKernel_exact : Exactly addKernel (· + ·) :=
  fun a b scale => ⟨a + b, rfl, scaled_add 10 a b scale⟩

theorem subKernel_exact : Exactly subKernel (· - ·) :=
  fun a b scale => ⟨a - b, rfl, scaled_sub 10 a b scale⟩

theorem outcome_object (f : Kernel) (h : Heap) (t : BigDecimal) (v : Ref) :
    outcome f h t (.object v) =
      (fun n => ⟨n, max t.decimals (h.objects v).decimals⟩) <$>
        f (t.rescale (h.objects v).decimals).bigInt ((h.objects v).rescale t.decimals).bigInt
          (max t.decimals (h.objects v).decimals) := by
  simp only [outcome, operand, receiver, combine, rescale_decimals]
  rfl

theorem outcome_exact {f : Kernel} {op : ℚ → ℚ → ℚ} (hf : Exactly f op) (h : Heap)
    (t : BigDecimal) (v : Ref) :
    ∃ x, outcome f h t (.object v) = .ok x ∧
      x.value = op t.value (h.objects v).value ∧
      x.decimals = max t.decimals (h.objects v).decimals := by
  obtain ⟨n, hn, hvalue⟩ := hf (t.rescale (h.objects v).decimals).bigInt
    ((h.objects v).rescale t.decimals).bigInt (max t.decimals (h.objects v).decimals)
  refine ⟨⟨n, max t.decimals (h.objects v).decimals⟩, ?_, ?_, rfl⟩
  · rw [outcome_object, hn]
    rfl
  · rw [value_of_rescaled t (h.objects v).decimals, value_of_rescaled (h.objects v) t.decimals,
      max_comm (h.objects v).decimals]
    exact hvalue

theorem run_exact {f : Kernel} {op : ℚ → ℚ → ℚ} (hf : Exactly f op) {h : Heap} {x y : Ref}
    (hy : y < h.next) :
    ∃ r h', run (do inPlace f (← clone x) (.object y)) h = (.ok r, h') ∧ r < h'.next ∧
      (h'.objects r).value = op (h.objects x).value (h.objects y).value ∧ Preserves h h' := by
  obtain ⟨h', hrun, hnext, hframe, hresult⟩ := run_cloned f (x := x) (valid_object hy)
  obtain ⟨v, hv, hvalue, -⟩ := outcome_exact hf h (h.objects x) y
  rw [hv] at hrun
  refine ⟨h.next, h', hrun, hnext, ?_, hnext.le, fun r hr => ?_⟩
  · rw [hresult v hv, hvalue]
  · rw [hframe r hr, touched_value]

inductive Sum where
  | object (r : Ref)
  | add (a b : Sum)
  | sub (a b : Sum)
deriving DecidableEq, Repr

namespace Sum

def script : Sum → Script Ref
  | object r => pure r
  | add a b => do
      let x ← a.script
      let y ← b.script
      BigDecimal.add x (.object y)
  | sub a b => do
      let x ← a.script
      let y ← b.script
      BigDecimal.sub x (.object y)

def denote (h : Heap) : Sum → ℚ
  | object r => (h.objects r).value
  | add a b => a.denote h + b.denote h
  | sub a b => a.denote h - b.denote h

def Within (h : Heap) : Sum → Prop
  | object r => r < h.next
  | add a b | sub a b => a.Within h ∧ b.Within h

theorem Within.mono {h g : Heap} (hg : h.next ≤ g.next) {e : Sum} (hw : e.Within h) :
    e.Within g := by
  induction e with
  | object r => exact hw.trans_le hg
  | add a b iha ihb => exact ⟨iha hw.1, ihb hw.2⟩
  | sub a b iha ihb => exact ⟨iha hw.1, ihb hw.2⟩

theorem denote_preserved {h g : Heap} (hp : Preserves h g) {e : Sum} (hw : e.Within h) :
    e.denote g = e.denote h := by
  induction e with
  | object r => exact hp.value_eq r hw
  | add a b iha ihb => simp only [denote, iha hw.1, ihb hw.2]
  | sub a b iha ihb => simp only [denote, iha hw.1, ihb hw.2]

def Runs (e : Sum) (h : Heap) : Prop :=
  ∃ r h', run e.script h = (.ok r, h') ∧ r < h'.next ∧ (h'.objects r).value = e.denote h ∧
    Preserves h h'

theorem runs_pair {f : Kernel} {op : ℚ → ℚ → ℚ} (hf : Exactly f op) {a b : Sum} {h : Heap}
    (hb : b.Within h) (iha : a.Runs h) (ihb : ∀ g, b.Within g → b.Runs g) :
    ∃ r h', run (do
        let x ← a.script
        let y ← b.script
        inPlace f (← clone x) (.object y)) h = (.ok r, h') ∧ r < h'.next ∧
      (h'.objects r).value = op (a.denote h) (b.denote h) ∧ Preserves h h' := by
  obtain ⟨x, g, hrunx, hx, hvx, hpg⟩ := iha
  obtain ⟨y, k, hruny, hy, hvy, hpk⟩ := ihb g (hb.mono hpg.next_le)
  obtain ⟨r, h', hrun, hr, hv, hp⟩ := run_exact hf (x := x) hy
  refine ⟨r, h', ?_, hr, ?_, (hpg.trans hpk).trans hp⟩
  · rw [run_bind, hrunx]
    simp only [run_bind k, run_bind g, hruny] at hrun ⊢
    exact hrun
  · rw [hv, hpk.value_eq x hx, hvx, hvy, denote_preserved hpg hb]

-- By recursion on the expression: evaluating a subexpression may rescale the
-- objects that the rest still reads, and Preserves carries their values over.
theorem runs_of_within (e : Sum) : ∀ h, e.Within h → e.Runs h := by
  induction e with
  | object r => exact fun h hw => ⟨r, h, rfl, hw, rfl, Preserves.refl h⟩
  | add a b iha ihb => exact fun h hw => runs_pair addKernel_exact hw.2 (iha h hw.1) ihb
  | sub a b iha ihb => exact fun h hw => runs_pair subKernel_exact hw.2 (iha h hw.1) ihb

theorem contents_value {e : Sum} {h : Heap} (hw : e.Within h) :
    (contents e.script h).map value = .ok (e.denote h) := by
  obtain ⟨r, h', hrun, -, hv, -⟩ := runs_of_within e h hw
  rw [contents, hrun]
  exact congrArg _ hv

end Sum

theorem contents_object {f : Kernel} {op : ℚ → ℚ → ℚ} (hf : Exactly f op) {h : Heap}
    (x y : h.Object) :
    ∃ v, contents (do inPlace f (← clone x) (.object y)) h = .ok v ∧
      v.value = op (h.objects x).value (h.objects y).value ∧
      v.decimals = max (h.objects x).decimals (h.objects y).decimals := by
  rw [contents_cloned f (valid_object y.property)]
  exact outcome_exact hf h (h.objects x) y

theorem add_sub_exact (h : Heap) (x y z : h.Object) :
    (∃ v, contents (add x (.object y)) h = .ok v ∧
      v.value = (h.objects x).value + (h.objects y).value ∧
      v.decimals = max (h.objects x).decimals (h.objects y).decimals) ∧
    (∃ v, contents (sub x (.object y)) h = .ok v ∧
      v.value = (h.objects x).value - (h.objects y).value ∧
      v.decimals = max (h.objects x).decimals (h.objects y).decimals) ∧
    (contents (add x (.object y)) h).map value = (contents (add y (.object x)) h).map value ∧
    (contents (do add (← add x (.object y)) (.object z)) h).map value =
      (contents (do add x (.object (← add y (.object z)))) h).map value ∧
    (contents (do sub (← add x (.object y)) (.object y)) h).map value =
      .ok (h.objects x).value := by
  have hx := x.property
  have hy := y.property
  have hz := z.property
  have hcomm₁ := Sum.contents_value (e := .add (.object x) (.object y)) ⟨hx, hy⟩
  have hcomm₂ := Sum.contents_value (e := .add (.object y) (.object x)) ⟨hy, hx⟩
  have hassoc₁ := Sum.contents_value
    (e := .add (.add (.object x) (.object y)) (.object z)) ⟨⟨hx, hy⟩, hz⟩
  have hassoc₂ := Sum.contents_value
    (e := .add (.object x) (.add (.object y) (.object z))) ⟨hx, hy, hz⟩
  have hcancel := Sum.contents_value
    (e := .sub (.add (.object x) (.object y)) (.object y)) ⟨⟨hx, hy⟩, hy⟩
  simp only [Sum.script, Sum.denote, pure_bind] at hcomm₁ hcomm₂ hassoc₁ hassoc₂ hcancel
  refine ⟨contents_object addKernel_exact x y, contents_object subKernel_exact x y, ?_, ?_, ?_⟩
  · rw [hcomm₁, hcomm₂, add_comm]
  · rw [hassoc₁, hassoc₂, add_assoc]
  · rw [hcancel, add_sub_cancel_right]

end BigDecimal
end OraidexSdk
