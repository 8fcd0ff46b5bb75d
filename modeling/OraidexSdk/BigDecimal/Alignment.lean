import OraidexSdk.BigDecimal.Model
import Mathlib.Data.Rat.Floor

namespace OraidexSdk.BigDecimal
open Js ScaledInteger Script

def rescale (x : BigDecimal) (scale : Nat) : BigDecimal :=
  if x.decimals < scale then ⟨x.bigInt * 10 ^ (scale - x.decimals), scale⟩ else x

@[simp] theorem rescale_decimals (x : BigDecimal) (scale : Nat) :
    (x.rescale scale).decimals = max x.decimals scale := by
  rw [rescale]
  split
  · rename_i h
    exact (max_eq_right h.le).symm
  · rename_i h
    exact (max_eq_left (not_lt.mp h)).symm

theorem rescale_of_le {x : BigDecimal} {scale : Nat} (h : scale ≤ x.decimals) :
    x.rescale scale = x := if_neg (by omega)

@[simp] theorem rescale_value (x : BigDecimal) (scale : Nat) : (x.rescale scale).value = x.value := by
  rw [rescale]
  split
  · rename_i h
    have hs := scaled_shift (K := ℚ) 10 x.bigInt x.decimals (scale - x.decimals)
    rw [Nat.add_sub_cancel' h.le] at hs
    exact hs
  · rfl

theorem value_of_rescaled (x : BigDecimal) (scale : Nat) :
    x.value = scaled ℚ 10 (x.rescale scale).bigInt (max x.decimals scale) := by
  rw [← rescale_value x scale, value, rescale_decimals]

def operand (h : Heap) (this : BigDecimal) : DecimalLike → Except JsError BigDecimal
  | .object v => .ok ((h.objects v).rescale this.decimals)
  | literal => construct h (some this.decimals) literal

def receiver (h : Heap) (this : BigDecimal) : DecimalLike → BigDecimal
  | .object v => this.rescale (h.objects v).decimals
  | _ => this

def combine (f : Kernel) (t o : BigDecimal) : Except JsError BigDecimal :=
  (fun n => ⟨n, t.decimals⟩) <$> f t.bigInt o.bigInt t.decimals

def outcome (f : Kernel) (h : Heap) (this : BigDecimal) (other : DecimalLike) :
    Except JsError BigDecimal := do
  combine f (receiver h this other) (← operand h this other)

def touched (h : Heap) (scale : Nat) (other : DecimalLike) (r : Ref) : BigDecimal :=
  if other = .object r then (h.objects r).rescale scale else h.objects r

def Valid (h : Heap) (other : DecimalLike) : Prop := ∀ r, other = .object r → r < h.next

section InPlace

variable (f : Kernel) {h : Heap} {this : Ref}

theorem run_align {v : Ref} (hne : v ≠ this) :
    run (processDecimal this (.object v)) h =
      (.ok v, ⟨h.next, Function.update
        (Function.update h.objects v ((h.objects v).rescale (h.objects this).decimals))
        this ((h.objects this).rescale (h.objects v).decimals)⟩) := by
  rcases lt_trichotomy (h.objects v).decimals (h.objects this).decimals with hlt | heq | hgt
  · have hn : ¬ (h.objects v).decimals > (h.objects this).decimals := by omega
    simp [processDecimal, hn, hlt, rescale, Function.update_comm hne]
  · simp [processDecimal, heq, rescale]
  · have hn : ¬ (h.objects v).decimals < (h.objects this).decimals := by omega
    simp [processDecimal, hn, hgt, rescale]

theorem run_overwrite (g : Heap) (this o : Ref) :
    ∃ h', run (overwrite f this o) g =
        ((combine f (g.objects this) (g.objects o)).map fun _ => this, h') ∧
      h'.next = g.next ∧ (∀ r, r ≠ this → h'.objects r = g.objects r) ∧
      ∀ x, combine f (g.objects this) (g.objects o) = .ok x → h'.objects this = x := by
  simp only [overwrite, combine, run_bind, run_read]
  cases f (g.objects this).bigInt (g.objects o).bigInt (g.objects this).decimals with
  | error e => exact ⟨g, rfl, rfl, fun _ _ => rfl, nofun⟩
  | ok n =>
    refine ⟨_, rfl, rfl, fun r hr => Function.update_of_ne hr _ _, ?_⟩
    rintro x ⟨⟩
    exact Function.update_self _ _ _

theorem run_inPlace_object {v : Ref} (hne : v ≠ this) :
    ∃ h', run (inPlace f this (.object v)) h =
        ((outcome f h (h.objects this) (.object v)).map fun _ => this, h') ∧
      h.next ≤ h'.next ∧
      (∀ r, r ≠ this → h'.objects r = touched h (h.objects this).decimals (.object v) r) ∧
      ∀ x, outcome f h (h.objects this) (.object v) = .ok x → h'.objects this = x := by
  let g : Heap := ⟨h.next, Function.update
    (Function.update h.objects v ((h.objects v).rescale (h.objects this).decimals))
    this ((h.objects this).rescale (h.objects v).decimals)⟩
  have hthis : g.objects this = (h.objects this).rescale (h.objects v).decimals :=
    Function.update_self _ _ _
  have hv : g.objects v = (h.objects v).rescale (h.objects this).decimals := by
    simp only [g, Function.update_of_ne hne, Function.update_self]
  have hframe : ∀ r, r ≠ this →
      g.objects r = touched h (h.objects this).decimals (.object v) r := by
    intro r hr
    rw [touched]
    by_cases hrv : v = r
    · rw [if_pos (by rw [hrv]), ← hrv, hv]
    · simp only [g, Function.update_of_ne hr, Function.update_of_ne (Ne.symm hrv),
        if_neg (show ¬ DecimalLike.object v = .object r by simpa using hrv)]
  obtain ⟨h', hrun, hnext, hother, hresult⟩ := run_overwrite f g this v
  rw [hthis, hv] at hrun hresult
  refine ⟨h', ?_, hnext.ge, fun r hr => (hother r hr).trans (hframe r hr), hresult⟩
  rw [inPlace, run_bind, run_align hne]
  exact hrun

theorem literal_cases (h : Heap) (this : Ref) {other : DecimalLike}
    (hlit : ∀ v, other ≠ .object v) (b : BigDecimal) :
    processDecimal this other = (do new other (some (← read this).decimals)) ∧
    operand h b other = construct h (some b.decimals) other ∧ receiver h b other = b := by
  cases other with
  | object v => exact absurd rfl (hlit v)
  | _ => exact ⟨rfl, rfl, rfl⟩

theorem run_inPlace_literal {other : DecimalLike} (hthis : this < h.next)
    (hlit : ∀ v, other ≠ .object v) :
    ∃ h', run (inPlace f this other) h =
        ((outcome f h (h.objects this) other).map fun _ => this, h') ∧
      h.next ≤ h'.next ∧
      (∀ r, r < h.next → r ≠ this → h'.objects r = h.objects r) ∧
      ∀ x, outcome f h (h.objects this) other = .ok x → h'.objects this = x := by
  obtain ⟨hprocess, hoperand, hreceiver⟩ :=
    literal_cases h this hlit (h.objects this)
  have hget : run (get : Script Heap) h = (.ok h, h) := rfl
  simp only [inPlace, hprocess, new, run_bind, run_read, hget, outcome, hoperand, hreceiver]
  cases construct h (some (h.objects this).decimals) other with
  | error e =>
    refine ⟨h, rfl, le_rfl, fun _ _ _ => rfl, fun x hx => ?_⟩
    cases hx
  | ok o =>
    let g : Heap := ⟨h.next + 1, Function.update h.objects h.next o⟩
    have hold : ∀ r, r < h.next → g.objects r = h.objects r :=
      fun r hr => Function.update_of_ne (Nat.ne_of_lt hr) _ _
    have hnew : g.objects h.next = o := Function.update_self _ _ _
    obtain ⟨h', hrun, hnext, hother, hresult⟩ := run_overwrite f g this h.next
    rw [hold this hthis, hnew] at hrun hresult
    refine ⟨h', hrun, ?_, fun r hr hrt => (hother r hrt).trans (hold r hr), hresult⟩
    rw [hnext]
    exact Nat.le_succ _

theorem run_inPlace {other : DecimalLike} (hthis : this < h.next) (hne : other ≠ .object this) :
    ∃ h', run (inPlace f this other) h =
        ((outcome f h (h.objects this) other).map fun _ => this, h') ∧
      h.next ≤ h'.next ∧
      (∀ r, r < h.next → r ≠ this →
        h'.objects r = touched h (h.objects this).decimals other r) ∧
      ∀ x, outcome f h (h.objects this) other = .ok x → h'.objects this = x := by
  by_cases hlit : ∀ v, other ≠ .object v
  · obtain ⟨h', hrun, hnext, hframe, hresult⟩ := run_inPlace_literal f hthis hlit
    refine ⟨h', hrun, hnext, fun r hr hrt => ?_, hresult⟩
    rw [hframe r hr hrt, touched, if_neg (hlit r)]
  · simp only [not_forall, not_not] at hlit
    obtain ⟨v, rfl⟩ := hlit
    obtain ⟨h', hrun, hnext, hframe, hresult⟩ :=
      run_inPlace_object f (h := h) (fun hv : v = this => hne (by rw [hv]))
    exact ⟨h', hrun, hnext, fun r _ hrt => hframe r hrt, hresult⟩

end InPlace

section Cloned

variable (f : Kernel) {h : Heap} {x : Ref}

def cloned (h : Heap) (x : Ref) : Heap :=
  ⟨h.next + 1, Function.update h.objects h.next (h.objects x)⟩

@[simp] theorem run_clone : run (clone x) h = (.ok h.next, cloned h x) := rfl

theorem cloned_old {r : Ref} (hr : r < h.next) : (cloned h x).objects r = h.objects r :=
  Function.update_of_ne (Nat.ne_of_lt hr) _ _

theorem cloned_new : (cloned h x).objects h.next = h.objects x := Function.update_self _ _ _

theorem Valid.ne_next {other : DecimalLike} (hv : Valid h other) : other ≠ .object h.next :=
  fun he => Nat.lt_irrefl _ (hv _ he)

theorem outcome_congr {g : Heap} {this : BigDecimal} {other : DecimalLike}
    (hg : ∀ r, other = .object r → g.objects r = h.objects r) :
    outcome f g this other = outcome f h this other := by
  cases other with
  | object r => simp only [outcome, receiver, operand, hg r rfl]
  | _ => rfl

theorem touched_congr {g : Heap} {scale : Nat} {other : DecimalLike} {r : Ref}
    (hg : g.objects r = h.objects r) : touched g scale other r = touched h scale other r := by
  rw [touched, touched, hg]

theorem run_cloned {other : DecimalLike} (hother : Valid h other) :
    ∃ h', run (do inPlace f (← clone x) other) h =
        ((outcome f h (h.objects x) other).map fun _ => h.next, h') ∧
      h.next < h'.next ∧
      (∀ r, r < h.next → h'.objects r = touched h (h.objects x).decimals other r) ∧
      ∀ v, outcome f h (h.objects x) other = .ok v → h'.objects h.next = v := by
  obtain ⟨h', hrun, hnext, hframe, hresult⟩ :=
    run_inPlace f (h := cloned h x) (Nat.lt_succ_self h.next) hother.ne_next
  have hout : outcome f (cloned h x) (h.objects x) other = outcome f h (h.objects x) other :=
    outcome_congr f fun r hr => cloned_old (hother r hr)
  rw [cloned_new, hout] at hrun hresult
  refine ⟨h', ?_, hnext, fun r hr => ?_, hresult⟩
  · rw [run_bind, run_clone]
    exact hrun
  · rw [hframe r (Nat.lt_succ_of_lt hr) (Nat.ne_of_lt hr), cloned_new]
    exact touched_congr (cloned_old hr)

theorem contents_cloned {other : DecimalLike} (hother : Valid h other) :
    contents (do inPlace f (← clone x) other) h = outcome f h (h.objects x) other := by
  obtain ⟨h', hrun, -, -, hresult⟩ := run_cloned f (x := x) hother
  rw [contents, hrun]
  cases ho : outcome f h (h.objects x) other with
  | error e => rfl
  | ok v => exact congrArg _ (hresult v ho)

end Cloned

end OraidexSdk.BigDecimal
