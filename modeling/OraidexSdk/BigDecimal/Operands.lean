import OraidexSdk.BigDecimal.Exact

namespace OraidexSdk.BigDecimal
open Js Script

inductive Arith where
  | add (other : DecimalLike)
  | sub (other : DecimalLike)
  | mul (other : DecimalLike)
  | div (other : DecimalLike)
  | mulByRatio (numerator denominator : DecimalLike)
deriving DecidableEq, Repr

namespace Arith

def script (this : Ref) : Arith → Script Ref
  | add other => BigDecimal.add this other
  | sub other => BigDecimal.sub this other
  | mul other => BigDecimal.mul this other
  | div other => BigDecimal.div this other
  | mulByRatio numerator denominator => BigDecimal.mulByRatio this numerator denominator

def arguments : Arith → List DecimalLike
  | add other | sub other | mul other | div other => [other]
  | mulByRatio numerator denominator => [numerator, denominator]

def Within (h : Heap) (op : Arith) : Prop := ∀ a ∈ op.arguments, Valid h a

end Arith

section Ratio

variable {h : Heap} (this : Ref) {numerator denominator : DecimalLike}

-- The heap idiv meets in mulByRatio: numerator has been aligned with the clone.
def afterNumerator (h : Heap) (scale : Nat) (numerator : DecimalLike) : Heap :=
  ⟨h.next, touched h scale numerator⟩

def ratioOutcome (h : Heap) (x : BigDecimal) (numerator denominator : DecimalLike) :
    Except JsError BigDecimal :=
  if isZeroLiteral denominator then .error (.error "Denominator cannot be zero")
  else do
    let product ← outcome mulKernel h x numerator
    outcome divKernel (afterNumerator h x.decimals numerator) product denominator

def ratioObjects (h : Heap) (x : BigDecimal) (numerator denominator : DecimalLike) :
    Ref → BigDecimal :=
  match outcome mulKernel h x numerator with
  | .ok product => touched (afterNumerator h x.decimals numerator) product.decimals denominator
  | .error _ => touched h x.decimals numerator

theorem mulByRatio_zero (hz : isZeroLiteral denominator = true) :
    run (mulByRatio this numerator denominator) h =
      (.error (.error "Denominator cannot be zero"), h) := by
  rw [mulByRatio, if_pos hz]
  rfl

theorem run_mulByRatio (hn : Valid h numerator) (hd : Valid h denominator)
    (hz : isZeroLiteral denominator = false) :
    ∃ h', run (mulByRatio this numerator denominator) h =
        ((ratioOutcome h (h.objects this) numerator denominator).map fun _ => h.next, h') ∧
      h.next ≤ h'.next ∧
      (∀ r, r < h.next →
        h'.objects r = ratioObjects h (h.objects this) numerator denominator r) ∧
      ∀ v, ratioOutcome h (h.objects this) numerator denominator = .ok v →
        h'.objects h.next = v := by
  obtain ⟨g, hrun, hnext, hframe, hresult⟩ := run_cloned mulKernel (x := this) hn
  have hsplit : mulByRatio this numerator denominator = (do
      let product ← (do inPlace mulKernel (← clone this) numerator)
      inPlace divKernel product denominator) := by
    simp [mulByRatio, hz, imul, idiv]
  rw [hsplit, run_bind, hrun]
  simp only [ratioOutcome, ratioObjects, hz]
  cases hm : outcome mulKernel h (h.objects this) numerator with
  | error e => exact ⟨g, rfl, hnext.le, hframe, nofun⟩
  | ok product =>
    have hproduct := hresult product hm
    obtain ⟨h', hrun', hnext', hframe', hresult'⟩ :=
      run_inPlace divKernel (h := g) hnext hd.ne_next
    have hout : outcome divKernel g product denominator =
        outcome divKernel (afterNumerator h (h.objects this).decimals numerator) product
          denominator := outcome_congr divKernel fun r hr => hframe r (hd r hr)
    rw [hproduct, hout] at hrun' hresult'
    refine ⟨h', hrun', hnext.le.trans hnext', fun r hr => ?_, hresult'⟩
    rw [hframe' r (hr.trans hnext) (Nat.ne_of_lt hr), hproduct]
    exact touched_congr (hframe r hr)

end Ratio

namespace Arith

def result (h : Heap) (x : BigDecimal) : Arith → Except JsError BigDecimal
  | add other => outcome addKernel h x other
  | sub other => outcome subKernel h x other
  | mul other => outcome mulKernel h x other
  | div other => outcome divKernel h x other
  | mulByRatio numerator denominator => ratioOutcome h x numerator denominator

theorem contents_script {h : Heap} {this : Ref} {op : Arith} (hw : op.Within h) :
    contents (op.script this) h = op.result h (h.objects this) := by
  cases op with
  | add other => exact contents_cloned addKernel (hw other (by simp [arguments]))
  | sub other => exact contents_cloned subKernel (hw other (by simp [arguments]))
  | mul other => exact contents_cloned mulKernel (hw other (by simp [arguments]))
  | div other => exact contents_cloned divKernel (hw other (by simp [arguments]))
  | mulByRatio numerator denominator =>
    rw [script, result, contents]
    by_cases hz : isZeroLiteral denominator = true
    · rw [mulByRatio_zero this hz, ratioOutcome, if_pos hz]
    · rw [Bool.not_eq_true] at hz
      obtain ⟨h', hrun, -, -, hresult⟩ := run_mulByRatio this
        (hw numerator (by simp [arguments])) (hw denominator (by simp [arguments])) hz
      rw [hrun]
      cases ho : ratioOutcome h (h.objects this) numerator denominator with
      | error e => rfl
      | ok v => exact congrArg _ (hresult v ho)

theorem result_congr {h g : Heap} {op : Arith} {x : BigDecimal}
    (hg : ∀ r, .object r ∈ op.arguments → g.objects r = h.objects r) :
    op.result g x = op.result h x := by
  cases op with
  | add other => exact outcome_congr addKernel fun r hr => hg r (by simp [arguments, hr])
  | sub other => exact outcome_congr subKernel fun r hr => hg r (by simp [arguments, hr])
  | mul other => exact outcome_congr mulKernel fun r hr => hg r (by simp [arguments, hr])
  | div other => exact outcome_congr divKernel fun r hr => hg r (by simp [arguments, hr])
  | mulByRatio numerator denominator =>
    have hn : outcome mulKernel g x numerator = outcome mulKernel h x numerator :=
      outcome_congr mulKernel fun r hr => hg r (by simp [arguments, hr])
    have hd (product : BigDecimal) :
        outcome divKernel (afterNumerator g x.decimals numerator) product denominator =
          outcome divKernel (afterNumerator h x.decimals numerator) product denominator :=
      outcome_congr divKernel fun r hr => touched_congr (hg r (by simp [arguments, hr]))
    simp only [result, ratioOutcome, hn, hd]

end Arith

inductive Later where
  | toString
  | decimals
  | arith (op : Arith)
deriving DecidableEq, Repr

inductive Observation where
  | text (s : String)
  | scale (n : Nat)
  | object (x : BigDecimal)
deriving DecidableEq, Repr

namespace Later

def observe (h : Heap) (this : Ref) : Later → Except JsError Observation
  | toString => .ok (.text (h.objects this).toString)
  | decimals => .ok (.scale (h.objects this).decimals)
  | arith op => (contents (op.script this) h).map .object

def Within (h : Heap) : Later → Prop
  | arith op => op.Within h
  | _ => True

theorem observe_congr {h g : Heap} (hnext : h.next ≤ g.next)
    (hg : ∀ r, r < h.next → g.objects r = h.objects r) {this : Ref} (hthis : this < h.next)
    {l : Later} (hw : l.Within h) : l.observe g this = l.observe h this := by
  cases l with
  | toString => simp only [observe, hg this hthis]
  | decimals => simp only [observe, hg this hthis]
  | arith op =>
    have hwg : op.Within g := fun a ha r hr => (hw a ha r hr).trans_le hnext
    rw [observe, observe, Arith.contents_script hwg, Arith.contents_script hw, hg this hthis,
      Arith.result_congr fun r hr => hg r (hw _ hr r rfl)]

end Later

def Fits (h : Heap) (scale : Nat) : DecimalLike → Prop
  | .object r => scale ≤ (h.objects r).decimals
  | _ => True

theorem touched_of_fits {h : Heap} {scale : Nat} {other : DecimalLike} (hf : Fits h scale other)
    (r : Ref) : touched h scale other r = h.objects r := by
  rw [touched]
  split
  · rename_i heq
    subst heq
    exact rescale_of_le hf
  · rfl

theorem le_touched (h : Heap) (scale : Nat) (other : DecimalLike) (r : Ref) :
    (h.objects r).decimals ≤ (touched h scale other r).decimals := by
  rw [touched]
  split
  · rw [rescale_decimals]
    exact le_max_left _ _
  · exact le_rfl

theorem scale_le_touched (h : Heap) (scale : Nat) (r : Ref) :
    scale ≤ (touched h scale (.object r) r).decimals := by
  rw [touched, if_pos rfl, rescale_decimals]
  exact le_max_right _ _

theorem outcome_mul_operand (h : Heap) (x : BigDecimal) (numerator : DecimalLike) :
    outcome mulKernel h x numerator =
      (fun o => ⟨((receiver h x numerator).bigInt * o.bigInt).tdiv
        (10 ^ (receiver h x numerator).decimals), (receiver h x numerator).decimals⟩) <$>
          operand h x numerator := by
  rw [outcome]
  cases operand h x numerator <;> rfl

namespace Arith

variable {h : Heap}

def objectsAfter (h : Heap) (x : BigDecimal) : Arith → Ref → BigDecimal
  | add other | sub other | mul other | div other => touched h x.decimals other
  | mulByRatio numerator denominator =>
    if isZeroLiteral denominator then h.objects else ratioObjects h x numerator denominator

theorem run_script (this : Ref) {op : Arith} (hw : op.Within h) :
    h.next ≤ (run (op.script this) h).2.next ∧ ∀ r, r < h.next →
      (run (op.script this) h).2.objects r = op.objectsAfter h (h.objects this) r := by
  have hcloned (f : Kernel) {other : DecimalLike} (hv : Valid h other) :
      h.next ≤ (run (do inPlace f (← clone this) other) h).2.next ∧ ∀ r, r < h.next →
        (run (do inPlace f (← clone this) other) h).2.objects r =
          touched h (h.objects this).decimals other r := by
    obtain ⟨h', hrun, hnext, hframe, -⟩ := run_cloned f (x := this) hv
    rw [hrun]
    exact ⟨hnext.le, hframe⟩
  cases op with
  | add other => exact hcloned addKernel (hw other (by simp [arguments]))
  | sub other => exact hcloned subKernel (hw other (by simp [arguments]))
  | mul other => exact hcloned mulKernel (hw other (by simp [arguments]))
  | div other => exact hcloned divKernel (hw other (by simp [arguments]))
  | mulByRatio numerator denominator =>
    by_cases hz : isZeroLiteral denominator = true
    · rw [script, mulByRatio_zero this hz, objectsAfter, if_pos hz]
      exact ⟨le_rfl, fun _ _ => rfl⟩
    · obtain ⟨h', hrun, hnext, hframe, -⟩ := run_mulByRatio this
        (hw numerator (by simp [arguments])) (hw denominator (by simp [arguments]))
        (Bool.not_eq_true _ ▸ hz)
      rw [script, hrun, objectsAfter, if_neg hz]
      exact ⟨hnext, hframe⟩

def Aligned (h : Heap) (x : BigDecimal) : Arith → Prop
  | add other | sub other | mul other | div other => Fits h x.decimals other
  | mulByRatio numerator denominator =>
    isZeroLiteral denominator = false → Fits h x.decimals numerator ∧
      ∀ o, operand h x numerator = .ok o → Fits h (receiver h x numerator).decimals denominator

theorem objectsAfter_aligned {x : BigDecimal} {op : Arith} (ha : op.Aligned h x) :
    op.objectsAfter h x = h.objects := by
  cases op with
  | mulByRatio numerator denominator =>
    rw [objectsAfter]
    by_cases hz : isZeroLiteral denominator = true
    · exact if_pos hz
    · obtain ⟨hn, hd⟩ := ha (Bool.not_eq_true _ ▸ hz)
      have hnum : afterNumerator h x.decimals numerator = h := by
        rw [afterNumerator, funext (touched_of_fits hn)]
      rw [if_neg hz, ratioObjects, outcome_mul_operand, hnum]
      cases ho : operand h x numerator with
      | error e => exact funext (touched_of_fits hn)
      | ok o => exact funext (touched_of_fits (hd o ho))
  | _ => exact funext (touched_of_fits ha)

theorem fits_of_scale {scale : Nat} {other : DecimalLike}
    (ho : ∀ r, other = .object r → scale ≤ (h.objects r).decimals) : Fits h scale other := by
  cases other with
  | object r => exact ho r rfl
  | _ => trivial

theorem aligned_of_scales {x : BigDecimal} {op : Arith}
    (hs : ∀ r, .object r ∈ op.arguments →
      (op.objectsAfter h x r).decimals = (h.objects r).decimals) : op.Aligned h x := by
  cases op with
  | mulByRatio numerator denominator =>
    intro hz
    simp only [objectsAfter, hz, ratioObjects, outcome_mul_operand] at hs
    constructor
    · refine fits_of_scale fun r hr => ?_
      subst hr
      rw [← hs r (by simp [arguments])]
      cases operand h x (.object r) with
      | error e => exact scale_le_touched h x.decimals r
      | ok o =>
        exact (scale_le_touched h x.decimals r).trans
          (le_touched (afterNumerator h x.decimals (.object r)) _ denominator r)
    · intro o ho
      refine fits_of_scale fun r hr => ?_
      subst hr
      rw [← hs r (by simp [arguments]), ho]
      exact scale_le_touched _ _ r
  | _ =>
    refine fits_of_scale fun r hr => ?_
    subst hr
    rw [← hs r (by simp [arguments])]
    exact scale_le_touched h x.decimals r

end Arith

abbrev Operation (h : Heap) := {op : Arith // op.Within h}

abbrev Observer (h : Heap) := {l : Later // l.Within h}

def Undisturbed (h : Heap) (x : h.Object) (op : Operation h) : Prop :=
  ∀ r : h.Object, r = x ∨ .object r.val ∈ op.val.arguments → ∀ l : Observer h,
    l.val.observe (run (op.val.script x) h).2 r = l.val.observe h r

theorem undisturbed_iff (h : Heap) (x : h.Object) (op : Operation h) :
    Undisturbed h x op ↔ op.val.Aligned h (h.objects x) := by
  obtain ⟨hnext, hframe⟩ := Arith.run_script x op.property
  constructor
  · intro hu
    refine Arith.aligned_of_scales fun r hr => ?_
    have hlt : r < h.next := op.property _ hr r rfl
    have hobs := hu ⟨r, hlt⟩ (.inr hr) ⟨.decimals, trivial⟩
    rw [← hframe r hlt]
    simpa [Later.observe] using hobs
  · intro ha r _ l
    refine Later.observe_congr hnext (fun s hs => ?_) r.property l.property
    rw [hframe s hs, Arith.objectsAfter_aligned ha]

theorem add_disturbs_operand :
    let h : Heap := ⟨2, fun r => if r = 0 then ⟨112345678, 8⟩ else ⟨2000000, 6⟩⟩
    let x : h.Object := ⟨0, Nat.two_pos⟩
    Later.observe h 1 .decimals = .ok (.scale 6) ∧
    Later.observe (run (add 0 (.object 1)) h).2 1 .decimals = .ok (.scale 8) ∧
    ¬ ∀ op : Operation h, Undisturbed h x op := by
  intro h x
  have hbefore : Later.observe h 1 .decimals = .ok (.scale 6) := by decide
  have hafter : Later.observe (run (add 0 (.object 1)) h).2 1 .decimals = .ok (.scale 8) := by
    decide
  refine ⟨hbefore, hafter, fun hall => ?_⟩
  have hw : (Arith.add (.object 1)).Within h := by
    intro a ha
    rw [List.mem_singleton.mp ha]
    exact valid_object Nat.one_lt_two
  have hobs := hall ⟨.add (.object 1), hw⟩ ⟨1, Nat.one_lt_two⟩ (.inr (List.mem_singleton_self _))
    ⟨.decimals, trivial⟩
  exact absurd (hafter.symm.trans (hobs.trans hbefore)) (by decide)

end OraidexSdk.BigDecimal
