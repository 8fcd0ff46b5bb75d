import OraidexSdk.BigDecimal.Printing
import OraidexSdk.BigDecimal.Alignment
import Mathlib.Algebra.Order.Floor.Semifield

namespace OraidexSdk.BigDecimal
open Js DigitText ScaledInteger DecimalLiteral Script

theorem bigInt_nonneg {x : BigDecimal} (h : 0 ≤ x.value) : 0 ≤ x.bigInt := by
  by_contra hneg
  have hlt : (x.bigInt : ℚ) < 0 := Int.cast_lt_zero.mpr (Int.not_le.mp hneg)
  have hvalue : x.value < 0 := div_neg_of_neg_of_pos hlt (by positivity)
  exact absurd h (not_le.mpr hvalue)

theorem floor_value {x : BigDecimal} (h : 0 ≤ x.bigInt) :
    ⌊x.value⌋₊ = x.bigInt.natAbs / 10 ^ x.decimals := by
  have hcast : (x.bigInt : ℚ) = (x.bigInt.natAbs : ℚ) := by
    rw [← Int.cast_natCast, Int.natAbs_of_nonneg h]
  have hvalue : x.value = (x.bigInt.natAbs : ℚ) / ((10 ^ x.decimals : ℕ) : ℚ) := by
    rw [value, scaled, hcast]
    push_cast
    rfl
  rw [hvalue, Nat.floor_div_eq_div]

theorem cut_at_dot (cs : List Char) :
    (if '.' ∈ cs then (cs.splitOn '.').headD [] else cs) = (cs.splitOn '.').headD [] := by
  split
  · rfl
  · rename_i hdot
    rw [List.splitOn_eq_singleton hdot]
    rfl

theorem integer_part {x : BigDecimal} (hd : 0 < x.decimals) (hx : 0 ≤ x.value) :
    (if '.' ∈ x.toText then (x.toText.splitOn '.').headD [] else x.toText) =
      Nat.toDigits 10 ⌊x.value⌋₊ := by
  have hpos := bigInt_nonneg hx
  rw [cut_at_dot, toText_eq_printed hd, split_text, floor_value hpos]
  change x.signOf.text ++ Nat.toDigits 10 (x.bigInt.natAbs / 10 ^ x.decimals) = _
  rw [signOf_of_nonneg hpos]
  rfl

def wholeNumber {digits : List Char} (hdigits : AllDigits digits) (hne : digits ≠ []) : Literal :=
  ⟨.unsigned, digits, none, hdigits, allDigits_nil, by simpa using hne⟩

def times (t : BigDecimal) (n : Nat) : BigDecimal := ⟨t.bigInt * n, t.decimals⟩

theorem times_value (t : BigDecimal) (n : Nat) : (t.times n).value = t.value * n := by
  rw [times, value, value, scaled, scaled]
  push_cast
  exact (div_mul_eq_mul_div _ _ _).symm

theorem combine_mul (t : BigDecimal) {o : BigDecimal} {n : Nat}
    (ho : o.bigInt = (n * 10 ^ t.decimals : ℕ)) : combine mulKernel t o = .ok (t.times n) := by
  have hpow : (10 : Int) ^ t.decimals ≠ 0 := pow_ne_zero _ (by decide)
  rw [combine, mulKernel, ho]
  push_cast
  rw [← Int.mul_assoc, Int.mul_tdiv_cancel _ hpow]
  rfl

section Product

variable {digits : List Char} (hdigits : AllDigits digits) (hne : digits ≠ [])
include hdigits hne

theorem parse_wholeNumber (decimals : Option Nat) :
    parse digits decimals =
      .ok ⟨(numeral digits * 10 ^ decimals.getD 6 : ℕ), decimals.getD 6⟩ := by
  have hparse := parse_text (wholeNumber hdigits hne) decimals
  have hnum : numeral (digits ++ fit (decimals.getD 6) []) =
      numeral digits * 10 ^ decimals.getD 6 := by
    rw [fit_of_le (Nat.zero_le _), List.nil_append, numeral_append_zeros]
    rfl
  have hof : ofLiteral (wholeNumber hdigits hne) decimals =
      ⟨(numeral digits * 10 ^ decimals.getD 6 : ℕ), decimals.getD 6⟩ := by
    rw [ofLiteral, if_neg (fun hc => absurd hc.1 (Nat.not_lt_zero _))]
    change (⟨1 * numeral (digits ++ fit (decimals.getD 6) []), decimals.getD 6⟩ : BigDecimal) = _
    rw [hnum, one_mul]
  rw [hof] at hparse
  exact hparse

theorem outcome_wholeNumber (h : Heap) (t : BigDecimal) :
    outcome mulKernel h t (.string (String.ofList digits)) =
      .ok (t.times (numeral digits)) := by
  have hoperand : operand h t (.string (String.ofList digits)) =
      .ok ⟨(numeral digits * 10 ^ t.decimals : ℕ), t.decimals⟩ := by
    change parse (String.ofList digits).toList (some t.decimals) = _
    rw [String.toList_ofList]
    exact parse_wholeNumber hdigits hne (some t.decimals)
  rw [outcome, hoperand]
  exact combine_mul t rfl

end Product

theorem string_not_object (text : String) (r : Ref) : DecimalLike.string text ≠ .object r := by
  intro h
  cases h

theorem bigint_not_object (n : Int) (r : Ref) : DecimalLike.bigint n ≠ .object r := by
  intro h
  cases h

theorem number_not_object (text : String) (r : Ref) : DecimalLike.number text ≠ .object r := by
  intro h
  cases h

theorem contents_ok {s : Script Ref} {h g : Heap} {r : Ref} (hrun : run s h = (.ok r, g)) :
    contents s h = .ok (g.objects r) := by
  rw [contents, hrun]

theorem contents_error {s : Script Ref} {h g : Heap} {e : JsError}
    (hrun : run s h = (.error e, g)) : contents s h = .error e := by
  rw [contents, hrun]

theorem contents_then (f : Kernel) (s : Script Ref) (h : Heap) {other : DecimalLike}
    (hother : ∀ r, other ≠ .object r) :
    contents (do inPlace f (← clone (← s)) other) h = (do outcome f h (← contents s h) other) := by
  rcases hrun : run s h with ⟨result, g⟩
  cases result with
  | error e =>
    have hthrows : run (do inPlace f (← clone (← s)) other) h = (.error e, g) := by
      rw [run_bind, hrun]
    rw [contents_error hrun, contents_error hthrows]
    rfl
  | ok r =>
    have hcloned : contents (do inPlace f (← clone r) other) g = outcome f g (g.objects r) other :=
      contents_cloned f fun v hv => absurd hv (hother v)
    have hheap : outcome f g (g.objects r) other = outcome f h (g.objects r) other :=
      outcome_congr f fun v hv => absurd hv (hother v)
    rw [contents_ok hrun, contents, run_bind, hrun]
    exact hcloned.trans hheap

theorem contents_new (h : Heap) (value : DecimalLike) :
    contents (new value none) h = construct h none value := by
  cases hx : construct h none value with
  | error e =>
    have hget : run (get : Script Heap) h = (.ok h, h) := rfl
    refine contents_error (g := h) ?_
    simp only [new, run_bind, hget, hx, run_lift_error]
  | ok x =>
    rw [contents_ok (run_new hx)]
    exact congrArg _ (Function.update_self h.next x h.objects)

theorem contents_fresh (f : Kernel) (h : Heap) (value : DecimalLike) {other : DecimalLike}
    (hother : ∀ r, other ≠ .object r) :
    contents (do inPlace f (← clone (← new value none)) other) h =
      (do outcome f h (← construct h none value) other) := by
  rw [contents_then f (new value none) h hother, contents_new]

theorem contents_fresh_ok (f : Kernel) {h : Heap} {value other : DecimalLike}
    (hother : ∀ r, other ≠ .object r) {x : BigDecimal} (hx : construct h none value = .ok x) :
    contents (do inPlace f (← clone (← new value none)) other) h = outcome f h x other := by
  rw [contents_fresh f h value hother, hx]
  rfl

theorem contents_product (L : Literal) {text : String} (htext : L.text = text.toList) (h : Heap)
    (amount : String) :
    contents (do mul (← new (.number text) none) (.string amount)) h =
      outcome mulKernel h (ofLiteral L none) (.string amount) := by
  have hconstruct : construct h none (.number text) = .ok (ofLiteral L none) := by
    rw [construct, ← htext]
    exact parse_text L none
  exact contents_fresh_ok mulKernel (string_not_object amount) hconstruct

theorem decimals_pos (L : Literal) : 0 < (ofLiteral L none).decimals := by
  rw [ofLiteral]
  split
  · rename_i h
    exact Nat.zero_lt_of_lt h.1
  · exact Nat.zero_lt_succ 5

end OraidexSdk.BigDecimal
