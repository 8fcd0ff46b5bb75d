import OraidexSdk.BigDecimal.Printing
import OraidexSdk.OraiswapV3.ZapIn

namespace OraidexSdk.OraiswapV3.Helpers
open Js DigitText DecimalLiteral BigDecimal Script

def padStart (cs : List Char) (width : Nat) (fill : Char) : List Char :=
  List.replicate (width - cs.length) fill ++ cs

def shiftText (value : Int) (decimals : Nat) : List Char :=
  let valueStr := padStart (bigIntText value) (decimals + 1) '0'
  let integral := slice valueStr 0 (-decimals)
  let intStr := if integral = [] then ['0'] else integral
  let decStr := sliceFrom valueStr (-decimals)
  intStr ++ '.' :: decStr

def shiftDecimal (value : Int) (decimals : Nat) : Script Ref :=
  new (.string (String.ofList (shiftText value decimals))) (some decimals)

section Digits

variable (value decimals : Nat)

def paddedValue : List Char := padStart (Nat.toDigits 10 value) (decimals + 1) '0'

theorem allDigits_paddedValue : AllDigits (paddedValue value decimals) :=
  (allDigits_append _ _).mpr ⟨allDigits_zeros _, allDigits_toDigits value⟩

theorem numeral_paddedValue : numeral (paddedValue value decimals) = value := by
  rw [paddedValue, padStart, ← zeros, numeral_zeros_append, numeral_toDigits]

theorem length_paddedValue : decimals < (paddedValue value decimals).length := by
  simp only [paddedValue, padStart, List.length_append, List.length_replicate]
  omega

def shifted : Literal where
  sign := .unsigned
  ints := (paddedValue value decimals).take ((paddedValue value decimals).length - decimals)
  fraction := some ((paddedValue value decimals).drop ((paddedValue value decimals).length - decimals))
  ints_digits := (allDigits_paddedValue value decimals).sublist (List.take_sublist _ _)
  fraction_digits := (allDigits_paddedValue value decimals).sublist (List.drop_sublist _ _)
  has_digit := by
    rw [Option.getD_some, List.take_append_drop]
    exact List.ne_nil_of_length_pos (Nat.zero_lt_of_lt (length_paddedValue value decimals))

theorem shifted_value : (shifted value decimals).value = value / 10 ^ decimals := by
  have hlength := length_paddedValue value decimals
  rw [(shifted value decimals).value_of_unsigned rfl]
  simp only [shifted, Literal.places, Option.getD_some, List.take_append_drop, List.length_drop,
    numeral_paddedValue]
  rw [Nat.sub_sub_self hlength.le]

theorem shiftText_natCast :
    shiftText value decimals =
      (if slice (paddedValue value decimals) 0 (-decimals) = [] then ['0']
        else slice (paddedValue value decimals) 0 (-decimals)) ++
          '.' :: sliceFrom (paddedValue value decimals) (-decimals) := by
  rw [shiftText, bigIntText_natCast]
  rfl

theorem slice_start (cs : List Char) (stop : Int) :
    slice cs 0 stop = cs.take (relativeIndex cs.length stop) := by
  simp [slice, relativeIndex]

theorem shiftText_pos (h : 0 < decimals) :
    shiftText value decimals = (shifted value decimals).text := by
  have hlength := length_paddedValue value decimals
  have hstop : relativeIndex (paddedValue value decimals).length (-decimals) =
      (paddedValue value decimals).length - decimals := relativeIndex_neg h
  have hne : (paddedValue value decimals).take
      ((paddedValue value decimals).length - decimals) ≠ [] := by
    refine List.ne_nil_of_length_pos ?_
    rw [List.length_take]
    omega
  rw [shiftText_natCast, slice_start, sliceFrom, hstop, if_neg hne]
  rfl

-- slice(0, -0) is empty and slice(-0) is the whole text.
def unshifted : Literal where
  sign := .unsigned
  ints := ['0']
  fraction := some (Nat.toDigits 10 value)
  ints_digits := by decide
  fraction_digits := allDigits_toDigits value
  has_digit := by simp

theorem shiftText_zero : shiftText value 0 = (unshifted value).text := by
  have hpadded : paddedValue value 0 = Nat.toDigits 10 value := by
    have hlength : 0 < (Nat.toDigits 10 value).length := Nat.length_toDigits_pos
    rw [paddedValue, padStart, Nat.sub_eq_zero_of_le hlength, List.replicate_zero, List.nil_append]
  rw [shiftText_natCast, slice_start, sliceFrom, hpadded]
  simp [relativeIndex, unshifted, Literal.text, Literal.body, Sign.text]

theorem unshifted_value :
    (unshifted value).value = value / 10 ^ (Nat.toDigits 10 value).length := by
  have hnumeral : numeral (['0'] ++ Nat.toDigits 10 value) = value :=
    (numeral_zeros_append 1 _).trans (numeral_toDigits value)
  rw [(unshifted value).value_of_unsigned rfl]
  simp only [unshifted, Literal.places, Option.getD_some, hnumeral]

end Digits

section Value

variable (h : Heap) (value decimals : Nat)

theorem contents_shiftDecimal {L : Literal} (hL : shiftText value decimals = L.text) :
    contents (shiftDecimal value decimals) h = .ok (ofLiteral L (some decimals)) := by
  have hconstruct : construct h (some decimals) (.string (String.ofList (shiftText value decimals))) =
      .ok (ofLiteral L (some decimals)) := by
    rw [construct, String.toList_ofList, hL, parse_text]
  simp only [contents, shiftDecimal, run_new hconstruct, Function.update_self]

-- The exact reading that the model of the zap uses.
theorem shiftDecimal_returns :
    ∃ x, contents (shiftDecimal value decimals) h = .ok x ∧
      x.value = OraiswapV3.shiftDecimal value decimals := by
  rcases Nat.eq_zero_or_pos decimals with rfl | hpos
  · have hplaces : (some 0).getD 6 < (unshifted value).places.length := by
      simp [unshifted, Literal.places, Nat.length_toDigits_pos]
    refine ⟨_, contents_shiftDecimal h value 0 (shiftText_zero value), ?_⟩
    rw [value_ofLiteral_unset _ rfl hplaces, unshifted_value, OraiswapV3.shiftDecimal, if_pos rfl,
      bigIntText_natCast, Int.cast_natCast]
  · have hplaces : (shifted value decimals).places.length ≤ (some decimals).getD 6 := by
      have hlength := length_paddedValue value decimals
      simp only [shifted, Literal.places, Option.getD_some, List.length_drop]
      omega
    refine ⟨_, contents_shiftDecimal h value decimals (shiftText_pos value decimals hpos), ?_⟩
    rw [value_ofLiteral_of_le _ hplaces, shifted_value, OraiswapV3.shiftDecimal,
      if_neg hpos.ne', Int.cast_natCast]

theorem shiftDecimal_eq_iff :
    OraiswapV3.shiftDecimal value decimals = value / 10 ^ decimals ↔ 0 < decimals ∨ value = 0 := by
  rcases Nat.eq_zero_or_pos decimals with rfl | hpos
  · have hlength : 0 < (Nat.toDigits 10 value).length := Nat.length_toDigits_pos
    rw [OraiswapV3.shiftDecimal, if_pos rfl, bigIntText_natCast, Int.cast_natCast, pow_zero, div_one,
      or_iff_right (lt_irrefl 0)]
    constructor
    · intro heq
      have hpow : (1 : ℚ) < 10 ^ (Nat.toDigits 10 value).length :=
        one_lt_pow₀ (by norm_num) hlength.ne'
      rw [div_eq_iff (by positivity)] at heq
      by_contra hne
      have hvalue : (0 : ℚ) < value := Nat.cast_pos.mpr (Nat.pos_of_ne_zero hne)
      exact absurd heq (lt_mul_of_one_lt_right hvalue hpow).ne
    · rintro rfl
      simp
  · rw [OraiswapV3.shiftDecimal, if_neg hpos.ne', Int.cast_natCast]
    exact iff_of_true rfl (.inl hpos)

theorem shiftDecimal_exact_iff :
    (∃ x, contents (shiftDecimal value decimals) h = .ok x ∧ x.value = value / 10 ^ decimals) ↔
      0 < decimals ∨ value = 0 := by
  obtain ⟨x, hx, hvalue⟩ := shiftDecimal_returns h value decimals
  rw [← shiftDecimal_eq_iff, ← hvalue]
  constructor
  · rintro ⟨y, hy, hexact⟩
    obtain rfl := Except.ok.inj (hx.symm.trans hy)
    exact hexact
  · exact fun hexact => ⟨x, hx, hexact⟩

end Value

theorem shiftDecimal_five :
    let h : Heap := ⟨0, fun _ => ⟨0, 0⟩⟩
    contents (shiftDecimal 5 0) h = .ok ⟨5, 1⟩ ∧ (⟨5, 1⟩ : BigDecimal).value ≠ 5 / 10 ^ 0 ∧
      ¬ ∀ value decimals : Nat, ∃ x, contents (shiftDecimal value decimals) h = .ok x ∧
        x.value = value / 10 ^ decimals := by
  intro h
  have hrun : contents (shiftDecimal 5 0) h = .ok ⟨5, 1⟩ := by decide +kernel
  have hvalue : (⟨5, 1⟩ : BigDecimal).value ≠ 5 / 10 ^ 0 := by decide +kernel
  refine ⟨hrun, hvalue, fun hall => ?_⟩
  obtain ⟨x, hx, hexact⟩ := hall 5 0
  obtain rfl := Except.ok.inj (hx.symm.trans hrun)
  exact hvalue hexact

end OraidexSdk.OraiswapV3.Helpers
