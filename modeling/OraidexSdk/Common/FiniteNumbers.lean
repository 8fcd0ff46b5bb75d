import OraidexSdk.Common.Display

namespace OraidexSdk
open Js DigitText DecimalLiteral DecimalNumber ScaledInteger BigDecimal Script Outcome

-- BigDecimal reads the text of 10 ** e at this scale.
def PowerReads (scale : Nat) (e : Int) : Prop :=
  e < -323 ∨ -6 ≤ e ∧ e ≤ 20 ∨ e ∈ tenPowAbove ∧ scale < 17 ∨ e ∈ tenPowBelow ∧ scale < 16

theorem parse_power_iff {scale : Nat} (hs : scale ≠ 0) (e : Int) :
    (∃ o : BigDecimal, parse (powerText e).toList (some scale) = .ok o) ↔ PowerReads scale e := by
  rw [PowerReads]
  by_cases hrange : e < -323 ∨ -6 ≤ e ∧ e ≤ 20
  · have hplain := (plain_iff _).mpr ((tenPow_plain_iff e).mpr hrange)
    have hread := (parse_plain_at hs hplain).2
    rw [← toList_powerText (by omega)] at hread
    exact iff_of_true ⟨_, hread⟩ (or_assoc.mp (.inl hrange))
  rw [not_or] at hrange
  rw [or_iff_right hrange.1, or_iff_right hrange.2]
  rcases lt_or_ge 308 e with hlarge | hfinite
  · rw [parse_infinity hlarge]
    refine iff_of_false nofun ?_
    rintro (⟨habove, -⟩ | ⟨hbelow, -⟩)
    · have := above_range e habove
      omega
    · have := below_range e hbelow
      omega
  have hdigits (digits : List Char) : (∃ o : BigDecimal,
      (if scale < digits.length then Except.ok ⟨numeral (digits.take (scale + 1)), scale⟩
        else .error JsError.syntaxError) = Except.ok o) ↔ scale < digits.length := by
    split <;> simp [*]
  rw [parse_power_digits hs (by omega) hfinite (by omega), tenPowDigits, hdigits]
  split
  · rename_i habove
    rw [and_iff_right habove, or_iff_left fun h => not_above_of_below e h.1 habove]
    rfl
  · rename_i habove
    rw [or_iff_right fun h => habove h.1]
    split
    · rename_i hbelow
      rw [and_iff_right hbelow]
      rfl
    · rename_i hbelow
      exact iff_of_false (Nat.not_lt.mpr (Nat.one_le_iff_ne_zero.mpr hs)) fun h => hbelow h.1

section Amount

variable {x : DecimalNumber}

theorem construct_plain (h : Heap) (hplain : PlainText x.text) :
    ∃ L : Literal, L.value = x.value ∧
      construct h none (.number (numberText x)) = .ok (ofLiteral L none) := by
  obtain ⟨L, htext, hvalue, -⟩ := DecimalNumber.reads_plain ((plain_iff x).mp hplain)
  refine ⟨L, hvalue, ?_⟩
  rw [construct, toList_numberText, ← htext]
  exact parse_text L none

theorem construct_marked (h : Heap) (hplain : ¬ PlainText x.text) :
    construct h none (.number (numberText x)) = .error .syntaxError := by
  obtain ⟨front, behind, hmarked⟩ := DecimalNumber.text_marked ((plain_iff x).not.mp hplain)
  rw [construct, toList_numberText]
  exact parse_marked hmarked

theorem wholePart_ok {b : BigDecimal} (hb : 0 < b.decimals) : ∃ n, wholePart b = .ok n := by
  have hread : Js.bigInt (b.printed.sign.text ++ b.printed.ints) =
      .ok (b.printed.sign.factor * numeral b.printed.ints) :=
    bigInt_digits Nat.toDigits_ne_nil b.printed.ints_digits
  rw [wholePart, toText_eq_printed hb, split_text]
  exact ⟨_, hread⟩

theorem decimals_of_parse {cs : List Char} {b : BigDecimal} (h : parse cs none = .ok b) :
    b.decimals = max 6 (behindDot cs).length := by
  rw [parse_default, map_eq_ok] at h
  obtain ⟨n, -, rfl⟩ := h
  rfl

theorem toAmount_ok_iff (hplain : PlainText x.text) (decimals : Int) :
    (∃ n, toAmount (.finite x) decimals = .ok n) ↔
      PowerReads (max 6 (behindDot x.text).length) decimals := by
  obtain ⟨L, -, hconstruct⟩ := construct_plain emptyHeap hplain
  have hscale : (ofLiteral L none).decimals = max 6 (behindDot x.text).length := by
    rw [construct, toList_numberText] at hconstruct
    exact decimals_of_parse hconstruct
  have hproduct := contents_fresh_ok mulKernel (number_not_object (powerText decimals)) hconstruct
  rw [outcome_number, hscale] at hproduct
  rw [← parse_power_iff (Nat.ne_of_gt (lt_max_of_lt_left (Nat.succ_pos 5)))]
  constructor
  · rintro ⟨n, hn⟩
    obtain ⟨product, hok, -⟩ := bind_eq_ok.mp hn
    obtain ⟨o, hparse, -⟩ := bind_eq_ok.mp (hproduct.symm.trans hok)
    exact ⟨o, hparse⟩
  · rintro ⟨o, hparse⟩
    rw [hparse] at hproduct
    obtain ⟨n, hn⟩ := wholePart_ok (b := ⟨((ofLiteral L none).bigInt * o.bigInt).tdiv
      (10 ^ (ofLiteral L none).decimals), (ofLiteral L none).decimals⟩) (decimals_pos L)
    exact ⟨n, bind_eq_ok.mpr ⟨_, hproduct, hn⟩⟩

end Amount

structure Accepted (x : DecimalNumber) (decimals : Int) : Prop where
  constructs : ∀ h, ∃ b, construct h none (.number (numberText x)) = .ok b ∧ b.value = x.value
  converts : ∃ n, toAmount (.finite x) decimals = .ok n

theorem accepted_iff (x : DecimalNumber) (decimals : Int) :
    Accepted x decimals ↔
      PlainText x.text ∧ PowerReads (max 6 (behindDot x.text).length) decimals := by
  by_cases hplain : PlainText x.text
  · rw [and_iff_right hplain, ← toAmount_ok_iff hplain]
    refine ⟨fun h => h.converts, fun hconverts => ⟨fun h => ?_, hconverts⟩⟩
    obtain ⟨L, hvalue, hconstruct⟩ := construct_plain h hplain
    exact ⟨_, hconstruct, (value_ofLiteral_default L).trans hvalue⟩
  · refine iff_of_false (fun h => ?_) fun h => hplain h.1
    obtain ⟨b, hb, -⟩ := h.constructs emptyHeap
    rw [construct_marked emptyHeap hplain] at hb
    cases hb

theorem ten_millionth_throws :
    numberText ⟨1, 7⟩ = "1e-7" ∧ validateNumber (.finite ⟨1, 7⟩) = ⟨1, 7⟩ ∧
      ¬ Accepted ⟨1, 7⟩ 6 := by
  refine ⟨by decide, rfl, fun h => ?_⟩
  obtain ⟨b, hb, -⟩ := h.constructs emptyHeap
  have hthrows : construct emptyHeap none (.number (numberText ⟨1, 7⟩)) = .error .syntaxError := by
    decide
  rw [hthrows] at hb
  cases hb

end OraidexSdk
