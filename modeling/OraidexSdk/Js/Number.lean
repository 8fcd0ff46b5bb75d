import OraidexSdk.Js.Text
import OraidexSdk.Decimal.Literal

namespace Js
open DigitText DecimalLiteral

inductive Number (F : Type) where
  | nan
  | infinity (negative : Bool)
  | finite (value : F)
deriving DecidableEq

def exponentValue (cs : List Char) : Option ℤ :=
  let (sign, digits) := splitSign cs
  if digits ≠ [] ∧ AllDigits digits then some (sign.factor * numeral digits) else none

def isExponentMark (c : Char) : Bool := c = 'e' ∨ c = 'E'

def scientific (cs : List Char) : Option ℚ :=
  match cs.span (! isExponentMark ·) with
  | (mantissa, []) => readDecimal mantissa
  | (mantissa, _ :: exponent) => do return (← readDecimal mantissa) * 10 ^ (← exponentValue exponent)

def decimalNumber (cs : List Char) : Number ℚ :=
  match scientific cs with
  | some q => .finite q
  | none => .nan

-- The grammar StringToNumber reads after trimming.
def numberLiteral : List Char → Number ℚ
  | [] => .finite 0
  | '0' :: p :: cs =>
      match radixPrefix? p with
      | some b => ((radixNumeral b cs).map fun n => .finite n).getD .nan
      | none => decimalNumber ('0' :: p :: cs)
  | cs =>
      if cs = "Infinity".toList ∨ cs = "+Infinity".toList then .infinity false
      else if cs = "-Infinity".toList then .infinity true
      else decimalNumber cs

def number (cs : List Char) : Number ℚ := numberLiteral (trim cs)

def numberOf : Option String → Number ℚ
  | some s => number s.toList
  | none => .nan

-- The text of a number that holds a natural, which has no exponent below 10 ^ 21.
def naturalText (n : Nat) : String := String.ofList (Nat.toDigits 10 n)

theorem literal_not_exponent (L : Literal) : ∀ c ∈ L.text, (! isExponentMark c) = true := by
  intro c hc
  rw [Bool.not_eq_true', isExponentMark, decide_eq_false_iff_not]
  have hchar := text_chars L c hc
  rintro (rfl | rfl) <;> exact absurd hchar (by decide)

theorem scientific_literal (L : Literal) : scientific L.text = some L.value := by
  have hmarks := literal_not_exponent L
  rw [scientific, List.span_eq_takeWhile_dropWhile, List.takeWhile_eq_self_iff.mpr hmarks,
    List.dropWhile_eq_nil_iff.mpr hmarks]
  exact read_text L

theorem number_decimal {cs : List Char} (hne : cs ≠ [])
    (hchars : ∀ c ∈ cs, c.isDigit = true ∨ c ∈ ['.', '+', '-', 'e']) :
    number cs = decimalNumber cs := by
  have hmarks : ∀ c ∈ ['.', '+', '-', 'e'], isWhitespace c = false ∧ radixPrefix? c = none := by
    simp only [List.forall_mem_cons]
    exact ⟨⟨rfl, rfl⟩, ⟨rfl, rfl⟩, ⟨rfl, rfl⟩, ⟨rfl, rfl⟩, nofun⟩
  have hplain : ∀ c ∈ cs, isWhitespace c = false ∧ radixPrefix? c = none := by
    intro c hc
    rcases hchars c hc with hdigit | hmark
    · exact ⟨isDigit_not_whitespace hdigit, radixPrefix_digit hdigit⟩
    · exact hmarks c hmark
  have hletter : ∀ s : List Char, 'I' ∈ s → cs ≠ s := by
    rintro s hs rfl
    exact absurd (hchars 'I' hs) (by decide)
  rw [number, trim_eq_self fun c hc => (hplain c hc).1, numberLiteral.eq_def]
  split
  · exact absurd rfl hne
  · rename_i p cs
    rw [(hplain p (by simp)).2]
  · rw [if_neg, if_neg]
    · exact hletter _ (by decide)
    · exact not_or.mpr ⟨hletter _ (by decide), hletter _ (by decide)⟩

theorem number_digits {cs : List Char} (hne : cs ≠ []) (h : AllDigits cs) :
    number cs = .finite (numeral cs) := by
  let L : Literal := ⟨.unsigned, cs, none, h, allDigits_nil, by simpa using hne⟩
  have hread : scientific cs = some L.value := scientific_literal L
  have hplaces : L.places = [] := rfl
  have hvalue : L.value = numeral cs := by
    rw [L.value_of_unsigned rfl, hplaces, List.append_nil, List.length_nil, pow_zero, div_one]
  rw [number_decimal hne fun c hc => .inl (h c hc), decimalNumber, hread, hvalue]

theorem number_naturalText (n : Nat) : number (naturalText n).toList = .finite n := by
  rw [naturalText, String.toList_ofList, number_digits (by simp) (allDigits_toDigits n),
    numeral_toDigits]

end Js
