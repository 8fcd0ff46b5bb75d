import OraidexSdk.BigDecimal.Model
import OraidexSdk.Decimal.Literal

namespace OraidexSdk.BigDecimal
open Js DigitText ScaledInteger DecimalLiteral

variable (L : Literal)

def fit (scale : Nat) (places : List Char) : List Char :=
  (places ++ zeros (scale - places.length)).take scale

def ofLiteral (decimals : Option Nat) : BigDecimal :=
  if decimals.getD 6 < L.places.length ∧ unset decimals then
    ⟨L.sign.factor * numeral (L.ints ++ L.places), L.places.length⟩
  else ⟨L.sign.factor * numeral (L.ints ++ fit (decimals.getD 6) L.places), decimals.getD 6⟩

theorem padding_eq_fit (scale : Nat) (f : Option (List Char)) :
    padding scale f = fit scale (f.getD []) := by
  match f with
  | none => simp [padding, fit, zeros]
  | some [] => simp [padding, fit, zeros]
  | some (c :: cs) => rfl

theorem length_fit (scale : Nat) (places : List Char) : (fit scale places).length = scale := by
  simp only [fit, List.length_take, List.length_append, length_zeros]
  omega

theorem allDigits_fit (scale : Nat) {places : List Char} (h : AllDigits places) :
    AllDigits (fit scale places) :=
  ((allDigits_append places _).mpr ⟨h, allDigits_zeros _⟩).sublist (List.take_sublist _ _)

theorem fit_eq (scale : Nat) (places : List Char) :
    fit scale places = places.take scale ++ zeros (scale - places.length) := by
  have hzeros : (zeros (scale - places.length)).length ≤ scale - places.length :=
    (length_zeros _).le
  rw [fit, List.take_append, List.take_of_length_le hzeros]

theorem fit_of_le {scale : Nat} {places : List Char} (h : places.length ≤ scale) :
    fit scale places = places ++ zeros (scale - places.length) := by
  rw [fit_eq, List.take_of_length_le h]

theorem fit_of_ge {scale : Nat} {places : List Char} (h : scale ≤ places.length) :
    fit scale places = places.take scale := by
  rw [fit_eq, Nat.sub_eq_zero_of_le h, zeros, List.replicate_zero, List.append_nil]

theorem numeral_fit (ints : List Char) {places : List Char} (h : AllDigits places) (scale : Nat) :
    numeral (ints ++ fit scale places) =
      numeral (ints ++ places) * 10 ^ scale / 10 ^ places.length := by
  rcases Nat.le_total places.length scale with hle | hge
  · have hpow : 10 ^ scale = 10 ^ (scale - places.length) * 10 ^ places.length := by
      rw [← Nat.pow_add, Nat.sub_add_cancel hle]
    rw [fit_of_le hle, ← List.append_assoc, numeral_append_zeros, hpow, ← Nat.mul_assoc,
      Nat.mul_div_cancel _ (Nat.pow_pos (by decide))]
  · have hsplit := numeral_append (ints ++ places.take scale) (places.drop scale)
    have hlt := numeral_lt (h.sublist (List.drop_sublist scale places))
    have hpow : 10 ^ places.length = 10 ^ (places.length - scale) * 10 ^ scale := by
      rw [← Nat.pow_add, Nat.sub_add_cancel hge]
    rw [List.append_assoc, List.take_append_drop] at hsplit
    rw [List.length_drop] at hsplit hlt
    rw [fit_of_ge hge, hpow, Nat.mul_div_mul_right _ _ (Nat.pow_pos (by decide)), hsplit,
      Nat.mul_comm (numeral _), Nat.mul_add_div (Nat.pow_pos (by decide)), Nat.div_eq_of_lt hlt,
      Nat.add_zero]

theorem sign_whitespace (s : Sign) : ∀ c ∈ s.text, isWhitespace c = false := by
  cases s with
  | unsigned => exact nofun
  | plus => exact List.forall_mem_singleton.mpr rfl
  | minus => exact List.forall_mem_singleton.mpr rfl

theorem bigInt_digits {s : Sign} {digits : List Char} (hne : digits ≠ []) (h : AllDigits digits) :
    Js.bigInt (s.text ++ digits) = .ok (s.factor * numeral digits) := by
  have htrim : trim (s.text ++ digits) = s.text ++ digits := by
    apply trim_eq_self
    intro c hc
    rcases List.mem_append.mp hc with hc | hc
    · exact sign_whitespace s c hc
    · exact isDigit_not_whitespace (h c hc)
  rw [Js.bigInt, htrim]
  cases s with
  | unsigned =>
    simp only [Sign.text, Sign.factor, List.nil_append, integerLiteral_digits h, one_mul]
  | plus =>
    simp only [Sign.text, Sign.factor, List.singleton_append, integerLiteral,
      decimalNumeral_digits 1 hne h]
  | minus =>
    simp only [Sign.text, Sign.factor, List.singleton_append, integerLiteral,
      decimalNumeral_digits (-1) hne h]

theorem fit_digits_ne_nil {decimals : Option Nat}
    (h : ¬ (decimals.getD 6 < L.places.length ∧ unset decimals)) :
    L.ints ++ fit (decimals.getD 6) L.places ≠ [] := by
  intro hnil
  obtain ⟨hints, hfit⟩ := List.append_eq_nil_iff.mp hnil
  have hscale : decimals.getD 6 = 0 := by
    have := length_fit (decimals.getD 6) L.places
    rwa [hfit, List.length_nil, eq_comm] at this
  have hplaces : L.places ≠ [] := by
    have := L.has_digit
    rwa [hints, List.nil_append] at this
  refine h ⟨?_, ?_⟩
  · rw [hscale]
    exact List.length_pos_iff.mpr hplaces
  · cases decimals with
    | none => simp at hscale
    | some d => simpa [unset] using hscale

theorem parse_text (decimals : Option Nat) : parse L.text decimals = .ok (ofLiteral L decimals) := by
  have hi := L.ints_digits
  have hf : AllDigits L.places := L.fraction_digits
  have hparts : (L.text.splitOn '.')[1]? = L.fraction := by
    rw [split_text]
    cases L.fraction <;> rfl
  have hplaces : ((L.text.splitOn '.')[1]?).getD [] = L.places := by rw [hparts, Literal.places]
  have hints : (L.text.splitOn '.').headD [] = L.sign.text ++ L.ints := by
    rw [split_text]
    rfl
  rw [parse, ofLiteral]
  simp only [padding_eq_fit, hplaces, hints, List.append_assoc]
  split
  · have hne : L.ints ++ L.places ≠ [] := L.has_digit
    rw [bigInt_digits hne ((allDigits_append _ _).mpr ⟨hi, hf⟩)]
    rfl
  · rename_i h
    rw [bigInt_digits (fit_digits_ne_nil L h) ((allDigits_append _ _).mpr ⟨hi, allDigits_fit _ hf⟩)]
    rfl

theorem value_ofLiteral_of_le {decimals : Option Nat} (h : L.places.length ≤ decimals.getD 6) :
    (ofLiteral L decimals).value = L.value := by
  rw [ofLiteral, if_neg (fun hc => absurd hc.1 (by omega)), value, Literal.value, fit_of_le h,
    ← List.append_assoc, numeral_append_zeros]
  have hs := scaled_shift (K := ℚ) 10 (L.sign.factor * numeral (L.ints ++ L.places))
    L.places.length (decimals.getD 6 - L.places.length)
  rw [Nat.add_sub_cancel' h] at hs
  rw [← hs]
  push_cast
  rw [mul_assoc]

theorem value_ofLiteral_unset {decimals : Option Nat} (h : unset decimals = true)
    (hlt : decimals.getD 6 < L.places.length) : (ofLiteral L decimals).value = L.value := by
  rw [ofLiteral, if_pos ⟨hlt, h⟩, value, Literal.value]

theorem value_ofLiteral_default : (ofLiteral L none).value = L.value := by
  rcases Nat.lt_or_ge 6 L.places.length with h | h
  · exact value_ofLiteral_unset L rfl h
  · exact value_ofLiteral_of_le L h

end OraidexSdk.BigDecimal
