import OraidexSdk.BigDecimal.Flooring

namespace OraidexSdk.BigDecimal
open Js DigitText ScaledInteger DecimalLiteral

-- A sign exactly below zero, no redundant zero in front, no zero and no dot at the end.
structure Canonical (C : Literal) : Prop where
  sign : C.sign = if C.value < 0 then .minus else .unsigned
  ints_ne : C.ints ≠ []
  leading : ∀ ds, C.ints = '0' :: ds → ds = []
  fraction_ne : ∀ f, C.fraction = some f → f ≠ []
  trailing : ∀ f, C.fraction = some f → f.getLast? ≠ some '0'

theorem toDigits_leading {n : Nat} {ds : List Char} (h : Nat.toDigits 10 n = '0' :: ds) :
    ds = [] := by
  by_contra hne
  have hlength : 0 < ds.length := List.length_pos_iff.mpr hne
  have hdigits : AllDigits ds := ((allDigits_cons _ _).mp (h ▸ allDigits_toDigits n)).2
  have hvalue : n = numeral ds := by
    have hnum := congrArg numeral h
    rwa [numeral_toDigits, show '0' :: ds = zeros 1 ++ ds from rfl, numeral_zeros_append] at hnum
  have hshort := (toDigits_length_le n ds.length hlength).mpr (hvalue ▸ numeral_lt hdigits)
  rw [h, List.length_cons] at hshort
  omega

theorem stripZeros_last (cs : List Char) : (stripZeros cs).getLast? ≠ some '0' := by
  by_cases hnil : stripZeros cs = []
  · rw [hnil]
    exact nofun
  · rw [List.getLast?_eq_some_getLast hnil]
    intro hlast
    have hnot := List.rdropWhile_last_not (· == '0') cs hnil
    exact hnot (beq_iff_eq.mpr (Option.some.inj hlast))

theorem value_neg_iff (x : BigDecimal) : x.value < 0 ↔ x.bigInt < 0 := by
  rw [value, scaled, div_lt_iff₀ (by positivity), zero_mul, Int.cast_lt_zero]

theorem printed_canonical (x : BigDecimal) : Canonical x.printed := by
  refine ⟨?_, Nat.toDigits_ne_nil, fun ds => toDigits_leading, ?_, ?_⟩
  · simp only [printed_value, value_neg_iff]
    rfl
  · intro f hf
    simp only [printed] at hf
    split at hf
    · cases hf
    · rename_i hne
      cases hf
      exact hne
  · intro f hf
    simp only [printed] at hf
    split at hf
    · cases hf
    · cases hf
      exact stripZeros_last _

theorem construct_prints_canonical (h : Heap) (L : Literal) :
    ∃ (b : BigDecimal) (C : Literal),
      construct h none (.string (String.ofList L.text)) = .ok b ∧ b.value = L.value ∧
      b.toString = String.ofList C.text ∧ C.value = L.value ∧ Canonical C := by
  have hvalue := value_ofLiteral_default L
  refine ⟨ofLiteral L none, (ofLiteral L none).printed, ?_, hvalue, ?_, ?_, printed_canonical _⟩
  · rw [construct, String.toList_ofList]
    exact parse_text L none
  · rw [toString, toText_eq_printed (decimals_pos L)]
  · rw [printed_value, hvalue]

end OraidexSdk.BigDecimal
