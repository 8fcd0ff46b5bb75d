import OraidexSdk.BigDecimal.Parsing

namespace OraidexSdk.BigDecimal
open Js DigitText ScaledInteger DecimalLiteral

def magnitude (x : BigDecimal) : List Char := Nat.toDigits 10 x.bigInt.natAbs

def signOf (x : BigDecimal) : Sign := if x.bigInt < 0 then .minus else .unsigned

def paddedDigits (x : BigDecimal) : List Char :=
  zeros (x.decimals - x.magnitude.length) ++ x.magnitude

def fractionDigits (x : BigDecimal) : List Char :=
  x.paddedDigits.drop (x.paddedDigits.length - x.decimals)

theorem signOf_of_neg {x : BigDecimal} (h : x.bigInt < 0) : x.signOf = .minus := if_pos h

theorem signOf_of_nonneg {x : BigDecimal} (h : 0 ≤ x.bigInt) : x.signOf = .unsigned :=
  if_neg (Int.not_lt.mpr h)

theorem bigIntText_eq (x : BigDecimal) : bigIntText x.bigInt = x.signOf.text ++ x.magnitude := by
  rw [bigIntText, magnitude]
  rcases x with ⟨n | n, d⟩
  · rw [signOf_of_nonneg (Int.natCast_nonneg n)]
    simp [Int.repr, Sign.text]
  · rw [signOf_of_neg (Int.negSucc_lt_zero n)]
    simp [Int.repr, Sign.text]

theorem magnitude_head (x : BigDecimal) : x.magnitude.head? ≠ some '-' := by
  intro h
  have hm := allDigits_toDigits x.bigInt.natAbs _ (List.mem_of_mem_head? h)
  simp at hm

theorem head_minus (x : BigDecimal) :
    (bigIntText x.bigInt).head? = some '-' ↔ x.bigInt < 0 := by
  rw [bigIntText_eq]
  rcases lt_or_ge x.bigInt 0 with h | h
  · simp [signOf_of_neg h, Sign.text, h]
  · simp [signOf_of_nonneg h, Sign.text, magnitude_head x, h]

theorem split_minus (x : BigDecimal) :
    (if (bigIntText x.bigInt).head? = some '-' then (bigIntText x.bigInt).drop 1
      else bigIntText x.bigInt) = x.magnitude ∧
    (if (bigIntText x.bigInt).head? = some '-' then ['-'] else []) = x.signOf.text := by
  rcases lt_or_ge x.bigInt 0 with h | h
  · rw [if_pos ((head_minus x).mpr h), if_pos ((head_minus x).mpr h), bigIntText_eq, signOf_of_neg h]
    exact ⟨rfl, rfl⟩
  · have hn : ¬ (bigIntText x.bigInt).head? = some '-' := fun hm => absurd ((head_minus x).mp hm) (by omega)
    rw [if_neg hn, if_neg hn, bigIntText_eq, signOf_of_nonneg h]
    exact ⟨rfl, rfl⟩

theorem toText_shape (x : BigDecimal) :
    x.toText = x.signOf.text ++
      (if (x.decimals : Int) - x.magnitude.length ≥ 0 then ['0']
        else slice x.magnitude 0 (-x.decimals)) ++
      if stripZeros (sliceFrom x.paddedDigits (-x.decimals)) = [] then []
        else '.' :: stripZeros (sliceFrom x.paddedDigits (-x.decimals)) := by
  obtain ⟨hstr, hsign⟩ := split_minus x
  have hpad : (if (x.decimals : Int) - x.magnitude.length ≥ 0 then
      zeros ((x.decimals : Int) - x.magnitude.length).toNat ++ x.magnitude else x.magnitude) =
        x.paddedDigits := by
    rw [paddedDigits]
    split
    · congr 2
      omega
    · rw [Nat.sub_eq_zero_of_le (by omega)]
      rfl
  simp only [toText, hstr, hsign, hpad]

section PositiveScale

variable {x : BigDecimal} (hd : 0 < x.decimals)
include hd

theorem nominator_eq :
    (if (x.decimals : Int) - x.magnitude.length ≥ 0 then ['0']
      else slice x.magnitude 0 (-x.decimals)) =
        Nat.toDigits 10 (x.bigInt.natAbs / 10 ^ x.decimals) := by
  have hlen : x.magnitude.length ≤ x.decimals ↔ x.bigInt.natAbs < 10 ^ x.decimals :=
    toDigits_length_le _ _ hd
  split
  · rw [Nat.div_eq_of_lt (hlen.mp (by omega)), Nat.toDigits_zero]
  · rw [slice, relativeIndex_neg hd, show relativeIndex x.magnitude.length 0 = 0 by simp [relativeIndex],
      List.drop_zero]
    exact toDigits_take _ _ (by rw [magnitude] at *; omega)

theorem denominator_eq : sliceFrom x.paddedDigits (-x.decimals) = x.fractionDigits := by
  rw [sliceFrom, relativeIndex_neg hd, fractionDigits]

end PositiveScale

theorem allDigits_padded (x : BigDecimal) : AllDigits x.paddedDigits :=
  (allDigits_append _ _).mpr ⟨allDigits_zeros _, allDigits_toDigits _⟩

theorem allDigits_fraction (x : BigDecimal) : AllDigits x.fractionDigits :=
  (allDigits_padded x).sublist (List.drop_sublist _ _)

theorem length_padded (x : BigDecimal) : x.decimals ≤ x.paddedDigits.length := by
  simp only [paddedDigits, List.length_append, length_zeros]
  omega

theorem length_fraction (x : BigDecimal) : x.fractionDigits.length = x.decimals := by
  rw [fractionDigits, List.length_drop]
  have := length_padded x
  omega

theorem numeral_fraction (x : BigDecimal) :
    numeral x.fractionDigits = x.bigInt.natAbs % 10 ^ x.decimals := by
  have hlen := length_padded x
  rw [fractionDigits, numeral_drop (allDigits_padded x), Nat.sub_sub_self hlen, paddedDigits,
    numeral_zeros_append, magnitude, numeral_toDigits]

theorem sign_mul_natAbs (x : BigDecimal) : x.signOf.factor * (x.bigInt.natAbs : Int) = x.bigInt := by
  rw [signOf]
  split <;> simp only [Sign.factor] <;> omega

def printed (x : BigDecimal) : Literal where
  sign := x.signOf
  ints := Nat.toDigits 10 (x.bigInt.natAbs / 10 ^ x.decimals)
  fraction := if stripZeros x.fractionDigits = [] then none else some (stripZeros x.fractionDigits)
  ints_digits := allDigits_toDigits _
  fraction_digits := by
    split
    · exact allDigits_nil
    · exact (allDigits_fraction x).stripZeros
  has_digit := by simp

theorem printed_places (x : BigDecimal) : x.printed.places = stripZeros x.fractionDigits := by
  simp only [Literal.places, printed]
  split
  · rename_i h
    exact h.symm
  · rfl

theorem toText_eq_printed {x : BigDecimal} (hd : 0 < x.decimals) : x.toText = x.printed.text := by
  rw [toText_shape, nominator_eq hd, denominator_eq hd, Literal.text, Literal.body]
  simp only [printed]
  split <;> simp

theorem printed_aligned (x : BigDecimal) :
    x.printed.places.length ≤ x.decimals ∧
      x.printed.sign.factor * (numeral (x.printed.ints ++ fit x.decimals x.printed.places) : Int) =
        x.bigInt := by
  obtain ⟨k, hk⟩ := stripZeros_append x.fractionDigits
  have hlen : (stripZeros x.fractionDigits).length + k = x.decimals := by
    have h := congrArg List.length hk
    rw [length_fraction, List.length_append, length_zeros] at h
    exact h.symm
  have hle : (stripZeros x.fractionDigits).length ≤ x.decimals := by omega
  have hfit : fit x.decimals (stripZeros x.fractionDigits) = x.fractionDigits := by
    rw [fit_of_le hle, ← hlen, Nat.add_sub_cancel_left]
    exact hk.symm
  have hnum : numeral (x.printed.ints ++ x.fractionDigits) = x.bigInt.natAbs := by
    rw [numeral_append, length_fraction, numeral_fraction]
    simp only [printed, numeral_toDigits]
    exact Nat.div_add_mod' _ _
  rw [printed_places, hfit, hnum]
  exact ⟨hle, sign_mul_natAbs x⟩

theorem ofLiteral_printed (x : BigDecimal) :
    ofLiteral x.printed (some x.decimals) = x := by
  obtain ⟨hle, hnum⟩ := printed_aligned x
  rw [ofLiteral, if_neg (fun hc => by simp only [Option.getD_some] at hc; omega)]
  simp only [Option.getD_some, hnum]

theorem printed_value (x : BigDecimal) : x.printed.value = x.value := by
  have hle : x.printed.places.length ≤ (some x.decimals).getD 6 := (printed_aligned x).1
  rw [← value_ofLiteral_of_le x.printed hle, ofLiteral_printed x]

structure PrintsExactly (x : BigDecimal) : Prop where
  denotes : readDecimal x.toString.toList = some x.value
  reparses : ∀ h, construct h (some x.decimals) (.string x.toString) = .ok x

theorem prints_of_positive {x : BigDecimal} (hd : 0 < x.decimals) : PrintsExactly x := by
  have htext : x.toString.toList = x.printed.text := by
    rw [toString, String.toList_ofList, toText_eq_printed hd]
  constructor
  · rw [htext, read_text, printed_value x]
  · intro h
    rw [construct, htext, parse_text, ofLiteral_printed x]

theorem stripZeros_of_numeral {cs : List Char} (hdigits : AllDigits cs) (hzero : numeral cs = 0) :
    stripZeros cs = [] := by
  rw [stripZeros, List.rdropWhile_eq_nil_iff]
  exact fun c hc => beq_iff_eq.mpr ((numeral_eq_zero_iff hdigits).mp hzero c hc)

theorem toText_whole_iff (n m d : Nat) :
    toText ⟨n, d + 1⟩ = Nat.toDigits 10 m ↔ n = m * 10 ^ (d + 1) := by
  let whole : Literal :=
    ⟨.unsigned, Nat.toDigits 10 m, none, allDigits_toDigits m, allDigits_nil, by simp⟩
  have hwhole : whole.text = Nat.toDigits 10 m := rfl
  have hvalue : whole.value = m := by
    have hplaces : whole.places = [] := rfl
    rw [whole.value_of_unsigned rfl, hplaces, List.append_nil, List.length_nil, pow_zero, div_one]
    exact congrArg _ (numeral_toDigits m)
  rw [toText_eq_printed (Nat.succ_pos d), ← hwhole]
  constructor
  · intro htext
    have hread := congrArg readDecimal htext
    rw [read_text, read_text, printed_value, Option.some_inj, hvalue, value, scaled,
      div_eq_iff (by positivity)] at hread
    change ((n : Int) : ℚ) = m * 10 ^ (d + 1) at hread
    exact_mod_cast hread
  · rintro rfl
    have hfraction := numeral_fraction ⟨(m * 10 ^ (d + 1) : ℕ), d + 1⟩
    rw [Int.natAbs_natCast, Nat.mul_mod_left] at hfraction
    have hstrip := stripZeros_of_numeral (allDigits_fraction _) hfraction
    rw [Literal.text, Literal.body]
    simp only [printed, hstrip, if_pos, Int.natAbs_natCast]
    rw [Nat.mul_div_cancel _ (Nat.pow_pos (by decide)), signOf_of_nonneg (Int.natCast_nonneg _)]
    rfl

section ZeroScale

variable {x : BigDecimal} (hd : x.decimals = 0)
include hd

-- slice(0, -0) is slice(0, 0), and slice(-0) is the whole string.
theorem toText_zero_scale :
    x.toText = x.signOf.text ++
      if stripZeros x.magnitude = [] then [] else '.' :: stripZeros x.magnitude := by
  have hlen : 0 < x.magnitude.length := Nat.length_toDigits_pos
  have hpad : x.paddedDigits = x.magnitude := by
    rw [paddedDigits, hd, Nat.zero_sub]
    rfl
  have hneg : ¬ ((x.decimals : Int) - x.magnitude.length ≥ 0) := by omega
  have hslice : slice x.magnitude 0 (-x.decimals) = [] := by simp [slice, relativeIndex, hd]
  have htail : sliceFrom x.magnitude (-x.decimals) = x.magnitude := by
    simp [sliceFrom, relativeIndex, hd]
  rw [toText_shape, if_neg hneg, hslice, hpad, htail, List.append_nil]

theorem not_denotes_of_zero_scale : readDecimal x.toText ≠ some x.value := by
  rw [toText_zero_scale hd]
  by_cases hs : stripZeros x.magnitude = []
  · have hzero : x.bigInt = 0 := by
      have h := stripZeros_eq_nil hs
      rw [magnitude, numeral_toDigits] at h
      omega
    have hnone : readDecimal (Sign.unsigned.text ++ []) = none := by decide
    rw [if_pos hs, signOf_of_nonneg (by omega), hnone]
    exact (Option.some_ne_none _).symm
  · let L : Literal := ⟨x.signOf, [], some (stripZeros x.magnitude), allDigits_nil,
      (allDigits_toDigits _).stripZeros, hs⟩
    have hread : readDecimal (x.signOf.text ++ '.' :: stripZeros x.magnitude) = some L.value :=
      read_text L
    rw [if_neg hs, hread, ne_eq, Option.some_inj, value, hd, Literal.value]
    intro heq
    have hshift := scaled_shift (K := ℚ) 10 x.bigInt 0 L.places.length
    rw [Nat.zero_add] at hshift
    rw [← hshift, scaled_inj] at heq
    have habs : numeral L.places = x.bigInt.natAbs * 10 ^ L.places.length := by
      have h := congrArg Int.natAbs heq
      have hsign : L.sign.factor.natAbs = 1 := by cases L.sign <;> rfl
      rwa [Int.natAbs_mul, Int.natAbs_mul, hsign, Int.natAbs_pow, Nat.one_mul] at h
    have hlt := numeral_lt (allDigits_toDigits x.bigInt.natAbs).stripZeros
    have hnat : x.bigInt.natAbs = 0 := by
      by_contra hne
      have hle := Nat.le_mul_of_pos_left (10 ^ L.places.length) (Nat.pos_of_ne_zero hne)
      rw [← habs] at hle
      exact absurd hlt (Nat.not_lt.mpr hle)
    exact hs (by rw [magnitude, hnat]; rfl)

end ZeroScale

theorem prints_exactly_iff (x : BigDecimal) : PrintsExactly x ↔ 0 < x.decimals := by
  refine ⟨fun h => Nat.pos_of_ne_zero fun hd => ?_, prints_of_positive⟩
  have hden := h.denotes
  rw [toString, String.toList_ofList] at hden
  exact not_denotes_of_zero_scale hd hden

theorem zero_scale_misprints :
    toString ⟨5, 0⟩ = ".5" ∧ ¬ PrintsExactly ⟨5, 0⟩ := by
  refine ⟨by decide, fun h => ?_⟩
  have hden := h.denotes
  rw [toString, String.toList_ofList] at hden
  exact not_denotes_of_zero_scale rfl hden

end OraidexSdk.BigDecimal
