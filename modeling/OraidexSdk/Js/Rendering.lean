import OraidexSdk.Js.Number
import OraidexSdk.Js.Trim

namespace Js
open DigitText DecimalLiteral ScaledInteger

structure DecimalNumber where
  numerator : Int
  places : Nat
deriving DecidableEq, Repr

def exponentText (e : Int) : List Char :=
  'e' :: (if e < 0 then '-' else '+') :: Nat.toDigits 10 e.natAbs

-- The cases of Number::toString for 0.d₁d₂… × 10 ^ n with these digits.
def layout (digits : List Char) (n : Int) : List Char :=
  if digits.length ≤ n ∧ n ≤ 21 then digits ++ zeros (n.toNat - digits.length)
  else if 0 < n ∧ n ≤ 21 then digits.take n.toNat ++ '.' :: digits.drop n.toNat
  else if -6 < n ∧ n ≤ 0 then '0' :: '.' :: (zeros (-n).toNat ++ digits)
  else if digits.length = 1 then digits ++ exponentText (n - 1)
  else digits.take 1 ++ '.' :: (digits.drop 1 ++ exponentText (n - 1))

def magnitudeText (m places : Nat) : List Char :=
  if m = 0 then ['0']
  else layout (stripZeros (Nat.toDigits 10 m)) ((Nat.toDigits 10 m).length - places)

namespace DecimalNumber

def value (x : DecimalNumber) : ℚ := scaled ℚ 10 x.numerator x.places

def text (x : DecimalNumber) : List Char :=
  (if x.numerator < 0 then ['-'] else []) ++ magnitudeText x.numerator.natAbs x.places

-- n × 10 ^ e
def shifted (n e : Int) : DecimalNumber :=
  if 0 ≤ e then ⟨n * 10 ^ e.toNat, 0⟩ else ⟨n, (-e).toNat⟩

end DecimalNumber

section Plain

variable {digits : List Char} {n : Int}

theorem shift_places {k d z : Nat} (m : ℕ) (h : (k : Int) - d = z) :
    (m : ℚ) / 10 ^ z = m * 10 ^ ((d : Int) - k) := by
  have hz : (d : Int) - k = -(z : Int) := by omega
  rw [hz, zpow_neg, zpow_natCast, div_eq_mul_inv]

theorem layout_plain (hne : digits ≠ []) (hd : AllDigits digits) (hlow : -6 < n) (hhigh : n ≤ 21) :
    ∃ L : Literal, L.sign = .unsigned ∧ L.text = layout digits n ∧
      L.value = numeral digits * (10 : ℚ) ^ (n - digits.length) ∧
      L.places.length ≤ ((digits.length : Int) - n).toNat := by
  rw [layout]
  split
  · rename_i hwhole
    let L : Literal := ⟨.unsigned, digits ++ zeros (n.toNat - digits.length), none,
      (allDigits_append _ _).mpr ⟨hd, allDigits_zeros _⟩, allDigits_nil, by simp [hne]⟩
    have hplaces : L.places = [] := rfl
    have hexp : n - digits.length = ((n.toNat - digits.length : ℕ) : Int) := by omega
    refine ⟨L, rfl, rfl, ?_, Nat.zero_le _⟩
    rw [L.value_of_unsigned rfl, hplaces, List.append_nil, numeral_append_zeros, hexp, zpow_natCast,
      List.length_nil, pow_zero, div_one]
    push_cast
    rfl
  · rename_i hshort
    split
    · rename_i hpoint
      have htake := hd.sublist (List.take_sublist n.toNat digits)
      have hdrop := hd.sublist (List.drop_sublist n.toNat digits)
      let L : Literal := ⟨.unsigned, digits.take n.toNat, some (digits.drop n.toNat), htake, hdrop,
        by simp [hne]⟩
      have hall : L.ints ++ L.places = digits := List.take_append_drop n.toNat digits
      have hlength : L.places.length = digits.length - n.toNat := List.length_drop
      have hn : (n.toNat : Int) = n := by omega
      refine ⟨L, rfl, rfl, ?_, by omega⟩
      rw [L.value_of_unsigned rfl, hall, ← hn]
      exact shift_places (numeral digits) (by omega)
    · rename_i hnot
      have hsmall : -6 < n ∧ n ≤ 0 := by omega
      rw [if_pos hsmall]
      have hfraction : AllDigits (zeros (-n).toNat ++ digits) :=
        (allDigits_append _ _).mpr ⟨allDigits_zeros _, hd⟩
      let L : Literal := ⟨.unsigned, ['0'], some (zeros (-n).toNat ++ digits), by decide, hfraction,
        by simp⟩
      have hall : L.ints ++ L.places = zeros ((-n).toNat + 1) ++ digits := rfl
      have hlength : L.places.length = (-n).toNat + digits.length := by
        change (zeros (-n).toNat ++ digits).length = _
        rw [List.length_append, length_zeros]
      have hexp : n - digits.length = ((0 : ℕ) : Int) - (L.places.length : Int) := by omega
      refine ⟨L, rfl, rfl, ?_, by omega⟩
      rw [L.value_of_unsigned rfl, hall, numeral_zeros_append, hexp]
      exact shift_places (numeral digits) (by omega)

-- The numbers m / 10 ^ d that are written without an exponent.
def InPlainRange (m d : Nat) : Prop :=
  m < 10 ^ (21 + d) ∧ (m = 0 ∨ d < (Nat.toDigits 10 m).length + 6)

theorem stripped_value {m : Nat} (hm : m ≠ 0) (d : Nat) :
    stripZeros (Nat.toDigits 10 m) ≠ [] ∧
      (stripZeros (Nat.toDigits 10 m)).length ≤ (Nat.toDigits 10 m).length ∧
      numeral (stripZeros (Nat.toDigits 10 m)) * (10 : ℚ) ^ ((Nat.toDigits 10 m).length - (d : Int) -
        (stripZeros (Nat.toDigits 10 m)).length) = m / 10 ^ d := by
  obtain ⟨z, hsplit⟩ := stripZeros_append (Nat.toDigits 10 m)
  have hnum := congrArg numeral hsplit
  have hlen := congrArg List.length hsplit
  rw [numeral_toDigits, numeral_append_zeros] at hnum
  rw [List.length_append, length_zeros] at hlen
  refine ⟨fun hnil => ?_, by omega, ?_⟩
  · rw [hnil, numeral_nil, Nat.zero_mul] at hnum
    exact hm hnum
  · have hexp : ((Nat.toDigits 10 m).length : Int) - d - (stripZeros (Nat.toDigits 10 m)).length =
        (z : Int) - d := by omega
    rw [hexp, zpow_sub₀ (by norm_num), zpow_natCast, zpow_natCast, ← mul_div_assoc]
    congr 1
    exact_mod_cast hnum.symm

theorem magnitudeText_plain {m d : Nat} (hrange : InPlainRange m d) :
    ∃ L : Literal, L.sign = .unsigned ∧ L.text = magnitudeText m d ∧ L.value = (m : ℚ) / 10 ^ d ∧
      L.places.length ≤ d := by
  obtain ⟨hhigh, hlow⟩ := hrange
  rw [magnitudeText]
  split
  · rename_i hm
    let L : Literal := ⟨.unsigned, ['0'], none, by decide, allDigits_nil, by simp⟩
    have hzero : numeral (L.ints ++ L.places) = 0 := rfl
    refine ⟨L, rfl, rfl, ?_, Nat.zero_le d⟩
    rw [L.value_of_unsigned rfl, hzero, hm, Nat.cast_zero, zero_div, zero_div]
  · rename_i hm
    obtain ⟨hne, hlength, hstripped⟩ := stripped_value hm d
    have hbound := (toDigits_length_le m (21 + d) (by omega)).mpr hhigh
    obtain ⟨L, hsign, htext, hvalue, hplaces⟩ :=
      layout_plain (n := (Nat.toDigits 10 m).length - d) hne (allDigits_toDigits m).stripZeros
        (by omega) (by omega)
    exact ⟨L, hsign, htext, hvalue.trans hstripped, by omega⟩

end Plain

section Exponent

-- What stands behind a decimal literal, and the power of ten that it stands for.
inductive Exponent : List Char → ℚ → Prop where
  | none : Exponent [] 1
  | mark (e : Int) : Exponent (exponentText e) (10 ^ e)

theorem exponentValue_digits (e : Int) :
    exponentValue ((if e < 0 then '-' else '+') :: Nat.toDigits 10 e.natAbs) = some e := by
  have hdigits : Nat.toDigits 10 e.natAbs ≠ [] ∧ AllDigits (Nat.toDigits 10 e.natAbs) :=
    ⟨Nat.toDigits_ne_nil, allDigits_toDigits _⟩
  split
  · have hsign : splitSign ('-' :: Nat.toDigits 10 e.natAbs) = (.minus, Nat.toDigits 10 e.natAbs) :=
      rfl
    rw [exponentValue, hsign]
    change (if _ then some ((-1 : ℤ) * _) else none) = _
    rw [if_pos hdigits, numeral_toDigits]
    congr 1
    omega
  · have hsign : splitSign ('+' :: Nat.toDigits 10 e.natAbs) = (.plus, Nat.toDigits 10 e.natAbs) :=
      rfl
    rw [exponentValue, hsign]
    change (if _ then some ((1 : ℤ) * _) else none) = _
    rw [if_pos hdigits, numeral_toDigits]
    congr 1
    omega

theorem scientific_exponent (L : Literal) {tail : List Char} {factor : ℚ}
    (h : Exponent tail factor) : scientific (L.text ++ tail) = some (L.value * factor) := by
  cases h with
  | none => rw [List.append_nil, mul_one, scientific_literal]
  | mark e =>
    have hmarks := literal_not_exponent L
    rw [scientific, List.span_eq_takeWhile_dropWhile, List.takeWhile_append_of_pos hmarks,
      List.dropWhile_append_of_pos hmarks]
    change (do return (← readDecimal (L.text ++ [])) *
      10 ^ (← exponentValue ((if e < 0 then '-' else '+') :: Nat.toDigits 10 e.natAbs))) = _
    rw [List.append_nil, read_text, exponentValue_digits]
    rfl

-- A character that is no blank and no radix letter, so that BigInt reads decimals.
def NumberChar (c : Char) : Prop := isWhitespace c = false ∧ radixPrefix? c = none

instance (c : Char) : Decidable (NumberChar c) := inferInstanceAs (Decidable (_ ∧ _))

theorem numberChars_of_all {cs : List Char} (h : cs.all fun c => decide (NumberChar c ∧ c ≠ '.')) :
    ∀ c ∈ cs, NumberChar c ∧ c ≠ '.' :=
  fun c hc => of_decide_eq_true (List.all_eq_true.mp h c hc)

theorem digits_chars {cs : List Char} (h : AllDigits cs) : ∀ c ∈ cs, NumberChar c ∧ c ≠ '.' := by
  intro c hc
  have hdigit := h c hc
  refine ⟨⟨isDigit_not_whitespace hdigit, radixPrefix_digit hdigit⟩, ?_⟩
  rintro rfl
  cases hdigit

theorem mem_exponentText {e : Int} {c : Char} (hc : c ∈ exponentText e) :
    c.isDigit = true ∨ c ∈ ['+', '-', 'e'] := by
  rw [exponentText, List.mem_cons, List.mem_cons] at hc
  rcases hc with rfl | rfl | hc
  · exact .inr (by decide)
  · split <;> exact .inr (by decide)
  · exact .inl (allDigits_toDigits _ c hc)

theorem exponentText_chars (e : Int) : ∀ c ∈ exponentText e, NumberChar c ∧ c ≠ '.' := by
  have hmarks : ∀ c ∈ ['+', '-', 'e'], NumberChar c ∧ c ≠ '.' := numberChars_of_all rfl
  intro c hc
  rcases mem_exponentText hc with hdigit | hmark
  · exact digits_chars (List.forall_mem_singleton.mpr hdigit) c (List.mem_singleton_self c)
  · exact hmarks c hmark

theorem mark_mem_exponentText (e : Int) : 'e' ∈ exponentText e := List.mem_cons_self

theorem number_exponent (L : Literal) {tail : List Char} {factor : ℚ} (h : Exponent tail factor) :
    number (L.text ++ tail) = .finite (L.value * factor) := by
  have hne : L.text ++ tail ≠ [] := by simp [Literal.text, body_ne_nil L]
  rw [number_decimal hne, decimalNumber, scientific_exponent L h]
  intro c hc
  rcases List.mem_append.mp hc with hc | hc
  · rcases text_chars L c hc with hdigit | rfl | rfl | rfl
    · exact .inl hdigit
    all_goals exact .inr (by decide)
  · cases h with
    | none => cases hc
    | mark e => exact (mem_exponentText hc).imp_right (List.mem_cons_of_mem _)

theorem layout_exponent {digits : List Char} {n : Int} (hne : digits ≠ []) (hd : AllDigits digits)
    (h : n ≤ -6 ∨ 21 < n) :
    ∃ L : Literal, L.sign = .unsigned ∧ L.ints = digits.take 1 ∧ L.places = digits.drop 1 ∧
      layout digits n = L.text ++ exponentText (n - 1) ∧
      L.value * 10 ^ (n - 1) = numeral digits * (10 : ℚ) ^ (n - digits.length) := by
  rw [layout, if_neg (by omega), if_neg (by omega), if_neg (by omega)]
  split
  · rename_i hone
    let L : Literal := ⟨.unsigned, digits, none, hd, allDigits_nil, by simpa using hne⟩
    have htake : digits.take 1 = digits := List.take_of_length_le hone.le
    have hdrop : digits.drop 1 = [] := List.drop_eq_nil_of_le hone.le
    have hplaces : L.places = [] := rfl
    refine ⟨L, rfl, htake.symm, hdrop.symm, rfl, ?_⟩
    rw [L.value_of_unsigned rfl, hplaces, List.append_nil, List.length_nil, pow_zero, div_one, hone,
      Nat.cast_one]
  · let L : Literal := ⟨.unsigned, digits.take 1, some (digits.drop 1),
      hd.sublist (List.take_sublist 1 digits), hd.sublist (List.drop_sublist 1 digits), by simp [hne]⟩
    have hpos : 0 < digits.length := List.length_pos_iff.mpr hne
    have hall : L.ints ++ L.places = digits := List.take_append_drop 1 digits
    have hlength : L.places.length = digits.length - 1 := List.length_drop
    refine ⟨L, rfl, rfl, rfl, ?_, ?_⟩
    · change _ = (digits.take 1 ++ '.' :: digits.drop 1) ++ exponentText (n - 1)
      simp
    · have hexp : n - digits.length = n - 1 - ((digits.length - 1 : ℕ) : Int) := by omega
      rw [L.value_of_unsigned rfl, hall, hlength, hexp, zpow_sub₀ (by norm_num) (n - 1), zpow_natCast]
      ring

theorem magnitudeText_exponent {m d : Nat} (h : ¬ InPlainRange m d) :
    ∃ (L : Literal) (e : Int), L.sign = .unsigned ∧ numeral L.ints ≠ 0 ∧
      L.ints = (stripZeros (Nat.toDigits 10 m)).take 1 ∧
      L.places = (stripZeros (Nat.toDigits 10 m)).drop 1 ∧
      magnitudeText m d = L.text ++ exponentText e ∧ L.value * 10 ^ e = (m : ℚ) / 10 ^ d := by
  have hm : m ≠ 0 := by
    rintro rfl
    exact h ⟨Nat.pow_pos (by decide), .inl rfl⟩
  have hlength := toDigits_length_le m (21 + d) (by omega)
  rw [InPlainRange, ← hlength] at h
  obtain ⟨hne, -, hstripped⟩ := stripped_value hm d
  obtain ⟨L, hsign, hints, hplaces, htext, hvalue⟩ := layout_exponent
    (n := (Nat.toDigits 10 m).length - d) hne (allDigits_toDigits m).stripZeros (by omega)
  have hleading : L.ints = (Nat.toDigits 10 m).take 1 := hints.trans (stripZeros_take_one hne)
  rw [magnitudeText, if_neg hm]
  exact ⟨L, _, hsign, hleading ▸ leading_digit hm, hints, hplaces, htext, hvalue.trans hstripped⟩

structure Marked (cs front : List Char) (behind : Option (List Char)) : Prop where
  spelled : cs = front ++ dotted behind
  mark : 'e' ∈ front ++ behind.getD []
  chars : ∀ c ∈ front ++ behind.getD [], NumberChar c ∧ c ≠ '.'

def markedFront (L : Literal) (e : Int) : List Char :=
  match L.fraction with
  | none => L.sign.text ++ L.ints ++ exponentText e
  | some _ => L.sign.text ++ L.ints

theorem literal_marked (L : Literal) (e : Int) :
    Marked (L.text ++ exponentText e) (markedFront L e) (L.fraction.map (· ++ exponentText e)) := by
  have hsign : ∀ c ∈ L.sign.text, NumberChar c ∧ c ≠ '.' := by
    cases L.sign with
    | unsigned => exact nofun
    | plus => exact List.forall_mem_singleton.mpr ⟨⟨rfl, rfl⟩, by decide⟩
    | minus => exact List.forall_mem_singleton.mpr ⟨⟨rfl, rfl⟩, by decide⟩
  have hints := digits_chars L.ints_digits
  have hfraction := digits_chars L.fraction_digits
  have hexponent := exponentText_chars e
  have hmark := mark_mem_exponentText e
  rw [Literal.text, body_eq, markedFront]
  cases hL : L.fraction with
  | none =>
    refine ⟨by simp [dotted], by simp [hmark], fun c hc => ?_⟩
    simp only [Option.map_none, Option.getD_none, List.append_nil, List.mem_append] at hc
    exact hc.elim (fun hc => hc.elim (hsign c) (hints c)) (hexponent c)
  | some f =>
    rw [hL, Option.getD_some] at hfraction
    refine ⟨by simp [dotted], by simp [hmark], fun c hc => ?_⟩
    simp only [Option.map_some, Option.getD_some, List.mem_append] at hc
    exact hc.elim (fun hc => hc.elim (hsign c) (hints c))
      fun hc => hc.elim (hfraction c) (hexponent c)

end Exponent

theorem stripZeros_append_zeros (cs : List Char) (n : Nat) :
    stripZeros (cs ++ zeros n) = stripZeros cs := by
  induction n with
  | zero => rw [zeros, List.replicate_zero, List.append_nil]
  | succ n ih =>
    rw [zeros, List.replicate_succ', ← List.append_assoc, stripZeros,
      List.rdropWhile_concat_pos _ _ _ (by rfl)]
    exact ih

theorem toDigits_mul_tenPow {n : Nat} (hn : n ≠ 0) (k : Nat) :
    Nat.toDigits 10 (n * 10 ^ k) = Nat.toDigits 10 n ++ zeros k := by
  induction k with
  | zero => rw [Nat.pow_zero, Nat.mul_one, zeros, List.replicate_zero, List.append_nil]
  | succ k ih =>
    have hpos : 0 < n * 10 ^ k := Nat.mul_pos (Nat.pos_of_ne_zero hn) (Nat.pow_pos (by decide))
    rw [Nat.pow_succ, ← Nat.mul_assoc, Nat.toDigits_of_base_le (by decide) (by omega),
      Nat.mul_div_cancel _ (by decide), ih, Nat.mul_mod_left, List.append_assoc]
    change Nat.toDigits 10 n ++ (zeros k ++ ['0']) = _
    rw [zeros, zeros, ← List.replicate_succ']

theorem toDigits_tenPow (e : Nat) : Nat.toDigits 10 (10 ^ e) = '1' :: zeros e := by
  have hdigits := toDigits_mul_tenPow one_ne_zero e
  rwa [Nat.one_mul] at hdigits

namespace DecimalNumber

def PlainText (cs : List Char) : Prop := ∀ c ∈ cs, isExponentMark c = false

instance (cs : List Char) : Decidable (PlainText cs) :=
  decidable_of_iff (cs.all (! isExponentMark ·) = true) <| by
    simp only [PlainText, List.all_eq_true, Bool.not_eq_true']

theorem text_of_nonneg {x : DecimalNumber} (h : 0 ≤ x.numerator) :
    x.text = magnitudeText x.numerator.natAbs x.places := by
  rw [text, if_neg (by omega), List.nil_append]

theorem text_of_neg {x : DecimalNumber} (h : x.numerator < 0) :
    x.text = '-' :: magnitudeText x.numerator.natAbs x.places := by
  rw [text, if_pos h, List.singleton_append]

theorem value_of_nonneg {x : DecimalNumber} (h : 0 ≤ x.numerator) :
    x.value = (x.numerator.natAbs : ℚ) / 10 ^ x.places := by
  have hmagnitude : (x.numerator : ℚ) = (x.numerator.natAbs : ℚ) := by
    rw [← Int.cast_natCast, Int.natAbs_of_nonneg h]
  rw [value, scaled, hmagnitude, Nat.cast_ofNat]

theorem value_of_neg {x : DecimalNumber} (h : x.numerator < 0) :
    x.value = -((x.numerator.natAbs : ℚ) / 10 ^ x.places) := by
  have hmagnitude : (x.numerator : ℚ) = -(x.numerator.natAbs : ℚ) := by
    rw [← Int.cast_natCast, Int.ofNat_natAbs_of_nonpos h.le, Int.cast_neg, neg_neg]
  rw [value, scaled, hmagnitude, neg_div, Nat.cast_ofNat]

theorem reads_plain {x : DecimalNumber} (hrange : InPlainRange x.numerator.natAbs x.places) :
    ∃ L : Literal, L.text = x.text ∧ L.value = x.value ∧ L.places.length ≤ x.places := by
  obtain ⟨L, hsign, htext, hvalue, hplaces⟩ := magnitudeText_plain hrange
  rcases lt_or_ge x.numerator 0 with hneg | hnonneg
  · refine ⟨L.negative, ?_, ?_, hplaces⟩
    · rw [Literal.negative_text hsign, text_of_neg hneg, htext]
    · rw [Literal.negative_value hsign, hvalue, value_of_neg hneg]
  · exact ⟨L, htext.trans (text_of_nonneg hnonneg).symm, hvalue.trans (value_of_nonneg hnonneg).symm,
      hplaces⟩

theorem text_exponent {x : DecimalNumber} (hrange : ¬ InPlainRange x.numerator.natAbs x.places) :
    ∃ (L : Literal) (e : Int), numeral L.ints ≠ 0 ∧ x.text = L.text ++ exponentText e ∧
      L.value * 10 ^ e = x.value := by
  obtain ⟨L, e, hsign, hints, -, -, htext, hvalue⟩ := magnitudeText_exponent hrange
  rcases lt_or_ge x.numerator 0 with hneg | hnonneg
  · refine ⟨L.negative, e, hints, ?_, ?_⟩
    · rw [Literal.negative_text hsign, text_of_neg hneg, htext, List.cons_append]
    · rw [Literal.negative_value hsign, neg_mul, hvalue, value_of_neg hneg]
  · exact ⟨L, e, hints, (text_of_nonneg hnonneg).trans htext,
      hvalue.trans (value_of_nonneg hnonneg).symm⟩

theorem text_marked {x : DecimalNumber} (hrange : ¬ InPlainRange x.numerator.natAbs x.places) :
    ∃ front behind, Marked x.text front behind := by
  obtain ⟨L, e, -, htext, -⟩ := text_exponent hrange
  rw [htext]
  exact ⟨_, _, literal_marked L e⟩

theorem number_text (x : DecimalNumber) : number x.text = .finite x.value := by
  by_cases hrange : InPlainRange x.numerator.natAbs x.places
  · obtain ⟨L, htext, hvalue, -⟩ := reads_plain hrange
    have hread := number_exponent L .none
    rwa [List.append_nil, mul_one, htext, hvalue] at hread
  · obtain ⟨L, e, -, htext, hvalue⟩ := text_exponent hrange
    rw [htext, number_exponent L (.mark e), hvalue]

section Shifted

variable {n : Nat} (hn : n ≠ 0) (e : Int)
include hn

theorem shifted_digits : ∃ k : Nat, (k : Int) - (shifted n e).places = e ∧
    Nat.toDigits 10 (shifted n e).numerator.natAbs = Nat.toDigits 10 n ++ zeros k := by
  rw [shifted]
  split
  · have hnumerator : (n : Int) * 10 ^ e.toNat = (n * 10 ^ e.toNat : ℕ) := by
      push_cast
      rfl
    refine ⟨e.toNat, ?_, ?_⟩
    · change (e.toNat : Int) - (0 : ℕ) = e
      omega
    · rw [hnumerator, Int.natAbs_natCast, toDigits_mul_tenPow hn]
  · refine ⟨0, ?_, ?_⟩
    · change ((0 : ℕ) : Int) - ((-e).toNat : ℕ) = e
      omega
    · rw [Int.natAbs_natCast, zeros, List.replicate_zero, List.append_nil]

theorem shifted_stripped :
    stripZeros (Nat.toDigits 10 (shifted n e).numerator.natAbs) = stripZeros (Nat.toDigits 10 n) := by
  obtain ⟨k, -, hdigits⟩ := shifted_digits hn e
  rw [hdigits, stripZeros_append_zeros]

theorem shifted_plain_iff :
    InPlainRange (shifted n e).numerator.natAbs (shifted n e).places ↔
      -6 < (Nat.toDigits 10 n).length + e ∧ (Nat.toDigits 10 n).length + e ≤ 21 := by
  obtain ⟨k, hk, hdigits⟩ := shifted_digits hn e
  have hlength := congrArg List.length hdigits
  rw [List.length_append, length_zeros] at hlength
  have hne : (shifted n e).numerator.natAbs ≠ 0 := by
    intro hzero
    have hnum := congrArg numeral hdigits
    rw [hzero, numeral_append_zeros, numeral_toDigits, numeral_toDigits] at hnum
    exact Nat.mul_ne_zero hn (pow_ne_zero k (by decide)) hnum.symm
  rw [InPlainRange, or_iff_right hne, ← toDigits_length_le _ _ (by omega), hlength]
  omega

theorem shifted_nonneg : 0 ≤ (shifted n e).numerator := by
  rw [shifted]
  split
  · positivity
  · exact Int.natCast_nonneg n

omit hn in
theorem shifted_value : (shifted n e).value = n * (10 : ℚ) ^ e := by
  rw [shifted]
  split
  · obtain ⟨m, rfl⟩ := Int.eq_ofNat_of_zero_le ‹0 ≤ e›
    rw [value, scaled, pow_zero, div_one, Int.toNat_natCast, zpow_natCast]
    push_cast
    rfl
  · have hneg : e = -((-e).toNat : Int) := by omega
    rw [value, scaled]
    conv_rhs => rw [hneg, zpow_neg, zpow_natCast]
    rw [div_eq_mul_inv]
    push_cast
    rfl

end Shifted

end DecimalNumber

end Js
