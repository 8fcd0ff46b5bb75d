import OraidexSdk.BigDecimal.Flooring
import OraidexSdk.BigDecimal.Soundness
import OraidexSdk.Decimal.Truncation
import OraidexSdk.Js.Rendering
import OraidexSdk.Loops.Outcome

namespace OraidexSdk
open Js DigitText DecimalLiteral DecimalNumber ScaledInteger BigDecimal Script Outcome

def emptyHeap : Heap := ⟨0, fun _ => ⟨0, 0⟩⟩

def numberText (x : DecimalNumber) : String := String.ofList x.text

theorem toList_numberText (x : DecimalNumber) : (numberText x).toList = x.text := by
  rw [numberText, String.toList_ofList]

theorem outcome_number (f : Kernel) (h : Heap) (t : BigDecimal) (text : String) :
    outcome f h t (.number text) =
      (do combine f t (← parse text.toList (some t.decimals))) := rfl

section Marked

theorem bigInt_word {cs : List Char} (hchars : ∀ c ∈ cs, NumberChar c ∧ c ≠ '.') {stray : Char}
    (hmem : stray ∈ cs) (hdigit : stray.isDigit = false) (hsign : stray ≠ '+' ∧ stray ≠ '-')
    (n : Nat) : Js.bigInt (cs ++ zeros n) = .error .syntaxError := by
  have hall : ∀ c ∈ cs ++ zeros n, NumberChar c := by
    intro c hc
    rcases List.mem_append.mp hc with hc | hc
    · exact (hchars c hc).1
    · exact (digits_chars (allDigits_zeros n) c hc).1
  exact bigInt_stray (fun c hc => (hall c hc).1) (fun c hc => (hall c hc).2)
    (List.mem_append_left _ hmem) hdigit hsign

theorem marked_pieces {cs front : List Char} {behind : Option (List Char)}
    (hmarked : Marked cs front behind) : Pieces cs [] front behind [] where
  spelled := by rw [List.append_nil, List.nil_append, hmarked.spelled]
  lead_blank := blank_nil
  trail_blank := blank_nil
  core_space := fun c hc => (hmarked.chars c (List.mem_append_left _ hc)).1.1
  core_dot := fun hc => (hmarked.chars _ (List.mem_append_left _ hc)).2 rfl
  fraction_space := fun c hc => (hmarked.chars c (List.mem_append_right _ hc)).1.1
  fraction_dot := fun hc => (hmarked.chars _ (List.mem_append_right _ hc)).2 rfl

theorem parse_marked {cs front : List Char} {behind : Option (List Char)}
    (hmarked : Marked cs front behind) : parse cs none = .error .syntaxError := by
  rw [parse_default, (marked_pieces hmarked).joined, List.append_nil, List.nil_append,
    bigInt_word hmarked.chars hmarked.mark rfl (by decide)]
  rfl

end Marked

theorem parse_word {cs : List Char} (hchars : ∀ c ∈ cs, NumberChar c ∧ c ≠ '.') {stray : Char}
    (hmem : stray ∈ cs) (hdigit : stray.isDigit = false) (hsign : stray ≠ '+' ∧ stray ≠ '-')
    (decimals : Option Nat) : parse cs decimals = .error .syntaxError := by
  have hsplit : cs.splitOn '.' = [cs] := List.splitOn_eq_singleton fun hc => (hchars _ hc).2 rfl
  rw [parse, hsplit]
  change (if decimals.getD 6 < 0 ∧ _ then _ else _) = _
  rw [if_neg (fun h => absurd h.1 (Nat.not_lt_zero _))]
  change (fun n => _) <$> Js.bigInt (cs ++ zeros (decimals.getD 6)) = _
  rw [bigInt_word hchars hmem hdigit hsign]
  rfl

theorem literal_plain (L : Literal) : DecimalNumber.PlainText L.text := by
  intro c hc
  simpa using literal_not_exponent L c hc

theorem marked_not_plain {cs front : List Char} {behind : Option (List Char)}
    (h : Marked cs front behind) : ¬ DecimalNumber.PlainText cs := by
  intro hplain
  have hmem : 'e' ∈ cs := by
    have hmark := h.mark
    rw [h.spelled]
    cases behind with
    | none => simpa [dotted] using hmark
    | some g =>
      rw [Option.getD_some, List.mem_append] at hmark
      rw [dotted, List.mem_append, List.mem_cons]
      exact hmark.imp_right .inr
  exact absurd (hplain 'e' hmem) (by decide)

theorem plain_iff (x : DecimalNumber) :
    DecimalNumber.PlainText x.text ↔ InPlainRange x.numerator.natAbs x.places := by
  constructor
  · intro hplain
    by_contra hrange
    obtain ⟨front, behind, hmarked⟩ := DecimalNumber.text_marked hrange
    exact marked_not_plain hmarked hplain
  · intro hrange
    obtain ⟨L, htext, -, -⟩ := DecimalNumber.reads_plain hrange
    exact htext ▸ literal_plain L

namespace BigDecimal

def toNumber (x : BigDecimal) : Number ℚ := number x.toText

theorem toNumber_eq {x : BigDecimal} (hd : 0 < x.decimals) : toNumber x = .finite x.value := by
  have hread := number_exponent x.printed .none
  rwa [List.append_nil, mul_one, printed_value, ← toText_eq_printed hd] at hread

-- What the constructor reads of a text at a scale.
def scaleText (scale : Nat) (cs : List Char) : List Char :=
  (cs.splitOn '.').headD [] ++ (behindDot cs).take scale

theorem parse_at {scale : Nat} (hs : scale ≠ 0) (cs : List Char) :
    parse cs (some scale) = (fun n => ⟨n, scale⟩) <$>
      Js.bigInt ((cs.splitOn '.').headD [] ++ fit scale (behindDot cs)) := by
  have hset : ¬ (scale < (behindDot cs).length ∧ unset (some scale) = true) := by simp [unset, hs]
  rw [parse, padding_eq_fit]
  exact if_neg hset

section Literals

variable (L : Literal) {scale : Nat}

theorem scaleText_literal : scaleText scale L.text = L.sign.text ++ L.ints ++ L.places.take scale := by
  rw [scaleText, behindDot, split_text, Literal.places]
  cases L.fraction <;> rfl

variable (hs : scale ≠ 0)
include hs

theorem ofLiteral_at :
    ofLiteral L (some scale) = ⟨truncate (L.value * 10 ^ scale), scale⟩ := by
  have hset : ¬ (scale < L.places.length ∧ unset (some scale) = true) := by simp [unset, hs]
  have hplaces : AllDigits L.places := L.fraction_digits
  have hquotient : L.value * 10 ^ scale =
      ((L.sign.factor * (numeral (L.ints ++ L.places) * 10 ^ scale : ℕ) : ℤ) : ℚ) /
        ((10 ^ L.places.length : ℕ) : ℤ) := by
    rw [Literal.value, scaled]
    push_cast
    ring
  have hdiv : (L.sign.factor * (numeral (L.ints ++ L.places) * 10 ^ scale : ℕ)).tdiv
      (10 ^ L.places.length : ℕ) = L.sign.factor * numeral (L.ints ++ fit scale L.places) := by
    rw [numeral_fit L.ints hplaces]
    cases L.sign <;>
      simp only [Sign.factor, one_mul, neg_mul, Int.neg_tdiv,
        Int.tdiv_eq_ediv_of_nonneg (Int.natCast_nonneg _), Int.natCast_ediv]
  rw [hquotient, truncate_div, hdiv]
  exact if_neg hset

theorem parse_literal_at :
    parse L.text (some scale) = .ok ⟨truncate (L.value * 10 ^ scale), scale⟩ :=
  (parse_text L (some scale)).trans (congrArg _ (ofLiteral_at L hs))

end Literals

section Scales

variable {scale : Nat} (hs : scale ≠ 0) {cs front : List Char} {behind : Option (List Char)}

section Marks

variable (hmarked : Marked cs front behind)
include hmarked

theorem scaleText_marked : scaleText scale cs = front ++ (behind.getD []).take scale := by
  rw [scaleText, (marked_pieces hmarked).split, (marked_pieces hmarked).behind_eq]
  cases behind <;> simp [parts]

include hs

theorem parse_marked_at : parse cs (some scale) =
    (fun n => ⟨n, scale⟩) <$> Js.bigInt (front ++ fit scale (behind.getD [])) := by
  rw [parse_at hs, (marked_pieces hmarked).split, (marked_pieces hmarked).behind_eq]
  cases behind <;> simp [parts]

theorem parse_marked_error (he : 'e' ∈ scaleText scale cs) :
    parse cs (some scale) = .error .syntaxError := by
  have hchars : ∀ c ∈ scaleText scale cs, NumberChar c ∧ c ≠ '.' := by
    intro c hc
    rw [scaleText_marked hmarked, List.mem_append] at hc
    exact hmarked.chars c (List.mem_append.mpr (hc.imp_right List.mem_of_mem_take))
  have hread := bigInt_word hchars he rfl (by decide) (scale - (behind.getD []).length)
  rw [scaleText_marked hmarked, List.append_assoc, ← fit_eq] at hread
  rw [parse_marked_at hs hmarked, hread]
  rfl

end Marks

theorem not_plain_of_mark (h : 'e' ∈ cs) : ¬ PlainText cs :=
  fun hplain => absurd (hplain 'e' h) (by decide)

theorem mark_mem_take {f : List Char} (h : f.length < scale) (e : Int) :
    'e' ∈ (f ++ exponentText e).take scale := by
  obtain ⟨k, hk⟩ : ∃ k, scale - f.length = k + 1 := ⟨scale - f.length - 1, by omega⟩
  rw [List.take_append, hk, exponentText, List.take_succ_cons]
  exact List.mem_append_right _ List.mem_cons_self

theorem mark_mem_scaleText {L : Literal} (h : L.places.length < scale) (e : Int) :
    'e' ∈ scaleText scale (L.text ++ exponentText e) := by
  rw [scaleText_marked (literal_marked L e), markedFront]
  rw [Literal.places] at h
  cases hL : L.fraction with
  | none => simp [mark_mem_exponentText]
  | some f =>
    rw [hL, Option.getD_some] at h
    exact List.mem_append_right _ (mark_mem_take h e)

include hs

theorem parse_exponent {L : Literal} (h : scale ≤ L.places.length) (e : Int) :
    PlainText (scaleText scale (L.text ++ exponentText e)) ∧
      parse (L.text ++ exponentText e) (some scale) =
        .ok ⟨L.sign.factor * numeral (L.ints ++ L.places.take scale), scale⟩ := by
  have hread := parse_marked_at hs (literal_marked L e)
  have htext : scaleText scale (L.text ++ exponentText e) = _ :=
    scaleText_marked (literal_marked L e)
  have hplaces : AllDigits L.places := L.fraction_digits
  have hdigits : AllDigits (L.ints ++ L.places.take scale) :=
    (allDigits_append _ _).mpr ⟨L.ints_digits, hplaces.sublist (List.take_sublist scale _)⟩
  have hne : L.ints ++ L.places.take scale ≠ [] := by
    have hlength := List.length_take_of_le h
    intro hnil
    rw [(List.append_eq_nil_iff.mp hnil).2] at hlength
    exact hs hlength.symm
  obtain ⟨f, hL⟩ : ∃ f, L.fraction = some f := by
    rw [Literal.places] at h
    cases hL : L.fraction with
    | none =>
      rw [hL] at h
      exact absurd (Nat.le_zero.mp h) hs
    | some f => exact ⟨f, rfl⟩
  have hf : L.places = f := by rw [Literal.places, hL, Option.getD_some]
  have hlonger : scale ≤ (f ++ exponentText e).length := by
    rw [List.length_append, ← hf]
    omega
  rw [markedFront, hL, Option.map_some, Option.getD_some] at hread htext
  rw [List.take_append_of_le_length (hf ▸ h), ← hf, List.append_assoc] at htext
  rw [fit_of_ge hlonger, List.take_append_of_le_length (hf ▸ h), ← hf, List.append_assoc,
    bigInt_digits hne hdigits] at hread
  let M : Literal := ⟨L.sign, L.ints ++ L.places.take scale, none, hdigits, allDigits_nil,
    by simpa using hne⟩
  rw [htext, hread]
  exact ⟨literal_plain M, rfl⟩

end Scales

section Operand

variable {scale : Nat} (hs : scale ≠ 0) {x : DecimalNumber}
include hs

theorem parse_plain_at (hplain : PlainText x.text) :
    PlainText (scaleText scale x.text) ∧
      parse x.text (some scale) = .ok ⟨truncate (x.value * 10 ^ scale), scale⟩ := by
  obtain ⟨L, htext, hvalue, -⟩ := reads_plain ((plain_iff x).mp hplain)
  have hread := parse_literal_at L hs
  rw [htext, hvalue] at hread
  refine ⟨fun c hc => hplain c ?_, hread⟩
  rw [← htext, Literal.text, body_eq]
  rw [← htext, scaleText_literal, Literal.places] at hc
  cases hL : L.fraction with
  | none => simpa [hL, dotted] using hc
  | some f =>
    simp only [hL, Option.getD_some, dotted, List.mem_append, List.mem_cons] at hc ⊢
    rcases hc with hc | hc
    · tauto
    · exact .inr (.inr (.inr (List.mem_of_mem_take hc)))

theorem parse_marked_digits (hx : 0 ≤ x.numerator) (hplain : ¬ PlainText x.text) :
    let digits := stripZeros (Nat.toDigits 10 x.numerator.natAbs)
    (scale < digits.length → PlainText (scaleText scale x.text) ∧
        parse x.text (some scale) = .ok ⟨numeral (digits.take (scale + 1)), scale⟩) ∧
      (digits.length ≤ scale → ¬ PlainText (scaleText scale x.text) ∧
        parse x.text (some scale) = .error .syntaxError) := by
  intro digits
  obtain ⟨L, e, hsign, -, hints, hplaces, htext, -⟩ :=
    magnitudeText_exponent ((plain_iff x).not.mp hplain)
  have hlength : L.places.length = digits.length - 1 := by rw [hplaces, List.length_drop]
  rw [text_of_nonneg hx, htext]
  constructor
  · intro hlong
    obtain ⟨hscale, hread⟩ := parse_exponent hs (L := L) (by omega) e
    have hdigits : L.ints ++ L.places.take scale = digits.take (scale + 1) := by
      rw [hints, hplaces, Nat.add_comm, List.take_add]
    refine ⟨hscale, ?_⟩
    rw [hread, hsign, hdigits]
    exact congrArg _ (congrArg (BigDecimal.mk · scale) (one_mul _))
  · intro hshort
    have hmark : 'e' ∈ scaleText scale (L.text ++ exponentText e) := mark_mem_scaleText (by omega) e
    exact ⟨not_plain_of_mark hmark, parse_marked_error hs (literal_marked L e) hmark⟩

theorem parse_marked_operand (hx : 0 ≤ x.numerator) (hplain : ¬ PlainText x.text) :
    (PlainText (scaleText scale x.text) ∧
        ∃ n : ℕ, 10 ^ scale ≤ n ∧ parse x.text (some scale) = .ok ⟨n, scale⟩) ∨
      (¬ PlainText (scaleText scale x.text) ∧
        parse x.text (some scale) = .error .syntaxError) := by
  obtain ⟨hlong, hshort⟩ := parse_marked_digits hs hx hplain
  obtain ⟨L, -, -, hleading, hints, -, -, -⟩ :=
    magnitudeText_exponent ((plain_iff x).not.mp hplain)
  generalize stripZeros (Nat.toDigits 10 x.numerator.natAbs) = digits at *
  rcases Nat.lt_or_ge scale digits.length with hscale | hscale
  · obtain ⟨hplain', hread⟩ := hlong hscale
    refine .inl ⟨hplain', _, ?_, hread⟩
    have htail : ((digits.drop 1).take scale).length = scale :=
      List.length_take_of_le (by rw [List.length_drop]; omega)
    have hpos := Nat.mul_le_mul_right (10 ^ scale) (Nat.pos_of_ne_zero (hints ▸ hleading))
    rw [Nat.add_comm, List.take_add, numeral_append, htail]
    omega
  · exact .inr (hshort hscale)

omit hs in
theorem marked_small (hx : 0 ≤ x.numerator) (hle : x.value ≤ 1) (hplain : ¬ PlainText x.text) :
    x.value < 1 / 2 := by
  have hrange := (plain_iff x).not.mp hplain
  have hpow : (0 : ℚ) < 10 ^ x.places := by positivity
  rw [value_of_nonneg hx] at hle ⊢
  rw [div_le_one hpow] at hle
  rw [div_lt_iff₀ hpow]
  have hmagnitude : x.numerator.natAbs ≤ 10 ^ x.places := by exact_mod_cast hle
  have hhigh : x.numerator.natAbs < 10 ^ (21 + x.places) :=
    hmagnitude.trans_lt (Nat.pow_lt_pow_right (by decide) (by omega))
  have hlow : (Nat.toDigits 10 x.numerator.natAbs).length + 6 ≤ x.places := by
    by_contra hshort
    exact hrange ⟨hhigh, .inr (by omega)⟩
  have hlt := (toDigits_length_le x.numerator.natAbs _ Nat.length_toDigits_pos).mp le_rfl
  have hsmall : x.numerator.natAbs * 10 ^ 6 < 10 ^ x.places := by
    refine (Nat.mul_lt_mul_of_pos_right hlt (by decide)).trans_le ?_
    rw [← Nat.pow_add]
    exact Nat.pow_le_pow_right (by decide) hlow
  have hcast : (x.numerator.natAbs : ℚ) * 10 ^ 6 < 10 ^ x.places := by exact_mod_cast hsmall
  have hnonneg : (0 : ℚ) ≤ x.numerator.natAbs := Nat.cast_nonneg _
  linarith

end Operand

section Product

def wholeLiteral (n : Int) : Literal :=
  ⟨signOf ⟨n, 0⟩, magnitude ⟨n, 0⟩, none, allDigits_toDigits _, allDigits_nil, by simp [magnitude]⟩

theorem wholeLiteral_text (n : Int) : (wholeLiteral n).text = bigIntText n :=
  (bigIntText_eq ⟨n, 0⟩).symm

theorem wholeLiteral_value (n : Int) : (wholeLiteral n).value = n := by
  have hnum : numeral ((wholeLiteral n).ints ++ (wholeLiteral n).places) = n.natAbs := by
    change numeral (magnitude ⟨n, 0⟩ ++ []) = _
    rw [List.append_nil, magnitude, numeral_toDigits]
  have hsign := sign_mul_natAbs ⟨n, 0⟩
  rw [Literal.value, hnum]
  change scaled ℚ 10 ((signOf ⟨n, 0⟩).factor * (n.natAbs : ℤ)) 0 = n
  rw [hsign, scaled, pow_zero, div_one]

theorem number_bigIntText (n : Int) : number (bigIntText n) = .finite n := by
  have hread := number_exponent (wholeLiteral n) .none
  rwa [List.append_nil, mul_one, wholeLiteral_text, wholeLiteral_value] at hread

theorem construct_bigIntText (h : Heap) (n : Int) :
    construct h none (.string (String.ofList (bigIntText n))) = .ok ⟨n * 10 ^ 6, 6⟩ := by
  have hscale : ofLiteral (wholeLiteral n) none = ofLiteral (wholeLiteral n) (some 6) := by
    rw [ofLiteral, ofLiteral, if_neg fun h => absurd h.1 (Nat.not_lt_zero _),
      if_neg fun h => absurd h.1 (Nat.not_lt_zero _)]
    rfl
  have hcast : (n : ℚ) * 10 ^ 6 = ((n * 10 ^ 6 : ℤ) : ℚ) := by push_cast; rfl
  rw [construct, String.toList_ofList, ← wholeLiteral_text, parse_text, hscale,
    ofLiteral_at _ (by decide), wholeLiteral_value, hcast, truncate_intCast]

variable (h : Heap) (n : Int) {x : DecimalNumber}

theorem product_eq : contents (do
      mul (← new (.string (String.ofList (bigIntText n))) none) (.number (numberText x))) h =
    (fun o : BigDecimal => ⟨n * o.bigInt, 6⟩) <$> parse x.text (some 6) := by
  have hother := number_not_object (numberText x)
  have hproduct := contents_fresh_ok mulKernel hother (construct_bigIntText h n)
  rw [outcome_number, toList_numberText] at hproduct
  refine hproduct.trans ?_
  change (parse x.text (some 6) >>= combine mulKernel ⟨n * 10 ^ 6, 6⟩) = _
  have hcombine (o : BigDecimal) :
      combine mulKernel ⟨n * 10 ^ 6, 6⟩ o = .ok ⟨n * o.bigInt, 6⟩ := by
    have hswap : n * 10 ^ 6 * o.bigInt = n * o.bigInt * 10 ^ 6 := by ring
    rw [combine, mulKernel, hswap, Int.mul_tdiv_cancel _ (by decide)]
    rfl
  cases parse x.text (some 6) with
  | error e => rfl
  | ok o => exact hcombine o

end Product

end BigDecimal

theorem number_numberText (x : DecimalNumber) : number (numberText x).toList = .finite x.value := by
  rw [toList_numberText, number_text]

end OraidexSdk
