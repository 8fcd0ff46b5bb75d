import OraidexSdk.Common.NumberOperands
import OraidexSdk.Js.PowerOfTen

namespace OraidexSdk
open Js DigitText DecimalLiteral DecimalNumber ScaledInteger BigDecimal Script Outcome

def truncDecimals : Nat := 6

inductive Amount where
  | string (text : String)
  | bigint (n : Int)
deriving DecidableEq, Repr

namespace Amount

-- !amount
def falsy : Amount → Bool
  | string text => text = ""
  | bigint n => n = 0

def validated : Amount → Except JsError Int
  | string text => Js.bigInt text.toList
  | bigint n => .ok n

inductive Gives : Amount → Nat → Prop where
  | bigint (a : Nat) : Gives (.bigint a) a
  | string {text : String} (ne : text.toList ≠ []) (digits : AllDigits text.toList) :
      Gives (.string text) (numeral text.toList)

end Amount

-- BigInt(x.toString().split(".")[0])
def wholePart (x : BigDecimal) : Except JsError Int := Js.bigInt ((x.toText.splitOn '.').headD [])

def validateNumber : Number DecimalNumber → DecimalNumber
  | .finite x => x
  | _ => ⟨0, 0⟩

def powerText (e : Int) : String := String.ofList (tenPowText e)

def toAmount (amount : Number DecimalNumber) (decimals : Int) : Except JsError Int := do
  let validatedAmount := validateNumber amount
  let product ← contents (do
    mul (← new (.number (numberText validatedAmount)) none)
      (.number (powerText decimals))) emptyHeap
  wholePart product

def toDisplay (amount : Amount) (sourceDecimals : Int) (desDecimals : Nat) :
    Except JsError DecimalNumber :=
  if amount.falsy then .ok ⟨0, 0⟩
  else do
    let validatedAmount ← amount.validated
    let displayDecimals := min truncDecimals desDecimals
    let quotient ← contents (do
      div (← new (.bigint validatedAmount) none)
        (.number (powerText (sourceDecimals - displayDecimals)))) emptyHeap
    return ⟨← wholePart quotient, displayDecimals⟩

theorem wholePart_eq {x : BigDecimal} (hd : 0 < x.decimals) (hx : 0 ≤ x.value) :
    wholePart x = .ok ⌊x.value⌋₊ := by
  have hpart := integer_part hd hx
  rw [cut_at_dot] at hpart
  rw [wholePart, hpart]
  have hread : Js.bigInt (Nat.toDigits 10 ⌊x.value⌋₊) =
      .ok (1 * numeral (Nat.toDigits 10 ⌊x.value⌋₊)) :=
    bigInt_digits (s := .unsigned) Nat.toDigits_ne_nil (allDigits_toDigits _)
  rw [hread, numeral_toDigits, one_mul]

theorem bigInt_of_value {x : BigDecimal} {n d : Nat} (hd : x.decimals = d)
    (hvalue : x.value * 10 ^ d = n) : x.bigInt = n := by
  have hscaled := scaled_mul_pow (K := ℚ) 10 x.bigInt d
  rw [Nat.cast_ofNat] at hscaled
  rw [BigDecimal.value, hd, hscaled] at hvalue
  exact_mod_cast hvalue

theorem wholePart_scaled (n d : Nat) : wholePart ⟨n, d + 1⟩ = .ok (n / 10 ^ (d + 1) : ℕ) := by
  have hnonneg : 0 ≤ (⟨n, d + 1⟩ : BigDecimal).value := by
    rw [BigDecimal.value, scaled]
    positivity
  rw [wholePart_eq (Nat.succ_pos d) hnonneg, floor_value (Int.natCast_nonneg n),
    Int.natAbs_natCast]

theorem combine_div {n m : Nat} (hm : m ≠ 0) (d : Nat) {o : BigDecimal} (ho : o.bigInt = m) :
    combine divKernel ⟨n, d⟩ o = .ok ⟨(n * 10 ^ d / m : ℕ), d⟩ := by
  have hcast : (n : Int) * 10 ^ d = ((n * 10 ^ d : ℕ) : Int) := by
    push_cast
    rfl
  rw [combine, divKernel, ho, if_neg (Int.natCast_ne_zero.mpr hm), hcast,
    Int.tdiv_eq_ediv_of_nonneg (Int.natCast_nonneg _), ← Int.natCast_ediv]
  rfl

theorem construct_bigint (h : Heap) (a : Nat) :
    construct h none (.bigint a) = .ok ⟨(a * 10 ^ 6 : ℕ), 6⟩ := by
  rw [construct, Option.getD_none]
  push_cast
  rfl

section Power

variable {e : Int} {scale : Nat} (hs : scale ≠ 0)

theorem toList_powerText (h : e ≤ 308) : (powerText e).toList = (tenPow e).text := by
  rw [powerText, String.toList_ofList, tenPowText, if_neg (by omega)]

theorem parse_infinity (h : 308 < e) (decimals : Option Nat) :
    parse (powerText e).toList decimals = .error .syntaxError := by
  have hchars : ∀ c ∈ "Infinity".toList, NumberChar c ∧ c ≠ '.' := numberChars_of_all rfl
  have hmem : 'I' ∈ "Infinity".toList := by decide
  rw [powerText, String.toList_ofList, tenPowText, if_pos h]
  exact parse_word hchars hmem rfl (by decide) decimals

include hs

theorem parse_power_digits (hlow : -323 ≤ e) (hhigh : e ≤ 308) (h : e < -6 ∨ 20 < e) :
    parse (powerText e).toList (some scale) =
      if scale < (tenPowDigits e).length then .ok ⟨numeral ((tenPowDigits e).take (scale + 1)), scale⟩
      else .error .syntaxError := by
  have hplain : ¬ PlainText (tenPow e).text := by
    rw [plain_iff, tenPow_plain_iff]
    omega
  obtain ⟨hlong, hshort⟩ := parse_marked_digits hs (tenPow_nonneg e) hplain
  rw [tenPow_stripped hlow] at hlong hshort
  rw [toList_powerText hhigh]
  split
  · exact (hlong ‹_›).2
  · exact (hshort (Nat.le_of_not_lt ‹_›)).2

theorem parse_power_error (h : 20 < e) (habove : e ∉ tenPowAbove) (hbelow : e ∉ tenPowBelow) :
    parse (powerText e).toList (some scale) = .error .syntaxError := by
  rcases le_or_gt e 308 with hhigh | hhigh
  · rw [parse_power_digits hs (by omega) hhigh (.inr h), tenPowDigits, if_neg habove, if_neg hbelow]
    exact if_neg (Nat.not_lt.mpr (Nat.one_le_iff_ne_zero.mpr hs))
  · exact parse_infinity hhigh _

end Power

-- What BigDecimal reads at six places in the text of 10 ** (s - 6).
def divisor (s : Nat) : Nat :=
  if (s : Int) - 6 ∈ tenPowAbove then 10 ^ 6
  else if (s : Int) - 6 ∈ tenPowBelow then
    if s = 1 then 9 else if s = 2 then 99 else 9999999
  else 10 ^ s

def returnAmount (a s : Nat) : Nat := a * 10 ^ 6 / divisor s

-- BigDecimal reads the text of 10 ** (s - 6).
def Displays (s : Nat) : Prop :=
  s ≤ 26 ∨ (s : Int) - 6 ∈ tenPowAbove ∨ (s : Int) - 6 ∈ tenPowBelow

instance (s : Nat) : Decidable (Displays s) := inferInstanceAs (Decidable (_ ∨ _))

theorem displays_range {s : Nat} (h : Displays s) : s ≤ 26 ∨ 32 ≤ s := by
  rcases h with h | h | h
  · exact .inl h
  · have hrange := above_range _ h
    omega
  · have hrange := below_range _ h
    omega

theorem divisor_of_ne {s : Nat} (hs : s ≤ 26) (h1 : s ≠ 1) (h2 : s ≠ 2) : divisor s = 10 ^ s := by
  have habove : (s : Int) - 6 ∉ tenPowAbove := fun h => by
    have hrange := above_range _ h
    omega
  have hbelow : (s : Int) - 6 ∉ tenPowBelow := fun h => by
    have hrange := below_range _ h
    omega
  rw [divisor, if_neg habove, if_neg hbelow]

theorem divisor_pos (s : Nat) : 0 < divisor s := by
  rw [divisor]
  split
  · decide
  · split
    · split
      · decide
      · split <;> decide
    · exact Nat.pow_pos (by decide)

theorem returnAmount_six (a : Nat) : returnAmount a 6 = a := Nat.mul_div_cancel a (by decide)

theorem wholePart_quotient (a s : Nat) :
    wholePart ⟨(a * 10 ^ 6 * 10 ^ 6 / divisor s : ℕ), 6⟩ = .ok (returnAmount a s : ℕ) := by
  have hdiv : a * 10 ^ 6 * 10 ^ 6 / divisor s / 10 ^ 6 = a * 10 ^ 6 / divisor s := by
    rw [Nat.div_div_eq_div_mul, Nat.mul_div_mul_right _ _ (Nat.pow_pos (by decide))]
  rw [returnAmount, ← hdiv]
  exact wholePart_scaled _ 5

section Division

variable {s : Nat}

theorem parse_divisor (hs : Displays s) : ∃ o : BigDecimal,
    parse (powerText (s - 6)).toList (some 6) = .ok o ∧ o.bigInt = (divisor s : ℕ) := by
  by_cases habove : (s : Int) - 6 ∈ tenPowAbove
  · have hrange := above_range _ habove
    have hread := parse_power_digits (by decide : 6 ≠ 0) (e := s - 6) (by omega) (by omega)
      (.inr (by omega))
    rw [tenPowDigits, if_pos habove] at hread
    exact ⟨⟨1000000, 6⟩, hread, by rw [divisor, if_pos habove]; rfl⟩
  by_cases hbelow : (s : Int) - 6 ∈ tenPowBelow
  · by_cases h1 : s = 1
    · subst h1
      exact ⟨⟨9, 6⟩, by decide +kernel, rfl⟩
    by_cases h2 : s = 2
    · subst h2
      exact ⟨⟨99, 6⟩, by decide +kernel, rfl⟩
    have hrange := below_range _ hbelow
    have hread := parse_power_digits (by decide : 6 ≠ 0) (e := s - 6) (by omega) (by omega)
      (.inr (by omega))
    rw [tenPowDigits, if_neg habove, if_pos hbelow] at hread
    refine ⟨⟨9999999, 6⟩, hread, ?_⟩
    rw [divisor, if_neg habove, if_pos hbelow, if_neg h1, if_neg h2]
    rfl
  · have hle : s ≤ 26 := hs.resolve_right (by simp [habove, hbelow])
    have hplain : PlainText (tenPow ((s : Int) - 6)).text := by
      rw [plain_iff, tenPow_plain_iff]
      omega
    have hpower : (tenPow ((s : Int) - 6)).value * 10 ^ 6 = ((10 ^ s : ℕ) : ℤ) := by
      rw [tenPow_exact (by omega) habove hbelow, shifted_value, zpow_sub₀ (by norm_num), zpow_natCast]
      norm_num
    have hread := (parse_plain_at (by decide : 6 ≠ 0) hplain).2
    rw [hpower, truncate_intCast] at hread
    refine ⟨_, (congrArg (parse · _) (toList_powerText (by omega))).trans hread, ?_⟩
    rw [divisor, if_neg habove, if_neg hbelow]

theorem parse_divisor_error (hs : ¬ Displays s) :
    parse (powerText (s - 6)).toList (some 6) = .error .syntaxError := by
  rw [Displays, not_or, not_or] at hs
  exact parse_power_error (by decide) (by omega) hs.2.1 hs.2.2

variable (hs : Displays s)
include hs

theorem quotient_eq (h : Heap) (a : Nat) :
    contents (do div (← new (.bigint a) none) (.number (powerText (s - 6)))) h =
      .ok ⟨(a * 10 ^ 6 * 10 ^ 6 / divisor s : ℕ), 6⟩ := by
  obtain ⟨o, hparse, hdivisor⟩ := parse_divisor hs
  have hother := number_not_object (powerText (s - 6))
  have hfresh := contents_fresh_ok divKernel hother (construct_bigint h a)
  rw [outcome_number, hparse] at hfresh
  exact hfresh.trans (combine_div (divisor_pos s).ne' 6 hdivisor)

theorem toDisplay_of {amount : Amount} {a : Nat} (hfalsy : amount.falsy = false)
    (hvalidated : amount.validated = .ok (a : Int)) :
    toDisplay amount s 6 = .ok ⟨(returnAmount a s : ℕ), 6⟩ := by
  have hquotient := quotient_eq hs emptyHeap a
  have hwhole := wholePart_quotient a s
  rw [toDisplay, hfalsy, if_neg Bool.false_ne_true]
  refine bind_eq_ok.mpr ⟨_, hvalidated, ?_⟩
  refine bind_eq_ok.mpr ⟨_, hquotient, ?_⟩
  exact bind_eq_ok.mpr ⟨_, hwhole, rfl⟩

end Division

theorem toDisplay_error {s : Nat} (hs : ¬ Displays s) {amount : Amount} (hfalsy : amount.falsy = false) :
    ¬ ∃ x, toDisplay amount s 6 = .ok x := by
  rintro ⟨x, hx⟩
  rw [toDisplay, hfalsy, if_neg Bool.false_ne_true] at hx
  obtain ⟨n, -, hx⟩ := bind_eq_ok.mp hx
  obtain ⟨quotient, hquotient, -⟩ := bind_eq_ok.mp hx
  have hconstruct : construct emptyHeap none (.bigint n) = .ok ⟨n * 10 ^ 6, 6⟩ := rfl
  have hfresh := contents_fresh_ok divKernel (number_not_object (powerText (s - 6))) hconstruct
  rw [outcome_number, parse_divisor_error hs] at hfresh
  cases hfresh.symm.trans hquotient

inductive Shows : DecimalNumber → Nat → Prop where
  | millionths (r : Nat) : Shows ⟨r, 6⟩ r
  | nothing : Shows ⟨0, 0⟩ 0

theorem string_not_falsy {text : String} {a : Nat} (hgives : (Amount.string text).Gives a) :
    (Amount.string text).falsy = false := by
  cases hgives with
  | string ne digits =>
    refine decide_eq_false ?_
    rintro rfl
    exact ne rfl

theorem toDisplay_shows {s : Nat} (hs : Displays s) {amount : Amount} {a : Nat}
    (hgives : amount.Gives a) :
    ∃ x, toDisplay amount s 6 = .ok x ∧ Shows x (returnAmount a s) := by
  cases hgives with
  | bigint =>
    by_cases ha : a = 0
    · refine ⟨⟨0, 0⟩, ?_, ?_⟩
      · rw [ha]
        rfl
      · rw [ha, returnAmount, Nat.zero_mul, Nat.zero_div]
        exact .nothing
    · have hfalsy : (Amount.bigint a).falsy = false := decide_eq_false (by omega)
      exact ⟨_, toDisplay_of hs hfalsy rfl, .millionths _⟩
  | @string text ne digits =>
    have hfalsy := string_not_falsy (.string ne digits)
    have hread := bigInt_digits (s := .unsigned) ne digits
    change Js.bigInt text.toList = .ok (1 * _) at hread
    rw [one_mul] at hread
    exact ⟨_, toDisplay_of hs hfalsy hread, .millionths _⟩

theorem toDisplay_ok_iff {text : String} {a : Nat} (hgives : (Amount.string text).Gives a)
    (s : Nat) : (∃ x, toDisplay (.string text) s 6 = .ok x) ↔ Displays s := by
  constructor
  · intro hok
    by_contra hs
    exact toDisplay_error hs (string_not_falsy hgives) hok
  · intro hs
    obtain ⟨x, hx, -⟩ := toDisplay_shows hs hgives
    exact ⟨x, hx⟩

namespace Shows

variable {x : DecimalNumber} {r : Nat} (hshows : Shows x r)
include hshows

theorem value_eq : x.value = (r : ℚ) / 10 ^ 6 := by
  cases hshows with
  | millionths => simp [Js.DecimalNumber.value, scaled]
  | nothing => simp [Js.DecimalNumber.value, scaled]

theorem range_iff : InPlainRange x.numerator.natAbs x.places ↔ r < 10 ^ 27 := by
  cases hshows with
  | millionths =>
    have hlength : 6 < (Nat.toDigits 10 r).length + 6 :=
      Nat.lt_add_of_pos_left Nat.length_toDigits_pos
    exact and_iff_left (.inr hlength)
  | nothing => exact iff_of_true ⟨by decide, .inl rfl⟩ (by decide)

theorem parse_eq (hr : r < 10 ^ 27) : parse x.text none = .ok ⟨r, 6⟩ := by
  obtain ⟨L, htext, hvalue, hlength⟩ := DecimalNumber.reads_plain (hshows.range_iff.mpr hr)
  have hplaces : x.places ≤ 6 := by
    cases hshows with
    | millionths => exact le_rfl
    | nothing => exact Nat.zero_le 6
  have hshort : L.places.length ≤ (none : Option Nat).getD 6 := hlength.trans hplaces
  have hdecimals : (ofLiteral L none).decimals = 6 := by
    rw [ofLiteral, if_neg fun h => absurd h.1 (Nat.not_lt.mpr hshort)]
    rfl
  have hbigInt : (ofLiteral L none).bigInt = (r : ℕ) := by
    refine bigInt_of_value hdecimals ?_
    rw [value_ofLiteral_of_le L hshort, hvalue, hshows.value_eq, div_mul_cancel₀ _ (by norm_num)]
  rw [← htext, parse_text, ← hdecimals, ← hbigInt]

theorem parse_error (hr : 10 ^ 27 ≤ r) : parse x.text none = .error .syntaxError := by
  obtain ⟨front, behind, hmarked⟩ :=
    DecimalNumber.text_marked (hshows.range_iff.not.mpr (Nat.not_lt.mpr hr))
  exact parse_marked hmarked

end Shows

section Product

variable {x : DecimalNumber} {r : Nat} (hshows : Shows x r) {s : Nat}
include hshows

theorem toAmount_of (hr : r < 10 ^ 27) (hs : Displays (s + 6)) :
    toAmount (.finite x) s = .ok (r * divisor (s + 6) / 10 ^ 6 / 10 ^ 6 : ℕ) := by
  have hconstruct : construct emptyHeap none (.number (numberText x)) = .ok ⟨r, 6⟩ := by
    rw [construct, toList_numberText, hshows.parse_eq hr]
  obtain ⟨o, hparse, hpower⟩ := parse_divisor hs
  rw [Nat.cast_add, Nat.cast_ofNat, Int.add_sub_cancel] at hparse
  have hproduct := contents_fresh_ok mulKernel (number_not_object (powerText s)) hconstruct
  rw [outcome_number, hparse] at hproduct
  refine bind_eq_ok.mpr ⟨_, hproduct.trans ?_, wholePart_scaled (r * divisor (s + 6) / 10 ^ 6) 5⟩
  have hcast : (r : Int) * (divisor (s + 6) : ℕ) = (r * divisor (s + 6) : ℕ) := by
    push_cast
    rfl
  change combine mulKernel ⟨r, 6⟩ o = _
  rw [combine, mulKernel, hpower, hcast, Int.tdiv_eq_ediv_of_nonneg (Int.natCast_nonneg _)]
  rfl

theorem toAmount_ok (hr : r < 10 ^ 27) (hs : s ≤ 20) :
    toAmount (.finite x) s = .ok (r * 10 ^ s / 10 ^ 6 : ℕ) := by
  have hdivisor : divisor (s + 6) = 10 ^ s * 10 ^ 6 := by
    rw [divisor_of_ne (by omega) (by omega) (by omega), Nat.pow_add]
  rw [toAmount_of hshows hr (.inl (by omega)), hdivisor, ← Nat.mul_assoc,
    Nat.mul_div_cancel _ (by decide)]

theorem toAmount_error (h : ¬ Displays (s + 6) ∨ 10 ^ 27 ≤ r) :
    ¬ ∃ n, toAmount (.finite x) s = .ok n := by
  rintro ⟨n, hn⟩
  obtain ⟨product, hproduct, -⟩ := bind_eq_ok.mp hn
  have hother := number_not_object (powerText s)
  have hfresh := contents_fresh mulKernel emptyHeap (.number (numberText x)) hother
  obtain ⟨t, hconstruct, houtcome⟩ := bind_eq_ok.mp (hfresh.symm.trans hproduct)
  rw [construct, toList_numberText] at hconstruct
  rcases le_or_gt (10 ^ 27) r with hr | hr
  · rw [hshows.parse_error hr] at hconstruct
    cases hconstruct
  · obtain rfl := Except.ok.inj ((hshows.parse_eq hr).symm.trans hconstruct)
    have hpower := parse_divisor_error (h.resolve_right (Nat.not_le.mpr hr))
    rw [Nat.cast_add, Nat.cast_ofNat, Int.add_sub_cancel] at hpower
    rw [outcome_number, hpower] at houtcome
    cases houtcome

end Product

def displayed (a s : Nat) : Nat := if 6 ≤ s then a / 10 ^ (s - 6) else a * 10 ^ (6 - s)

def recovered (a s : Nat) : Nat := if 6 ≤ s then a - a % 10 ^ (s - 6) else a

theorem displayed_eq (a s : Nat) : displayed a s = a * 10 ^ 6 / 10 ^ s := by
  rw [displayed]
  split
  · rename_i h
    have hsplit : 10 ^ s = 10 ^ (s - 6) * 10 ^ 6 := by rw [← Nat.pow_add, Nat.sub_add_cancel h]
    rw [hsplit, Nat.mul_div_mul_right _ _ (Nat.pow_pos (by decide))]
  · rename_i h
    have hsplit : 10 ^ 6 = 10 ^ (6 - s) * 10 ^ s := by rw [← Nat.pow_add, Nat.sub_add_cancel (by omega)]
    rw [hsplit, ← Nat.mul_assoc, Nat.mul_div_cancel _ (Nat.pow_pos (by decide))]

theorem recovered_eq (a s : Nat) : recovered a s = displayed a s * 10 ^ s / 10 ^ 6 := by
  rw [recovered, displayed]
  split
  · rename_i h
    have hsplit : 10 ^ s = 10 ^ (s - 6) * 10 ^ 6 := by rw [← Nat.pow_add, Nat.sub_add_cancel h]
    have hmod := Nat.div_add_mod a (10 ^ (s - 6))
    rw [hsplit, ← Nat.mul_assoc, Nat.mul_div_cancel _ (Nat.pow_pos (by decide)), Nat.mul_comm]
    omega
  · rename_i h
    have hsplit : 10 ^ 6 = 10 ^ (6 - s) * 10 ^ s := by rw [← Nat.pow_add, Nat.sub_add_cancel (by omega)]
    rw [hsplit, Nat.mul_assoc, Nat.mul_div_cancel _ (Nat.mul_pos (Nat.pow_pos (by decide))
      (Nat.pow_pos (by decide)))]

theorem recovered_le (a s : Nat) : recovered a s ≤ a := by
  rw [recovered]
  split
  · exact Nat.sub_le a _
  · exact le_rfl

theorem displayed_mono {a b : Nat} (h : b ≤ a) (s : Nat) : displayed b s ≤ displayed a s := by
  rw [displayed_eq, displayed_eq]
  exact Nat.div_le_div_right (Nat.mul_le_mul_right _ h)

theorem recovered_mono {a b : Nat} (h : b ≤ a) (s : Nat) : recovered b s ≤ recovered a s := by
  rw [recovered_eq, recovered_eq]
  exact Nat.div_le_div_right (Nat.mul_le_mul_right _ (displayed_mono h s))

theorem displayed_lt_iff (a s : Nat) : displayed a s < 10 ^ 27 ↔ a < 10 ^ (21 + s) := by
  have hsplit : 10 ^ 27 * 10 ^ s = 10 ^ (21 + s) * 10 ^ 6 := by
    rw [← Nat.pow_add, ← Nat.pow_add]
    congr 1
    omega
  rw [displayed_eq, Nat.div_lt_iff_lt_mul (Nat.pow_pos (by decide)), hsplit,
    Nat.mul_lt_mul_right (Nat.pow_pos (by decide))]

theorem returnAmount_eq_displayed {a s : Nat} (hs : s ≤ 26) (h : s = 1 ∨ s = 2 → a = 0) :
    returnAmount a s = displayed a s := by
  rw [displayed_eq, returnAmount]
  by_cases hinexact : s = 1 ∨ s = 2
  · rw [h hinexact, Nat.zero_mul, Nat.zero_div, Nat.zero_div]
  · rw [divisor_of_ne hs (fun h1 => hinexact (.inl h1)) fun h2 => hinexact (.inr h2)]

-- The two inexact powers of ten are too small, so that what they divide comes out too large.
theorem displayed_lt_returnAmount {a s : Nat} (ha : 0 < a) (h : s = 1 ∨ s = 2) :
    displayed a s < returnAmount a s := by
  rw [displayed_eq, returnAmount]
  rcases h with rfl | rfl
  · change a * 10 ^ 6 / 10 ^ 1 < a * 10 ^ 6 / 9
    omega
  · change a * 10 ^ 6 / 10 ^ 2 < a * 10 ^ 6 / 99
    omega

theorem returnAmount_eq_displayed_iff (a : Nat) {s : Nat} (hs : s ≤ 26) :
    returnAmount a s = displayed a s ↔ (s = 1 ∨ s = 2 → a = 0) := by
  refine ⟨fun heq hinexact => ?_, returnAmount_eq_displayed hs⟩
  by_contra ha
  exact (displayed_lt_returnAmount (Nat.pos_of_ne_zero ha) hinexact).ne' heq

structure RoundTrip (amount : Amount) (a : Nat) (s : Int) (x : DecimalNumber) : Prop where
  display : toDisplay amount s 6 = .ok x
  value : x.value = (displayed a s.toNat : ℚ) / 10 ^ 6
  amount : toAmount (.finite x) s = .ok (recovered a s.toNat)

structure NeverInflates (amount : Amount) (a : Nat) (s : Int) : Prop where
  converts : ∃ x, RoundTrip amount a s x
  le : recovered a s.toNat ≤ a
  monotone : ∀ other b, other.Gives b → b ≤ a →
    ∃ x y, RoundTrip amount a s x ∧ RoundTrip other b s y ∧ y.value ≤ x.value ∧
      recovered b s.toNat ≤ recovered a s.toNat

-- The power 10 ** 26 is written 9.999999999999999e+25, which BigDecimal reads as 9.999999.
def Recovers (a s : Nat) : Prop :=
  s ≤ 20 ∧ a < 10 ^ (21 + s) ∧ (s = 1 ∨ s = 2 → a = 0) ∨ s = 26 ∧ a < 10 ^ 20

theorem Recovers.mono {a b s : Nat} (h : Recovers a s) (hle : b ≤ a) : Recovers b s := by
  rcases h with ⟨hs, ha, hexact⟩ | ⟨hs, ha⟩
  · exact .inl ⟨hs, hle.trans_lt ha, fun hinexact =>
      Nat.eq_zero_of_le_zero (hle.trans_eq (hexact hinexact))⟩
  · exact .inr ⟨hs, hle.trans_lt ha⟩

theorem toAmount_recovers_iff {x : DecimalNumber} {a s : Nat} (hs : s ≤ 26)
    (hshows : Shows x (displayed a s)) :
    toAmount (.finite x) s = .ok (recovered a s) ↔
      s ≤ 20 ∧ a < 10 ^ (21 + s) ∨ s = 26 ∧ a < 10 ^ 20 := by
  rw [← displayed_lt_iff, recovered_eq]
  rcases le_or_gt (10 ^ 27) (displayed a s) with hlarge | hsmall
  · have hdisplayed : s = 26 → displayed a s = a / 10 ^ 20 := by
      rintro rfl
      rfl
    have hthrows := toAmount_error hshows (s := s) (.inr hlarge)
    refine iff_of_false (fun h => hthrows ⟨_, h⟩) ?_
    rintro (⟨-, h⟩ | ⟨h26, h⟩)
    · exact Nat.not_lt.mpr hlarge h
    · rw [hdisplayed h26, Nat.div_eq_of_lt h] at hlarge
      exact absurd hlarge (by decide)
  rcases le_or_gt s 20 with h20 | h20
  · exact iff_of_true (toAmount_ok hshows hsmall h20) (.inl ⟨h20, hsmall⟩)
  by_cases h26 : s = 26
  · subst h26
    have hread : toAmount (.finite x) (26 : ℕ) =
        .ok (displayed a 26 * 9999999 / 10 ^ 6 / 10 ^ 6 : ℕ) :=
      toAmount_of hshows hsmall (by decide)
    have hdisplayed : displayed a 26 = a / 10 ^ 20 := rfl
    have hzero : a / 10 ^ 20 = 0 ↔ a < 10 ^ 20 := by
      rw [Nat.div_eq_zero_iff]
      exact or_iff_right (by decide)
    rw [hread, Except.ok.injEq, Int.natCast_inj, ← hzero, ← hdisplayed]
    omega
  · have hdisplays : ¬ Displays (s + 6) := fun h => by
      have hrange := displays_range h
      omega
    refine iff_of_false (fun h => toAmount_error hshows (.inl hdisplays) ⟨_, h⟩) ?_
    omega

theorem roundTrip_iff {amount : Amount} {a s : Nat} (hs : s ≤ 26) (hgives : amount.Gives a) :
    (∃ x, RoundTrip amount a s x) ↔ Recovers a s := by
  obtain ⟨x, hx, hshows⟩ := toDisplay_shows (s := s) (.inl hs) hgives
  have hvalue : x.value = (displayed a s : ℚ) / 10 ^ 6 ↔ (s = 1 ∨ s = 2 → a = 0) := by
    rw [hshows.value_eq, div_left_inj' (by norm_num), Nat.cast_inj, returnAmount_eq_displayed_iff a hs]
  constructor
  · rintro ⟨y, hdisplay, hy, hamount⟩
    obtain rfl := Except.ok.inj (hx.symm.trans hdisplay)
    have hexact := hvalue.mp hy
    rw [returnAmount_eq_displayed hs hexact] at hshows
    exact ((toAmount_recovers_iff hs hshows).mp hamount).imp_left fun h => ⟨h.1, h.2, hexact⟩
  · intro h
    have hexact : s = 1 ∨ s = 2 → a = 0 := by
      rcases h with ⟨-, -, hexact⟩ | ⟨h26, -⟩
      · exact hexact
      · omega
    rw [returnAmount_eq_displayed hs hexact] at hshows
    exact ⟨x, hx, hvalue.mpr hexact,
      (toAmount_recovers_iff hs hshows).mpr (h.imp_left fun h => ⟨h.1, h.2.1⟩)⟩

theorem never_inflates_iff {amount : Amount} {a : Nat} (hgives : amount.Gives a) {s : Int}
    (hplain : PlainText (shifted (1 : Nat) (s - 6)).text) :
    NeverInflates amount a s ↔ Recovers a s.toNat := by
  have hrange : 0 ≤ s ∧ s ≤ 26 := by
    rw [plain_iff, shifted_plain_iff one_ne_zero] at hplain
    change -6 < 1 + (s - 6) ∧ 1 + (s - 6) ≤ 21 at hplain
    omega
  obtain ⟨n, rfl⟩ := Int.eq_ofNat_of_zero_le hrange.1
  have hn : n ≤ 26 := by omega
  rw [Int.toNat_natCast]
  constructor
  · rintro ⟨hconverts, -, -⟩
    exact (roundTrip_iff hn hgives).mp hconverts
  · intro h
    obtain ⟨x, hx⟩ := (roundTrip_iff hn hgives).mpr h
    refine ⟨⟨x, hx⟩, recovered_le a _, fun other b hother hle => ?_⟩
    obtain ⟨y, hy⟩ := (roundTrip_iff hn hother).mpr (h.mono hle)
    refine ⟨x, y, hx, hy, ?_, recovered_mono hle _⟩
    rw [hx.value, hy.value]
    have hdisplayed : (displayed b n : ℚ) ≤ displayed a n := Nat.cast_le.mpr (displayed_mono hle n)
    exact div_le_div_of_nonneg_right hdisplayed (by positivity)

theorem one_atto_display : NeverInflates (.bigint (10 ^ 18)) (10 ^ 18) 18 :=
  (never_inflates_iff (.bigint _) (by decide)).mpr (.inl ⟨by decide, by decide, by decide⟩)

theorem twenty_one_decimals_throw :
    PlainText (shifted (1 : Nat) (21 - 6)).text ∧ ¬ NeverInflates (.bigint (10 ^ 21)) (10 ^ 21) 21 := by
  refine ⟨by decide, ?_⟩
  rintro ⟨hconverts, -, -⟩
  have hrecovers := (roundTrip_iff (s := 21) (by decide) (.bigint (10 ^ 21))).mp hconverts
  rcases hrecovers with ⟨hs, -⟩ | ⟨hs, -⟩
  · exact absurd hs (by decide)
  · exact absurd hs (by decide)

-- 10 ** -4 is read as 99 millionths.
example : toDisplay (.bigint 5) 2 6 = .ok ⟨50505, 6⟩ ∧ displayed 5 2 = 50000 :=
  ⟨toDisplay_of (s := 2) (a := 5) (.inl (by decide)) rfl rfl, rfl⟩

end OraidexSdk
