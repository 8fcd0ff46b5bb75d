import OraidexSdk.BigDecimal.Exact
import OraidexSdk.BigDecimal.Parsing

namespace OraidexSdk.BigDecimal
open Js DigitText ScaledInteger DecimalLiteral Script

structure FormsAgree (h : Heap) (x : Ref) (s : String) : Prop where
  add : (contents (add x (.string s)) h).map value =
    (contents (do BigDecimal.add x (.object (← new (.string s) none))) h).map value
  sub : (contents (sub x (.string s)) h).map value =
    (contents (do BigDecimal.sub x (.object (← new (.string s) none))) h).map value

-- The literal loses nothing when processDecimal reads it again at this scale.
def Representable (L : Literal) (scale : Nat) : Prop :=
  if scale = 0 then L.places = [] ∨ numeral (L.ints ++ L.places) = 0
  else numeral (L.places.drop scale) = 0

instance (L : Literal) (scale : Nat) : Decidable (Representable L scale) := by
  unfold Representable
  infer_instance

variable (L : Literal)

theorem sign_factor_ne_zero (s : Sign) : s.factor ≠ 0 := by cases s <;> decide

theorem value_eq_scaled_iff {m : ℕ} {d : ℕ} :
    scaled ℚ 10 (L.sign.factor * m) d = L.value ↔
      m * 10 ^ L.places.length = numeral (L.ints ++ L.places) * 10 ^ d := by
  have hm := scaled_shift (K := ℚ) 10 (L.sign.factor * m) d L.places.length
  have hv := scaled_shift (K := ℚ) 10 (L.sign.factor * numeral (L.ints ++ L.places))
    L.places.length d
  rw [Nat.add_comm L.places.length] at hv
  rw [Literal.value, ← hm, ← hv, scaled_inj, mul_assoc, mul_assoc,
    mul_right_inj' (sign_factor_ne_zero L.sign)]
  norm_cast

theorem representable_zero :
    scaled ℚ 10 (ofLiteral L (some 0)).bigInt 0 = L.value ↔ Representable L 0 := by
  rw [Representable, if_pos rfl]
  by_cases hp : L.places = []
  · simp only [ofLiteral, hp, fit, zeros, List.length_nil, Option.getD_some, Nat.lt_irrefl,
      false_and, if_false, value_eq_scaled_iff]
    simp
  · have hlen : 0 < L.places.length := List.length_pos_iff.mpr hp
    have hof : ofLiteral L (some 0) =
        ⟨L.sign.factor * numeral (L.ints ++ L.places), L.places.length⟩ := if_pos ⟨hlen, rfl⟩
    rw [hof, value_eq_scaled_iff, pow_zero, mul_one, or_iff_right hp]
    constructor
    · intro heq
      by_contra hne
      have hone : 1 < 10 ^ L.places.length := Nat.one_lt_pow hlen.ne' (by decide)
      exact absurd heq ((Nat.lt_mul_iff_one_lt_right (Nat.pos_of_ne_zero hne)).mpr hone).ne'
    · intro hz
      rw [hz, Nat.zero_mul]

theorem representable_positive {scale : Nat} (hs : 0 < scale) :
    scaled ℚ 10 (ofLiteral L (some scale)).bigInt scale = L.value ↔ Representable L scale := by
  have hset : ¬ ((some scale).getD 6 < L.places.length ∧ unset (some scale)) := by
    simp [unset, hs.ne']
  rw [Representable, if_neg hs.ne', ofLiteral, if_neg hset, Option.getD_some, value_eq_scaled_iff]
  rcases Nat.le_total L.places.length scale with hle | hge
  · have hpow : 10 ^ (scale - L.places.length) * 10 ^ L.places.length = 10 ^ scale := by
      rw [← pow_add, Nat.sub_add_cancel hle]
    rw [fit_of_le hle, ← List.append_assoc, numeral_append_zeros, mul_assoc, hpow,
      List.drop_eq_nil_of_le hle]
    simp
  · have hsplit := numeral_append (L.ints ++ L.places.take scale) (L.places.drop scale)
    have hpow : 10 ^ L.places.length = 10 ^ (L.places.length - scale) * 10 ^ scale := by
      rw [← pow_add, Nat.sub_add_cancel hge]
    rw [List.append_assoc, List.take_append_drop, List.length_drop] at hsplit
    rw [fit_of_ge hge, hsplit, hpow, ← mul_assoc, mul_left_inj' (pow_ne_zero scale (by decide))]
    omega

theorem scaled_ofLiteral_iff (scale : Nat) :
    scaled ℚ 10 (ofLiteral L (some scale)).bigInt scale = L.value ↔ Representable L scale := by
  rcases Nat.eq_zero_or_pos scale with rfl | hs
  · exact representable_zero L
  · exact representable_positive L hs

section Forms

variable {f : Kernel} {op : ℚ → ℚ → ℚ} (hf : Exactly f op) {h : Heap} (x : h.Object)
include hf

theorem contents_string :
    (contents (do inPlace f (← clone x) (.string (String.ofList L.text))) h).map value =
      .ok (op (h.objects x).value
        (scaled ℚ 10 (ofLiteral L (some (h.objects x).decimals)).bigInt (h.objects x).decimals)) := by
  have hliteral : operand h (h.objects x) (.string (String.ofList L.text)) =
      .ok (ofLiteral L (some (h.objects x).decimals)) := by
    change construct h (some (h.objects x).decimals) (.string (String.ofList L.text)) = _
    rw [construct, String.toList_ofList, parse_text]
  obtain ⟨n, hn, hvalue⟩ := hf (h.objects x).bigInt
    (ofLiteral L (some (h.objects x).decimals)).bigInt (h.objects x).decimals
  have hvalid : Valid h (.string (String.ofList L.text)) := fun r hr => nomatch hr
  rw [contents_cloned f hvalid, outcome, hliteral]
  change (combine f (h.objects x) (ofLiteral L (some (h.objects x).decimals))).map value = _
  rw [combine, hn]
  exact congrArg _ hvalue

theorem contents_constructed :
    (contents (do
        let y ← new (.string (String.ofList L.text)) none
        inPlace f (← clone x) (.object y)) h).map value =
      .ok (op (h.objects x).value L.value) := by
  let g : Heap := ⟨h.next + 1, Function.update h.objects h.next (ofLiteral L none)⟩
  have hnew : run (new (.string (String.ofList L.text)) none) h = (.ok h.next, g) := by
    have hget : run (get : Script Heap) h = (.ok h, h) := rfl
    simp only [new, run_bind, hget, construct, String.toList_ofList, parse_text]
    rfl
  have hx : g.objects x = h.objects x := Function.update_of_ne (Nat.ne_of_lt x.property) _ _
  have hy : g.objects h.next = ofLiteral L none := Function.update_self _ _ _
  obtain ⟨r, h', hrun, -, hvalue, -⟩ :=
    run_exact hf (h := g) (x := x) (Nat.lt_succ_self h.next)
  rw [hx, hy, value_ofLiteral_default] at hvalue
  rw [contents, run_bind, hnew]
  simp only [hrun]
  exact congrArg _ hvalue

end Forms

theorem forms_agree_iff (h : Heap) (x : h.Object) :
    FormsAgree h x (String.ofList L.text) ↔ Representable L (h.objects x).decimals := by
  have haddString : (contents (add x (.string (String.ofList L.text))) h).map value = _ :=
    contents_string L addKernel_exact x
  have haddObject : (contents (do
      BigDecimal.add x (.object (← new (.string (String.ofList L.text)) none))) h).map value = _ :=
    contents_constructed L addKernel_exact x
  have hsubString : (contents (sub x (.string (String.ofList L.text))) h).map value = _ :=
    contents_string L subKernel_exact x
  have hsubObject : (contents (do
      BigDecimal.sub x (.object (← new (.string (String.ofList L.text)) none))) h).map value = _ :=
    contents_constructed L subKernel_exact x
  rw [← scaled_ofLiteral_iff]
  constructor
  · intro ha
    have hadd := ha.add
    rw [haddString, haddObject] at hadd
    exact add_left_cancel (Except.ok.inj hadd)
  · intro hv
    constructor
    · rw [haddString, haddObject, hv]
    · rw [hsubString, hsubObject, hv]

theorem string_operand_misread :
    let h : Heap := ⟨1, fun _ => ⟨5, 0⟩⟩
    contents (add 0 (.string "1.5")) h = .ok ⟨20, 0⟩ ∧
    contents (do add 0 (.object (← new (.string "1.5") none))) h = .ok ⟨6500000, 6⟩ ∧
    ¬ FormsAgree h 0 "1.5" := by
  intro h
  have hstring : contents (add 0 (.string "1.5")) h = .ok ⟨20, 0⟩ := by decide
  have hobject : contents (do add 0 (.object (← new (.string "1.5") none))) h =
      .ok ⟨6500000, 6⟩ := by decide
  refine ⟨hstring, hobject, fun ha => ?_⟩
  have hadd := ha.add
  rw [hstring, hobject] at hadd
  have hvalue : (20 : ℚ) = 6500000 / 10 ^ 6 := by simpa [Except.map, value, scaled] using hadd
  norm_num at hvalue

end OraidexSdk.BigDecimal
