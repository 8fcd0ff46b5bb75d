import OraidexSdk.Decimal.Digits
import OraidexSdk.Decimal.Scaled
import Mathlib.Data.Rat.Floor

namespace DecimalLiteral
open DigitText ScaledInteger

inductive Sign where
  | unsigned
  | plus
  | minus
deriving DecidableEq, Repr

def Sign.text : Sign → List Char
  | .unsigned => []
  | .plus => ['+']
  | .minus => ['-']

def Sign.factor : Sign → ℤ
  | .minus => -1
  | _ => 1

structure Literal where
  sign : Sign
  ints : List Char
  fraction : Option (List Char)
  ints_digits : AllDigits ints
  fraction_digits : AllDigits (fraction.getD [])
  has_digit : ints ++ fraction.getD [] ≠ []

namespace Literal

def places (L : Literal) : List Char := L.fraction.getD []

def body (L : Literal) : List Char :=
  match L.fraction with
  | none => L.ints
  | some f => L.ints ++ '.' :: f

def text (L : Literal) : List Char := L.sign.text ++ L.body

def value (L : Literal) : ℚ :=
  scaled ℚ 10 (L.sign.factor * numeral (L.ints ++ L.places)) L.places.length

def negative (L : Literal) : Literal := { L with sign := .minus }

theorem negative_text {L : Literal} (h : L.sign = .unsigned) : L.negative.text = '-' :: L.text := by
  rw [text, text, h]
  rfl

theorem value_of_unsigned {L : Literal} (h : L.sign = .unsigned) :
    L.value = (numeral (L.ints ++ L.places) : ℚ) / 10 ^ L.places.length := by
  have hfactor : L.sign.factor = 1 := by
    rw [h]
    rfl
  rw [value, hfactor, one_mul, scaled, Int.cast_natCast, Nat.cast_ofNat]

theorem negative_value {L : Literal} (h : L.sign = .unsigned) : L.negative.value = -L.value := by
  have hfactor : L.negative.sign.factor = -L.sign.factor := by
    rw [h]
    rfl
  rw [value, value, hfactor, neg_mul, scaled, scaled, Int.cast_neg, neg_div]
  rfl

end Literal

def dotted : Option (List Char) → List Char
  | none => []
  | some f => '.' :: f

def splitSign : List Char → Sign × List Char
  | '-' :: cs => (.minus, cs)
  | '+' :: cs => (.plus, cs)
  | cs => (.unsigned, cs)

def readBody (s : Sign) : List (List Char) → Option ℚ
  | [ints] =>
      if ints ≠ [] ∧ AllDigits ints then some (scaled ℚ 10 (s.factor * numeral ints) 0) else none
  | [ints, f] =>
      if ints ++ f ≠ [] ∧ AllDigits (ints ++ f) then
        some (scaled ℚ 10 (s.factor * numeral (ints ++ f)) f.length)
      else none
  | _ => none

def readDecimal (cs : List Char) : Option ℚ :=
  readBody (splitSign cs).1 ((splitSign cs).2.splitOn '.')

theorem dot_not_mem {cs : List Char} (h : AllDigits cs) : '.' ∉ cs := h.not_mem rfl

theorem split_prefixed (L : Literal) {pre : List Char} (hp : '.' ∉ pre) :
    (pre ++ L.body).splitOn '.' = (pre ++ L.ints) :: L.fraction.toList := by
  have hd := L.fraction_digits
  have hi : '.' ∉ pre ++ L.ints := by
    simp only [List.mem_append, not_or]
    exact ⟨hp, dot_not_mem L.ints_digits⟩
  rw [Literal.body]
  cases hf : L.fraction with
  | none => simpa using List.splitOn_eq_singleton hi
  | some f =>
    simp only [hf, Option.getD_some] at hd
    rw [← List.append_assoc, List.splitOn_append_cons_of_beq _ f (beq_self_eq_true '.'),
      List.splitOn_eq_singleton hi, List.splitOn_eq_singleton (dot_not_mem hd)]
    rfl

theorem split_text (L : Literal) :
    L.text.splitOn '.' = (L.sign.text ++ L.ints) :: L.fraction.toList :=
  split_prefixed L (by cases L.sign <;> decide)

theorem split_body (L : Literal) : L.body.splitOn '.' = L.ints :: L.fraction.toList :=
  split_prefixed L List.not_mem_nil

theorem splitSign_of_digit {c : Char} (cs : List Char) (h : c.isDigit = true ∨ c = '.') :
    splitSign (c :: cs) = (.unsigned, c :: cs) := by
  rw [splitSign]
  · rintro _ ⟨⟩
    simp at h
  · rintro _ ⟨⟩
    simp at h

theorem body_ne_nil (L : Literal) : L.body ≠ [] := by
  have h := L.has_digit
  rw [Literal.body]
  cases hL : L.fraction with
  | none => simpa [hL] using h
  | some f => simp

theorem body_head (L : Literal) : ∀ c cs, L.body = c :: cs → c.isDigit = true ∨ c = '.' := by
  intro c cs hb
  have hi := L.ints_digits
  rw [Literal.body] at hb
  cases hints : L.ints with
  | nil =>
    cases hL : L.fraction with
    | none => simp [hL, hints] at hb
    | some f =>
      simp only [hL, hints, List.nil_append, List.cons.injEq] at hb
      exact Or.inr hb.1.symm
  | cons d ds =>
    have hd : c = d := by
      cases hL : L.fraction <;> simp only [hL, hints, List.cons_append, List.cons.injEq] at hb <;>
        exact hb.1.symm
    rw [hints, allDigits_cons] at hi
    exact Or.inl (hd ▸ hi.1)

theorem splitSign_text (L : Literal) : splitSign L.text = (L.sign, L.body) := by
  rw [Literal.text]
  cases hs : L.sign with
  | unsigned =>
    obtain ⟨c, cs, hb⟩ := List.exists_cons_of_ne_nil (body_ne_nil L)
    rw [hb]
    exact splitSign_of_digit cs (body_head L c cs hb)
  | plus => rfl
  | minus => rfl

theorem body_eq (L : Literal) : L.body = L.ints ++ dotted L.fraction := by
  rw [Literal.body]
  cases L.fraction with
  | none => exact (List.append_nil _).symm
  | some f => rfl

theorem text_chars (L : Literal) :
    ∀ c ∈ L.text, c.isDigit = true ∨ c = '.' ∨ c = '+' ∨ c = '-' := by
  have hsign : ∀ c ∈ L.sign.text, c = '+' ∨ c = '-' := by cases L.sign <;> simp [Sign.text]
  have hfraction := L.fraction_digits
  intro c hc
  rw [Literal.text, body_eq, List.mem_append, List.mem_append] at hc
  rcases hc with hc | hc | hc
  · exact .inr (.inr (hsign c hc))
  · exact .inl (L.ints_digits c hc)
  · cases hL : L.fraction with
    | none =>
      rw [hL] at hc
      cases hc
    | some f =>
      rw [hL] at hc hfraction
      exact (List.mem_cons.mp hc).elim (fun h => .inr (.inl h)) fun h => .inl (hfraction c h)

theorem read_text (L : Literal) : readDecimal L.text = some L.value := by
  have hi := L.ints_digits
  have hf := L.fraction_digits
  have hd := L.has_digit
  rw [readDecimal, splitSign_text, split_body, Literal.value, Literal.places]
  cases hL : L.fraction with
  | none =>
    simp only [hL, Option.getD_none, List.append_nil] at hd
    simp [readBody, hd, hi]
  | some f =>
    simp only [hL, Option.getD_some] at hd hf
    simp [readBody, hi, hf, hd]

theorem join_split (cs : List Char) :
    ∀ parts, cs.splitOn '.' = parts → (∀ a, parts = [a] → cs = a) ∧
      ∀ a b, parts = [a, b] → cs = a ++ '.' :: b := by
  rintro parts rfl
  have h : ['.'].intercalate (cs.splitOn '.') = cs := List.intercalate_splitOn '.'
  constructor
  · intro a ha
    rw [ha] at h
    simpa using h.symm
  · intro a b hab
    rw [hab] at h
    simpa using h.symm

theorem splitSign_spec (cs : List Char) : cs = (splitSign cs).1.text ++ (splitSign cs).2 := by
  rw [splitSign.eq_def]
  split <;> rfl

theorem exists_of_read {cs : List Char} {q : ℚ} (h : readDecimal cs = some q) :
    ∃ L : Literal, L.text = cs ∧ L.value = q := by
  have hs := splitSign_spec cs
  obtain ⟨hone, htwo⟩ := join_split (splitSign cs).2 _ rfl
  rw [readDecimal] at h
  cases hp : (splitSign cs).2.splitOn '.' with
  | nil => simp [hp, readBody] at h
  | cons ints rest =>
    match rest, hp with
    | [], hp =>
      rw [hp, readBody] at h
      split at h
      · rename_i hc
        refine ⟨⟨(splitSign cs).1, ints, none, hc.2, allDigits_nil, by simpa using hc.1⟩, ?_, ?_⟩
        · change (splitSign cs).1.text ++ ints = cs
          rw [← hone ints hp, ← hs]
        · simpa [Literal.value, Literal.places] using h
      · simp at h
    | [f], hp =>
      rw [hp, readBody] at h
      split at h
      · rename_i hc
        obtain ⟨hi, hf⟩ := (allDigits_append ints f).mp hc.2
        refine ⟨⟨(splitSign cs).1, ints, some f, hi, hf, hc.1⟩, ?_, ?_⟩
        · change (splitSign cs).1.text ++ (ints ++ '.' :: f) = cs
          rw [← htwo ints f hp, ← hs]
        · simpa [Literal.value, Literal.places] using h
      · simp at h
    | f :: g :: rest, hp => simp [hp, readBody] at h

theorem read_iff {cs : List Char} {q : ℚ} :
    readDecimal cs = some q ↔ ∃ L : Literal, L.text = cs ∧ L.value = q := by
  refine ⟨exists_of_read, ?_⟩
  rintro ⟨L, rfl, rfl⟩
  exact read_text L

end DecimalLiteral
