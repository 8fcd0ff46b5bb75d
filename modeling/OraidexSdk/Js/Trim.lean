import OraidexSdk.Js.Text
import OraidexSdk.Decimal.Literal

namespace Js
open DigitText DecimalLiteral

def Blank (cs : List Char) : Prop := ∀ c ∈ cs, isWhitespace c = true

def SpaceFree (cs : List Char) : Prop := ∀ c ∈ cs, isWhitespace c = false

theorem blank_nil : Blank [] := fun _ hc => absurd hc List.not_mem_nil

theorem blank_append {a b : List Char} (ha : Blank a) (hb : Blank b) : Blank (a ++ b) :=
  fun c hc => (List.mem_append.mp hc).elim (ha c) (hb c)

theorem spaceFree_append {a b : List Char} : SpaceFree (a ++ b) ↔ SpaceFree a ∧ SpaceFree b := by
  simp only [SpaceFree, List.mem_append, or_imp, forall_and]

theorem spaceFree_digits {cs : List Char} (h : AllDigits cs) : SpaceFree cs :=
  fun c hc => isDigit_not_whitespace (h c hc)

theorem rdropWhile_append_blank {a b : List Char} (hb : Blank b) :
    (a ++ b).rdropWhile isWhitespace = a.rdropWhile isWhitespace := by
  have hreverse : ∀ c ∈ b.reverse, isWhitespace c = true := fun c hc => hb c (List.mem_reverse.mp hc)
  rw [List.rdropWhile, List.reverse_append, List.dropWhile_append_of_pos hreverse, List.rdropWhile]

theorem trim_between {lead core trail : List Char} (hlead : Blank lead) (htrail : Blank trail)
    (hhead : ∀ c ∈ core.head?, isWhitespace c = false)
    (hlast : ∀ c ∈ core.getLast?, isWhitespace c = false) : trim (lead ++ core ++ trail) = core := by
  rw [trim, List.append_assoc, List.dropWhile_append_of_pos hlead]
  cases core with
  | nil =>
    have hall : trail.dropWhile isWhitespace = [] := List.dropWhile_eq_nil_iff.mpr htrail
    rw [List.nil_append, hall, List.rdropWhile_nil]
  | cons c cs =>
    have hc : isWhitespace c = false := hhead c rfl
    rw [List.cons_append, List.dropWhile_cons_of_neg (by simp [hc]), ← List.cons_append,
      rdropWhile_append_blank htrail, List.rdropWhile_eq_self_iff]
    intro hne
    rw [hlast _ (List.getLast?_eq_some_getLast hne)]
    exact Bool.false_ne_true

theorem trim_spaceFree {lead core trail : List Char} (hlead : Blank lead) (htrail : Blank trail)
    (hcore : SpaceFree core) : trim (lead ++ core ++ trail) = core :=
  trim_between hlead htrail (fun c hc => hcore c (List.mem_of_mem_head? hc))
    fun c hc => hcore c (List.mem_of_getLast? hc)

theorem exists_trim (cs : List Char) :
    ∃ lead trail, Blank lead ∧ Blank trail ∧ cs = lead ++ trim cs ++ trail := by
  refine ⟨cs.takeWhile isWhitespace, (cs.dropWhile isWhitespace).rtakeWhile isWhitespace,
    fun c hc => List.mem_takeWhile_imp hc, fun c hc => List.mem_rtakeWhile_imp hc, ?_⟩
  rw [trim, List.append_assoc, List.rdropWhile_append_rtakeWhile, List.takeWhile_append_dropWhile]

theorem trim_sublist (cs : List Char) : (trim cs).Sublist cs :=
  (List.rdropWhile_prefix _ _).sublist.trans (List.dropWhile_suffix isWhitespace).sublist

theorem decimalNumeral_eq_some {sign : Int} {cs : List Char} {n : Int}
    (h : decimalNumeral sign cs = some n) : AllDigits cs ∧ n = sign * numeral cs := by
  rw [decimalNumeral] at h
  split at h
  · rename_i hdigits
    exact ⟨hdigits.2, (Option.some.inj h).symm⟩
  · cases h

theorem integerLiteral_shape {cs : List Char} (hradix : ∀ c ∈ cs, radixPrefix? c = none) {n : Int}
    (h : integerLiteral cs = some n) :
    ∃ (s : Sign) (digits : List Char), cs = s.text ++ digits ∧ AllDigits digits ∧
      n = s.factor * numeral digits := by
  rw [integerLiteral.eq_def] at h
  split at h
  · exact ⟨.unsigned, [], rfl, allDigits_nil, (Option.some.inj h).symm⟩
  · obtain ⟨hdigits, hn⟩ := decimalNumeral_eq_some h
    exact ⟨.plus, _, rfl, hdigits, hn⟩
  · obtain ⟨hdigits, hn⟩ := decimalNumeral_eq_some h
    exact ⟨.minus, _, rfl, hdigits, hn⟩
  · rename_i p rest
    rw [hradix p (by simp)] at h
    obtain ⟨hdigits, hn⟩ := decimalNumeral_eq_some h
    exact ⟨.unsigned, _, rfl, hdigits, hn⟩
  · obtain ⟨hdigits, hn⟩ := decimalNumeral_eq_some h
    exact ⟨.unsigned, _, rfl, hdigits, hn⟩

theorem bigInt_shape {cs : List Char} (hradix : ∀ c ∈ cs, radixPrefix? c = none) {n : Int}
    (h : bigInt cs = .ok n) :
    ∃ (s : Sign) (digits : List Char), trim cs = s.text ++ digits ∧ AllDigits digits ∧
      n = s.factor * numeral digits := by
  rw [bigInt] at h
  split at h
  · rename_i hliteral
    cases h
    exact integerLiteral_shape (fun c hc => hradix c ((trim_sublist cs).subset hc)) hliteral
  · cases h

theorem bigInt_error {cs : List Char} (h : ∀ n, bigInt cs ≠ .ok n) :
    bigInt cs = .error .syntaxError := by
  rw [bigInt] at h ⊢
  cases hread : integerLiteral (trim cs) with
  | none => rfl
  | some n =>
    rw [hread] at h
    exact absurd rfl (h n)

theorem digit_not_sign {c : Char} (h : c.isDigit = true) : c ≠ '+' ∧ c ≠ '-' := by
  constructor
  · rintro rfl
    cases h
  · rintro rfl
    cases h

theorem bigInt_stray {cs : List Char} (hspace : SpaceFree cs)
    (hradix : ∀ c ∈ cs, radixPrefix? c = none) {stray : Char} (hmem : stray ∈ cs)
    (hdigit : stray.isDigit = false) (hsign : stray ≠ '+' ∧ stray ≠ '-') :
    bigInt cs = .error .syntaxError := by
  refine bigInt_error fun n hn => ?_
  obtain ⟨s, digits, hread, hdigits, -⟩ := bigInt_shape hradix hn
  rw [trim_eq_self hspace] at hread
  rw [hread, List.mem_append] at hmem
  rcases hmem with hmem | hmem
  · cases s with
    | unsigned => cases hmem
    | plus => exact hsign.1 (List.mem_singleton.mp hmem)
    | minus => exact hsign.2 (List.mem_singleton.mp hmem)
  · rw [hdigits stray hmem] at hdigit
    cases hdigit

end Js
