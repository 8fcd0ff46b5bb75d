import Mathlib.Data.List.TakeWhile
import Mathlib.Data.Nat.Digits.Lemmas

namespace RadixConversion

def leadingZeros (digits : List ℕ) : List ℕ := digits.takeWhile (· = 0)

-- Digits in base b, most significant first, as digits in base c, with as many zeros in front.
def convert (b c : ℕ) (digits : List ℕ) : List ℕ :=
  leadingZeros digits ++ (Nat.digits c (Nat.ofDigits b digits.reverse)).reverse

section Convert

variable {b c : ℕ} {digits rest : List ℕ}

theorem leadingZeros_eq_replicate (digits : List ℕ) :
    leadingZeros digits = List.replicate (leadingZeros digits).length 0 :=
  List.eq_replicate_iff.mpr ⟨rfl, fun d hd => by simpa using List.mem_takeWhile_imp hd⟩

theorem leadingZeros_append (n : ℕ) (hrest : rest.head? ≠ some 0) :
    leadingZeros (List.replicate n 0 ++ rest) = List.replicate n 0 := by
  rw [leadingZeros, List.takeWhile_append_of_pos (by simp)]
  cases rest with
  | nil => simp
  | cons d rest =>
    have hd : d ≠ 0 := fun h => hrest (congrArg some h)
    simp [hd]

theorem ofDigits_zeros_append (n : ℕ) (rest : List ℕ) :
    Nat.ofDigits b (List.replicate n 0 ++ rest).reverse = Nat.ofDigits b rest.reverse := by
  rw [List.reverse_append, List.reverse_replicate, Nat.ofDigits_append_replicate_zero]

theorem convert_zeros_append (n : ℕ) (hrest : rest.head? ≠ some 0) :
    convert b c (List.replicate n 0 ++ rest) =
      List.replicate n 0 ++ (Nat.digits c (Nat.ofDigits b rest.reverse)).reverse := by
  rw [convert, leadingZeros_append n hrest, ofDigits_zeros_append]

theorem digits_reverse_head (c N : ℕ) : (Nat.digits c N).reverse.head? ≠ some 0 := by
  rw [List.head?_reverse]
  rcases Nat.eq_zero_or_pos N with rfl | hN
  · simp
  · rw [List.getLast?_eq_some_getLast (Nat.digits_ne_nil_iff_ne_zero.mpr hN.ne')]
    exact fun h => Nat.getLast_digit_ne_zero c hN.ne' (Option.some.inj h)

theorem exists_zeros_append (digits : List ℕ) :
    ∃ n rest, digits = List.replicate n 0 ++ rest ∧ rest.head? ≠ some 0 := by
  refine ⟨(leadingZeros digits).length, digits.dropWhile (· = 0), ?_, ?_⟩
  · rw [← leadingZeros_eq_replicate]
    exact List.takeWhile_append_dropWhile.symm
  · intro h
    have hnot := List.head?_dropWhile_not (fun d => decide (d = 0)) digits
    rw [h] at hnot
    simp at hnot

theorem convert_convert (hb : 1 < b) (c : ℕ) (hdigits : ∀ d ∈ digits, d < b) :
    convert c b (convert b c digits) = digits := by
  obtain ⟨n, rest, rfl, hrest⟩ := exists_zeros_append digits
  rw [convert_zeros_append n hrest, convert_zeros_append n (digits_reverse_head c _),
    List.reverse_reverse, Nat.ofDigits_digits, Nat.digits_ofDigits b hb, List.reverse_reverse]
  · intro d hd
    exact hdigits d (List.mem_append_right _ (List.mem_reverse.mp hd))
  · intro hne hzero
    refine hrest ?_
    rw [← List.getLast?_reverse, List.getLast?_eq_some_getLast hne, hzero]

theorem convert_lt (hc : 1 < c) (digits : List ℕ) : ∀ d ∈ convert b c digits, d < c := by
  intro d hd
  rcases List.mem_append.mp hd with hzero | hdigit
  · have hd0 : d = 0 := by simpa using List.mem_takeWhile_imp hzero
    omega
  · exact Nat.digits_lt_base hc (List.mem_reverse.mp hdigit)

end Convert

end RadixConversion
