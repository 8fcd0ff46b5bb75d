import Mathlib.Data.List.DropRight
import Mathlib.Algebra.Order.Ring.Nat

namespace DigitText

def AllDigits (cs : List Char) : Prop := ∀ c ∈ cs, c.isDigit = true

instance (cs : List Char) : Decidable (AllDigits cs) :=
  decidable_of_iff (cs.all Char.isDigit = true) List.all_eq_true

def numeral (cs : List Char) : Nat := Nat.ofDigitChars 10 cs 0

def zeros (n : Nat) : List Char := List.replicate n '0'

def stripZeros (cs : List Char) : List Char := cs.rdropWhile (· == '0')

@[simp] theorem allDigits_nil : AllDigits [] := by simp [AllDigits]

@[simp] theorem allDigits_cons (c : Char) (cs : List Char) :
    AllDigits (c :: cs) ↔ c.isDigit = true ∧ AllDigits cs := by simp [AllDigits]

@[simp] theorem allDigits_append (a b : List Char) :
    AllDigits (a ++ b) ↔ AllDigits a ∧ AllDigits b := by
  simp only [AllDigits, List.mem_append, or_imp, forall_and]

@[simp] theorem allDigits_zeros (n : Nat) : AllDigits (zeros n) := by
  intro c hc
  rw [List.eq_of_mem_replicate hc]
  rfl

theorem allDigits_toDigits (n : Nat) : AllDigits (Nat.toDigits 10 n) :=
  fun _ hc => Nat.isDigit_of_mem_toDigits (by decide) (by decide) hc

theorem AllDigits.sublist {a b : List Char} (h : AllDigits b) (hs : a.Sublist b) : AllDigits a :=
  fun c hc => h c (hs.subset hc)

theorem AllDigits.not_mem {cs : List Char} (h : AllDigits cs) {c : Char}
    (hc : c.isDigit = false) : c ∉ cs := by
  intro hm
  simp [h c hm] at hc

@[simp] theorem numeral_nil : numeral [] = 0 := rfl

@[simp] theorem numeral_toDigits (n : Nat) : numeral (Nat.toDigits 10 n) = n :=
  Nat.ofDigitChars_ten_toDigits

theorem numeral_append (a b : List Char) :
    numeral (a ++ b) = numeral a * 10 ^ b.length + numeral b := by
  rw [numeral, Nat.ofDigitChars_append, Nat.ofDigitChars_eq_ofDigitChars_zero]
  simp [numeral, Nat.mul_comm]

@[simp] theorem numeral_zeros (n : Nat) : numeral (zeros n) = 0 := by
  simp [numeral, zeros, Nat.ofDigitChars_replicate_zero]

@[simp] theorem length_zeros (n : Nat) : (zeros n).length = n := List.length_replicate

theorem numeral_zeros_append (n : Nat) (cs : List Char) :
    numeral (zeros n ++ cs) = numeral cs := by simp [numeral_append]

theorem numeral_append_zeros (n : Nat) (cs : List Char) :
    numeral (cs ++ zeros n) = numeral cs * 10 ^ n := by simp [numeral_append]

theorem numeral_lt {cs : List Char} (h : AllDigits cs) : numeral cs < 10 ^ cs.length := by
  induction cs with
  | nil => simp
  | cons c cs ih =>
    obtain ⟨hc, hcs⟩ := (allDigits_cons c cs).mp h
    have hdigit : c.toNat - 48 ≤ 9 := by
      have hle := (Char.isDigit_iff_toNat.mp hc).2
      have h9 : '9'.toNat = 57 := rfl
      omega
    have hhead : numeral [c] = c.toNat - 48 := by
      simp [numeral, Nat.ofDigitChars_cons]
    have hsplit := numeral_append [c] cs
    have htail := ih hcs
    rw [List.singleton_append, hhead] at hsplit
    rw [hsplit, List.length_cons, Nat.pow_succ]
    have := Nat.mul_le_mul_right (10 ^ cs.length) hdigit
    omega

theorem numeral_eq_zero_iff {cs : List Char} (h : AllDigits cs) :
    numeral cs = 0 ↔ ∀ c ∈ cs, c = '0' := by
  induction cs with
  | nil => simp
  | cons c cs ih =>
    obtain ⟨hc, hcs⟩ := (allDigits_cons c cs).mp h
    have hhead : numeral [c] = c.toNat - 48 := by simp [numeral, Nat.ofDigitChars_cons]
    have hzero : c.toNat - 48 = 0 ↔ c = '0' := by
      have hge := (Char.isDigit_iff_toNat.mp hc).1
      rw [← Char.toNat_inj]
      have h0 : '0'.toNat = 48 := rfl
      omega
    have hsplit := numeral_append [c] cs
    have hpow : 0 < 10 ^ cs.length := Nat.pow_pos (by decide)
    rw [List.singleton_append, hhead] at hsplit
    rw [List.forall_mem_cons, ← ih hcs, ← hzero, hsplit, Nat.add_eq_zero_iff, Nat.mul_eq_zero,
      or_iff_left hpow.ne']

theorem numeral_drop_add (cs : List Char) (k : Nat) :
    numeral cs = numeral (cs.take k) * 10 ^ (cs.length - k) + numeral (cs.drop k) := by
  have h := numeral_append (cs.take k) (cs.drop k)
  rwa [List.take_append_drop, List.length_drop] at h

theorem numeral_drop {cs : List Char} (h : AllDigits cs) (k : Nat) :
    numeral (cs.drop k) = numeral cs % 10 ^ (cs.length - k) := by
  have hlt := numeral_lt (h.sublist (List.drop_sublist k cs))
  rw [List.length_drop] at hlt
  rw [numeral_drop_add cs k, Nat.mul_comm, Nat.mul_add_mod, Nat.mod_eq_of_lt hlt]

theorem stripZeros_append (cs : List Char) :
    ∃ n, cs = stripZeros cs ++ zeros n := by
  have h : cs.rtakeWhile (· == '0') = zeros (cs.rtakeWhile (· == '0')).length := by
    rw [zeros, List.eq_replicate_iff]
    exact ⟨rfl, fun c hc => by simpa using List.mem_rtakeWhile_imp hc⟩
  exact ⟨_, by rw [← h]; exact List.rdropWhile_append_rtakeWhile.symm⟩

theorem AllDigits.stripZeros {cs : List Char} (h : AllDigits cs) : AllDigits (stripZeros cs) :=
  h.sublist (List.rdropWhile_prefix _ _).sublist

theorem stripZeros_eq_nil {cs : List Char} (h : stripZeros cs = []) : numeral cs = 0 := by
  obtain ⟨n, hn⟩ := stripZeros_append cs
  rw [hn, h, List.nil_append, numeral_zeros]

theorem toDigits_take (n d : Nat) (h : d < (Nat.toDigits 10 n).length) :
    (Nat.toDigits 10 n).take ((Nat.toDigits 10 n).length - d) = Nat.toDigits 10 (n / 10 ^ d) := by
  induction d generalizing n with
  | zero => simp
  | succ d ih =>
    have hlen : ¬ (Nat.toDigits 10 n).length ≤ 1 := by omega
    rw [Nat.length_toDigits_le_iff (by decide) (by decide)] at hlen
    have hsplit := Nat.toDigits_of_base_le (b := 10) (n := n) (by decide) (by omega)
    rw [hsplit] at h ⊢
    simp only [List.length_append, List.length_singleton] at h ⊢
    rw [Nat.add_sub_add_right, List.take_append_of_le_length (by omega), ih _ (by omega),
      Nat.div_div_eq_div_mul, Nat.pow_succ, Nat.mul_comm]

theorem toDigits_length_le (n d : Nat) (hd : 0 < d) :
    (Nat.toDigits 10 n).length ≤ d ↔ n < 10 ^ d :=
  Nat.length_toDigits_le_iff (by decide) hd

theorem leading_digit {n : Nat} (hn : n ≠ 0) : numeral ((Nat.toDigits 10 n).take 1) ≠ 0 := by
  have hpos : 0 < (Nat.toDigits 10 n).length := Nat.length_toDigits_pos
  have htake := toDigits_take n ((Nat.toDigits 10 n).length - 1) (by omega)
  have hone : (Nat.toDigits 10 n).length - ((Nat.toDigits 10 n).length - 1) = 1 := by omega
  have hle : 10 ^ ((Nat.toDigits 10 n).length - 1) ≤ n := by
    rcases Nat.eq_zero_or_pos ((Nat.toDigits 10 n).length - 1) with hzero | hlong
    · rw [hzero, Nat.pow_zero]
      exact Nat.pos_of_ne_zero hn
    · exact Nat.not_lt.mp ((toDigits_length_le n _ hlong).not.mp (by omega))
  rw [hone] at htake
  rw [htake, numeral_toDigits]
  exact (Nat.div_pos hle (Nat.pow_pos (by decide))).ne'

theorem stripZeros_take_one {cs : List Char} (hne : stripZeros cs ≠ []) :
    (stripZeros cs).take 1 = cs.take 1 := by
  obtain ⟨n, hn⟩ := stripZeros_append cs
  obtain ⟨c, rest, hc⟩ := List.exists_cons_of_ne_nil hne
  rw [hc] at hn ⊢
  rw [hn]
  rfl

end DigitText
