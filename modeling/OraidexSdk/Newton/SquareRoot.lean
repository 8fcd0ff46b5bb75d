import Mathlib.Algebra.Group.Nat.Even
import Mathlib.Data.Nat.Sqrt
import Mathlib.Data.Nat.Find
import Mathlib.Logic.Function.Iterate
import Mathlib.Order.Bounds.Basic
import Mathlib.Tactic.Linarith
import Mathlib.Tactic.Ring

namespace NewtonRoot

section Converge

variable {α : Type} [DecidableEq α] (f : α → α)

-- Iterates until two successive values agree, or the limit is counted down to zero.
def converge : ℕ → α → α → α
  | 0, _, x => x
  | limit + 1, o, x => if x ≠ o ∧ limit ≠ 0 then converge limit x (f x) else x

-- The early stop is at a fixed point, so it does not change the result.
theorem converge_eq_iterate (limit : ℕ) : ∀ {o x : α}, x ≠ o →
    converge f (limit + 1) o x = f^[limit] x := by
  induction limit with
  | zero => exact fun _ => if_neg (by simp)
  | succ limit ih =>
    intro o x hne
    rw [converge, if_pos ⟨hne, Nat.succ_ne_zero _⟩, Function.iterate_succ_apply]
    by_cases hfixed : f x = x
    · rw [converge, if_neg (by simp [hfixed]), hfixed, Function.iterate_fixed hfixed]
    · exact ih hfixed

end Converge

def step (N x : ℕ) : ℕ := (x + N / x) / 2

section Step

variable {N x : ℕ}

theorem sqrt_le_step (hx : 0 < x) : N.sqrt ≤ step N x := by
  have hquotient : N < x * (N / x + 1) := Nat.lt_mul_div_succ N hx
  rw [step, Nat.le_div_iff_mul_le Nat.two_pos]
  by_contra hlt
  have hsum : x + (N / x + 1) ≤ N.sqrt * 2 := by omega
  have hmean : 4 * x * (N / x + 1) ≤ 4 * N :=
    calc
      4 * x * (N / x + 1) ≤ (x + (N / x + 1)) ^ 2 := four_mul_le_sq_add x (N / x + 1)
      _ ≤ (N.sqrt * 2) ^ 2 := Nat.pow_le_pow_left hsum 2
      _ = 4 * (N.sqrt * N.sqrt) := by ring
      _ ≤ 4 * N := Nat.mul_le_mul_left 4 N.sqrt_le
  rw [Nat.mul_assoc] at hmean
  omega

theorem step_pos (hN : 0 < N) (hx : 0 < x) : 0 < step N x :=
  (Nat.sqrt_pos.mpr hN).trans_le (sqrt_le_step hx)

theorem quotient_le_sqrt (h : N.sqrt < x) : N / x ≤ N.sqrt := by
  have hlt : N < x * (N.sqrt + 1) :=
    N.lt_succ_sqrt.trans_le (Nat.mul_le_mul_right _ h)
  exact Nat.le_of_lt_succ ((Nat.div_lt_iff_lt_mul (by omega)).mpr (by rwa [Nat.mul_comm] at hlt))

theorem step_sub_le (h : N.sqrt < x) : step N x - N.sqrt ≤ (x - N.sqrt) / 2 := by
  have hle := quotient_le_sqrt h
  rw [step]
  omega

theorem step_lt (h : N.sqrt < x) : step N x < x := by
  have hle := quotient_le_sqrt h
  rw [step]
  omega

theorem step_sqrt (hN : 0 < N) :
    step N N.sqrt = if N + 1 = (N.sqrt + 1) * (N.sqrt + 1) then N.sqrt + 1 else N.sqrt := by
  have hs := Nat.sqrt_pos.mpr hN
  have hadd := N.sqrt_le_add
  have hlow : N.sqrt ≤ N / N.sqrt := (Nat.le_div_iff_mul_le hs).mpr N.sqrt_le
  have hsquare : (N.sqrt + 1) * (N.sqrt + 1) = (N.sqrt + 2) * N.sqrt + 1 := by ring
  have hexpand : (N.sqrt + 2) * N.sqrt = N.sqrt * N.sqrt + 2 * N.sqrt := Nat.add_mul _ _ _
  rw [step]
  split
  · have hquotient : N / N.sqrt = N.sqrt + 2 := Nat.div_eq_of_eq_mul_left hs (by omega)
    omega
  · have hquotient : N / N.sqrt < N.sqrt + 2 := (Nat.div_lt_iff_lt_mul hs).mpr (by omega)
    omega

theorem step_succ_sqrt : step N (N.sqrt + 1) ≤ N.sqrt :=
  Nat.le_of_lt_succ (step_lt (Nat.lt_succ_self N.sqrt))

end Step

section Iterate

variable {N : ℕ}

theorem iterate_pos (hN : 0 < N) (n : ℕ) : 0 < (step N)^[n] N := by
  induction n with
  | zero => exact hN
  | succ n ih =>
    rw [Function.iterate_succ_apply']
    exact step_pos hN ih

theorem sqrt_le_iterate (hN : 0 < N) (n : ℕ) : N.sqrt ≤ (step N)^[n] N := by
  cases n with
  | zero => exact N.sqrt_le_self
  | succ n =>
    rw [Function.iterate_succ_apply']
    exact sqrt_le_step (iterate_pos hN n)

def FirstReaches (N steps : ℕ) : Prop := IsLeast {n | (step N)^[n] N = N.sqrt} steps

theorem iterate_ne {steps n : ℕ} (hreaches : FirstReaches N steps) (h : n < steps) :
    (step N)^[n] N ≠ N.sqrt :=
  fun heq => absurd (hreaches.2 heq) (Nat.not_le.mpr h)

theorem iterate_sub_le (hN : 0 < N) (n : ℕ) (h : ∀ i < n, (step N)^[i] N ≠ N.sqrt) :
    ((step N)^[n] N - N.sqrt) * 2 ^ n ≤ N := by
  induction n with
  | zero => simp
  | succ n ih =>
    have habove : N.sqrt < (step N)^[n] N :=
      lt_of_le_of_ne (sqrt_le_iterate hN n) (h n n.lt_succ_self).symm
    have hhalf := step_sub_le habove
    have hbefore := ih fun i hi => h i (hi.trans n.lt_succ_self)
    rw [Function.iterate_succ_apply', Nat.pow_succ]
    calc
      (step N ((step N)^[n] N) - N.sqrt) * (2 ^ n * 2) ≤
          ((step N)^[n] N - N.sqrt) / 2 * (2 ^ n * 2) := Nat.mul_le_mul_right _ hhalf
      _ = ((step N)^[n] N - N.sqrt) / 2 * 2 * 2 ^ n := by ring
      _ ≤ ((step N)^[n] N - N.sqrt) * 2 ^ n := Nat.mul_le_mul_right _ (Nat.div_mul_le_self _ 2)
      _ ≤ N := hbefore

theorem exists_firstReaches (hN : 0 < N) {n : ℕ} (hn : N < 2 ^ n) :
    ∃ steps ≤ n, FirstReaches N steps := by
  have hreached : ∃ i ≤ n, (step N)^[i] N = N.sqrt := by
    by_contra hnone
    simp only [not_exists, not_and] at hnone
    have hclose := iterate_sub_le hN n fun i hi => hnone i hi.le
    have habove := lt_of_le_of_ne (sqrt_le_iterate hN n) (Ne.symm (hnone n le_rfl))
    have hone : 2 ^ n ≤ ((step N)^[n] N - N.sqrt) * 2 ^ n :=
      Nat.le_mul_of_pos_left _ (Nat.sub_pos_of_lt habove)
    omega
  obtain ⟨i, hi, heq⟩ := hreached
  have hexists : ∃ i, (step N)^[i] N = N.sqrt := ⟨i, heq⟩
  exact ⟨Nat.find hexists, (Nat.find_min' hexists heq).trans hi, Nat.find_spec hexists,
    fun j hj => Nat.find_min' hexists hj⟩

theorem iterate_add (steps n : ℕ) (hreached : (step N)^[steps] N = N.sqrt) :
    (step N)^[steps + n] N = (step N)^[n] N.sqrt := by
  rw [Nat.add_comm, Function.iterate_add_apply, hreached]

theorem iterate_sqrt_of_not_square (hN : 0 < N) (h : ¬ IsSquare (N + 1)) (n : ℕ) :
    (step N)^[n] N.sqrt = N.sqrt := by
  refine Function.iterate_fixed ?_ n
  rw [step_sqrt hN, if_neg fun heq => h ⟨_, heq⟩]

theorem sqrt_of_square (h : IsSquare (N + 1)) : N + 1 = (N.sqrt + 1) * (N.sqrt + 1) := by
  obtain ⟨t, ht⟩ := h
  have hroot : t = N.sqrt + 1 := by
    have hlow : N.sqrt < t := Nat.sqrt_lt.mpr (by omega)
    have hhigh : t ≤ N.sqrt + 1 := by
      by_contra hlt
      have hsucc := N.succ_le_succ_sqrt
      have hmul := Nat.mul_self_lt_mul_self (Nat.not_le.mp hlt)
      omega
    omega
  rwa [hroot] at ht

theorem iterate_sqrt_of_square (hN : 0 < N) (h : IsSquare (N + 1)) (n : ℕ) :
    (step N)^[n] N.sqrt = if Even n then N.sqrt else N.sqrt + 1 := by
  have hup : step N N.sqrt = N.sqrt + 1 := by rw [step_sqrt hN, if_pos (sqrt_of_square h)]
  have hdown : step N (N.sqrt + 1) = N.sqrt :=
    le_antisymm step_succ_sqrt (sqrt_le_step (Nat.succ_pos _))
  induction n with
  | zero => simp
  | succ n ih =>
    rw [Function.iterate_succ_apply', ih]
    by_cases heven : Even n
    · rw [if_pos heven, if_neg (by simpa [Nat.even_add_one] using heven), hup]
    · rw [if_neg heven, if_pos (by simpa [Nat.even_add_one] using heven), hdown]

theorem iterate_eq_sqrt_iff (hN : 0 < N) {steps : ℕ} (hreaches : FirstReaches N steps) (n : ℕ) :
    (step N)^[n] N = N.sqrt ↔ steps ≤ n ∧ (IsSquare (N + 1) → Even (n - steps)) := by
  rcases Nat.lt_or_ge n steps with hlt | hge
  · exact iff_of_false (iterate_ne hreaches hlt) fun h => absurd h.1 (Nat.not_le.mpr hlt)
  · obtain ⟨k, rfl⟩ := Nat.exists_eq_add_of_le hge
    rw [iterate_add steps k hreaches.1, Nat.add_sub_cancel_left, and_iff_right hge]
    by_cases hsquare : IsSquare (N + 1)
    · rw [iterate_sqrt_of_square hN hsquare]
      simp [hsquare]
    · exact iff_of_true (iterate_sqrt_of_not_square hN hsquare k) fun h => absurd h hsquare

end Iterate

end NewtonRoot
