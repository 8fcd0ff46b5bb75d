import OraidexSdk.Newton.SquareRoot
import Mathlib.Analysis.SpecialFunctions.Pow.NthRootLemmas
import Mathlib.Dynamics.PeriodicPts.Lemmas

namespace NewtonRoot
open Function

theorem iterate_eq_iff_of_first {α : Type} {f : α → α} {x y : α} {t : ℕ}
    (hfirst : IsLeast {i | f^[i] x = y} t) (n : ℕ) :
    f^[n] x = y ↔ t ≤ n ∧ minimalPeriod f y ∣ n - t := by
  rcases Nat.lt_or_ge n t with hlt | hge
  · exact iff_of_false (fun hn => absurd (hfirst.2 hn) (Nat.not_le.mpr hlt)) fun h => by omega
  · obtain ⟨k, rfl⟩ := Nat.exists_eq_add_of_le hge
    have hmet : f^[t] x = y := hfirst.1
    rw [and_iff_right hge, Nat.add_sub_cancel_left, ← isPeriodicPt_iff_minimalPeriod_dvd, Nat.add_comm,
      iterate_add_apply, hmet]
    rfl

-- Newton's step for the root of degree n + 1.
def nthStep (n N x : ℕ) : ℕ := (n * x + N / x ^ n) / (n + 1)

theorem nthStep_one (N : ℕ) : nthStep 1 N = step N := by
  funext x
  rw [nthStep, step, Nat.one_mul, pow_one]

section Step

variable {n N x : ℕ}

theorem nthRoot_le_nthStep (hx : x ≠ 0) : (n + 1).nthRoot N ≤ nthStep n N x := by
  refine Nat.le_of_lt_succ ((Nat.nthRoot_lt_iff n.succ_ne_zero).mpr ?_)
  rw [nthStep, Nat.add_comm (n * x)]
  exact Nat.nthRoot.lt_pow_go_succ_aux hx

theorem nthRoot_pos (n : ℕ) (hN : 0 < N) : 0 < (n + 1).nthRoot N :=
  (Nat.le_nthRoot_iff n.succ_ne_zero).mpr ((one_pow _).le.trans hN)

theorem nthStep_pos (hN : 0 < N) (hx : x ≠ 0) : 0 < nthStep n N x :=
  (nthRoot_pos n hN).trans_le (nthRoot_le_nthStep hx)

theorem quotient_le_nthRoot (h : (n + 1).nthRoot N < x) : N / x ^ n ≤ (n + 1).nthRoot N := by
  have hpow : 0 < x ^ n := Nat.pow_pos (Nat.zero_lt_of_lt h)
  refine Nat.le_of_lt_succ ((Nat.div_lt_iff_lt_mul hpow).mpr ?_)
  calc
    N < ((n + 1).nthRoot N + 1) ^ (n + 1) := Nat.lt_pow_nthRoot_add_one n.succ_ne_zero N
    _ = ((n + 1).nthRoot N + 1) ^ n * ((n + 1).nthRoot N + 1) := pow_succ _ n
    _ ≤ x ^ n * ((n + 1).nthRoot N + 1) := Nat.mul_le_mul_right _ (Nat.pow_le_pow_left h n)
    _ = ((n + 1).nthRoot N + 1) * x ^ n := Nat.mul_comm _ _

theorem nthStep_sub_le (h : (n + 1).nthRoot N < x) :
    (nthStep n N x - (n + 1).nthRoot N) * (n + 1) ≤ (x - (n + 1).nthRoot N) * n := by
  obtain ⟨k, rfl⟩ := Nat.exists_eq_add_of_le h.le
  have hle := quotient_le_nthRoot h
  have hmul := Nat.div_mul_le_self (n * ((n + 1).nthRoot N + k) + N / ((n + 1).nthRoot N + k) ^ n)
    (n + 1)
  rw [Nat.add_sub_cancel_left, Nat.sub_mul, Nat.sub_le_iff_le_add, nthStep]
  linarith

theorem nthStep_lt (h : (n + 1).nthRoot N < x) : nthStep n N x < x := by
  have hle := quotient_le_nthRoot h
  have hsplit : x * (n + 1) = n * x + x := by ring
  rw [nthStep, Nat.div_lt_iff_lt_mul n.succ_pos, hsplit]
  omega

end Step

section AtRoot

variable {n N : ℕ}

theorem nthStep_nthRoot_lt_iff (hN : 0 < N) (d : ℕ) :
    nthStep n N ((n + 1).nthRoot N) < (n + 1).nthRoot N + d ↔
      N < (n + 1).nthRoot N ^ n * ((n + 1).nthRoot N + (n + 1) * d) := by
  have hpow : 0 < (n + 1).nthRoot N ^ n := Nat.pow_pos (nthRoot_pos n hN)
  have hsplit : ((n + 1).nthRoot N + d) * (n + 1) =
      n * (n + 1).nthRoot N + ((n + 1).nthRoot N + (n + 1) * d) := by ring
  rw [nthStep, Nat.div_lt_iff_lt_mul n.succ_pos, hsplit, Nat.add_lt_add_iff_left,
    Nat.div_lt_iff_lt_mul hpow, Nat.mul_comm]

theorem nthRoot_fixed_iff (hN : 0 < N) :
    IsFixedPt (nthStep n N) ((n + 1).nthRoot N) ↔
      N < (n + 1).nthRoot N ^ n * ((n + 1).nthRoot N + (n + 1)) := by
  have hge := nthRoot_le_nthStep (n := n) (N := N) (nthRoot_pos n hN).ne'
  have hlt := nthStep_nthRoot_lt_iff (n := n) hN 1
  rw [Nat.mul_one] at hlt
  rw [← hlt, IsFixedPt]
  omega

theorem succ_pow_le_quadratic {m r : ℕ} (h : m ≤ r) :
    r ^ 2 * (r + 1) ^ m ≤ r ^ m * (r ^ 2 + m * r + m ^ 2) := by
  induction m with
  | zero => simp
  | succ m ih =>
    have hsquare : m ^ 2 ≤ m * r := by
      rw [pow_two]
      exact Nat.mul_le_mul_left m (Nat.le_of_succ_le h)
    have hnext : (r ^ 2 + m * r + m ^ 2) * (r + 1) ≤
        r * (r ^ 2 + (m + 1) * r + (m + 1) ^ 2) := by
      nlinarith
    calc
      r ^ 2 * (r + 1) ^ (m + 1) = r ^ 2 * (r + 1) ^ m * (r + 1) := by ring
      _ ≤ r ^ m * (r ^ 2 + m * r + m ^ 2) * (r + 1) :=
        Nat.mul_le_mul_right _ (ih (Nat.le_of_succ_le h))
      _ = r ^ m * ((r ^ 2 + m * r + m ^ 2) * (r + 1)) := Nat.mul_assoc _ _ _
      _ ≤ r ^ m * (r * (r ^ 2 + (m + 1) * r + (m + 1) ^ 2)) := Nat.mul_le_mul_left _ hnext
      _ = r ^ (m + 1) * (r ^ 2 + (m + 1) * r + (m + 1) ^ 2) := by ring

-- From the degree on the next power is near enough that no step leaves the root by two.
theorem succ_pow_le {n r : ℕ} (h : n < r) :
    (r + 1) ^ (n + 1) ≤ r ^ n * (r + (n + 1) * 2) := by
  have hquadratic := succ_pow_le_quadratic h
  have hsquare : (n + 1) ^ 2 ≤ (n + 1) * r := by
    rw [pow_two]
    exact Nat.mul_le_mul_left _ h
  have hpos : 0 < r ^ 2 := Nat.pow_pos (Nat.zero_lt_of_lt h)
  refine Nat.le_of_mul_le_mul_left ?_ hpos
  calc
    r ^ 2 * (r + 1) ^ (n + 1) ≤ r ^ (n + 1) * (r ^ 2 + (n + 1) * r + (n + 1) ^ 2) := hquadratic
    _ ≤ r ^ (n + 1) * (r ^ 2 + (n + 1) * r + (n + 1) * r) :=
      Nat.mul_le_mul_left _ (Nat.add_le_add_left hsquare _)
    _ = r ^ 2 * (r ^ n * (r + (n + 1) * 2)) := by ring

theorem nthStep_nthRoot_le (hN : 0 < N) (h : n < (n + 1).nthRoot N) :
    nthStep n N ((n + 1).nthRoot N) ≤ (n + 1).nthRoot N + 1 :=
  Nat.le_of_lt_succ <| (nthStep_nthRoot_lt_iff hN 2).mpr <|
    (Nat.lt_pow_nthRoot_add_one n.succ_ne_zero N).trans_le (succ_pow_le h)

theorem nthStep_succ_nthRoot : nthStep n N ((n + 1).nthRoot N + 1) = (n + 1).nthRoot N :=
  le_antisymm (Nat.le_of_lt_succ (nthStep_lt (Nat.lt_succ_self _)))
    (nthRoot_le_nthStep (Nat.succ_ne_zero _))

-- Above the root every step goes down, so that each way ends on it.
theorem exists_iterate_eq_nthRoot {x : ℕ} (hx : x ≠ 0) (hle : (n + 1).nthRoot N ≤ x) :
    ∃ i, (nthStep n N)^[i] x = (n + 1).nthRoot N := by
  induction x using Nat.strong_induction_on with
  | _ x ih =>
    rcases Nat.eq_or_lt_of_le hle with heq | hlt
    · exact ⟨0, heq.symm⟩
    · rcases Nat.eq_zero_or_pos (nthStep n N x) with hzero | hpos
      · have hroot := nthRoot_le_nthStep (n := n) (N := N) hx
        exact ⟨1, by rw [iterate_one]; omega⟩
      · obtain ⟨i, hi⟩ := ih _ (nthStep_lt hlt) hpos.ne' (nthRoot_le_nthStep hx)
        exact ⟨i + 1, by rw [iterate_succ_apply, hi]⟩

-- In how many steps the root comes back: at once where it is kept, in two where it is left for its
-- successor, which is always so from the degree on, and by a longer way down otherwise.
noncomputable def rootPeriod (n N : ℕ) : ℕ :=
  let r := (n + 1).nthRoot N
  if N < r ^ n * (r + (n + 1)) then 1
  else if n < r then 2
  else minimalPeriod (nthStep n N) r

theorem rootPeriod_eq (hN : 0 < N) :
    rootPeriod n N = minimalPeriod (nthStep n N) ((n + 1).nthRoot N) := by
  rw [rootPeriod]
  split
  · rename_i hkept
    exact (minimalPeriod_eq_one_iff_isFixedPt.mpr ((nthRoot_fixed_iff hN).mpr hkept)).symm
  · rename_i hleft
    split
    · rename_i hlarge
      have hmoves : ¬ IsFixedPt (nthStep n N) ((n + 1).nthRoot N) := (nthRoot_fixed_iff hN).not.mpr hleft
      have hup : nthStep n N ((n + 1).nthRoot N) = (n + 1).nthRoot N + 1 := by
        have hge := nthRoot_le_nthStep (n := n) (N := N) (nthRoot_pos n hN).ne'
        have hle := nthStep_nthRoot_le hN hlarge
        rw [IsFixedPt] at hmoves
        omega
      have hback : IsPeriodicPt (nthStep n N) 2 ((n + 1).nthRoot N) := by
        change nthStep n N (nthStep n N _) = _
        rw [hup, nthStep_succ_nthRoot]
      exact (minimalPeriod_eq_prime_iff.mpr ⟨hback, hmoves⟩).symm
    · rfl

theorem rootPeriod_pos (hN : 0 < N) : 0 < rootPeriod n N := by
  have hne : (n + 1).nthRoot N ≠ 0 := (nthRoot_pos n hN).ne'
  obtain ⟨i, hi⟩ := exists_iterate_eq_nthRoot (nthStep_pos (n := n) hN hne).ne' (nthRoot_le_nthStep hne)
  rw [rootPeriod_eq hN]
  exact minimalPeriod_pos_of_mem_periodicPts ⟨i + 1, i.succ_pos, by
    rw [IsPeriodicPt, IsFixedPt, iterate_succ_apply, hi]⟩

def RootKept (n N : ℕ) : Prop :=
  let r := (n + 1).nthRoot N
  N < r ^ n * (r + (n + 1)) ∨ n < r

theorem iterate_nthRoot_of_kept (hN : 0 < N) (hkept : RootKept n N) (i : ℕ) :
    (nthStep n N)^[i] ((n + 1).nthRoot N) = (n + 1).nthRoot N ∨
      (nthStep n N)^[i] ((n + 1).nthRoot N) = (n + 1).nthRoot N + 1 ∧ n < (n + 1).nthRoot N := by
  rcases hkept with hfixed | hlarge
  · exact .inl (iterate_fixed ((nthRoot_fixed_iff hN).mpr hfixed) i)
  · induction i with
    | zero => exact .inl rfl
    | succ i ih =>
      rw [iterate_succ_apply']
      rcases ih with hroot | ⟨hsucc, -⟩
      · rw [hroot]
        have hge := nthRoot_le_nthStep (n := n) (N := N) (nthRoot_pos n hN).ne'
        have hle := nthStep_nthRoot_le hN hlarge
        omega
      · exact .inl (by rw [hsucc, nthStep_succ_nthRoot])

end AtRoot

section Iterate

variable {n N : ℕ}

theorem nthStep_iterate_pos (hN : 0 < N) (i : ℕ) : 0 < (nthStep n N)^[i] N := by
  induction i with
  | zero => exact hN
  | succ i ih =>
    rw [iterate_succ_apply']
    exact nthStep_pos hN ih.ne'

theorem nthRoot_le_iterate (hN : 0 < N) (i : ℕ) :
    (n + 1).nthRoot N ≤ (nthStep n N)^[i] N := by
  cases i with
  | zero =>
    exact (Nat.le_self_pow n.succ_ne_zero _).trans (Nat.pow_nthRoot_le (.inl n.succ_ne_zero))
  | succ i =>
    rw [iterate_succ_apply']
    exact nthRoot_le_nthStep (nthStep_iterate_pos hN i).ne'

theorem iterate_sub_le_pow (hN : 0 < N) (i : ℕ)
    (h : ∀ j < i, (nthStep n N)^[j] N ≠ (n + 1).nthRoot N) :
    ((nthStep n N)^[i] N - (n + 1).nthRoot N) * (n + 1) ^ i ≤ N * n ^ i := by
  induction i with
  | zero => simp
  | succ i ih =>
    have habove : (n + 1).nthRoot N < (nthStep n N)^[i] N :=
      lt_of_le_of_ne (nthRoot_le_iterate hN i) (h i i.lt_succ_self).symm
    have hshrink := nthStep_sub_le habove
    have hbefore := ih fun j hj => h j (hj.trans i.lt_succ_self)
    rw [iterate_succ_apply']
    calc
      (nthStep n N ((nthStep n N)^[i] N) - (n + 1).nthRoot N) * (n + 1) ^ (i + 1) =
          (nthStep n N ((nthStep n N)^[i] N) - (n + 1).nthRoot N) * (n + 1) * (n + 1) ^ i := by
        ring
      _ ≤ ((nthStep n N)^[i] N - (n + 1).nthRoot N) * n * (n + 1) ^ i :=
        Nat.mul_le_mul_right _ hshrink
      _ = ((nthStep n N)^[i] N - (n + 1).nthRoot N) * (n + 1) ^ i * n := by ring
      _ ≤ N * n ^ i * n := Nat.mul_le_mul_right n hbefore
      _ = N * n ^ (i + 1) := by ring

def FirstMeets (n N steps : ℕ) : Prop :=
  IsLeast {i | (nthStep n N)^[i] N = (n + 1).nthRoot N} steps

theorem exists_firstMeets (hN : 0 < N) {i : ℕ} (hi : N * n ^ i < (n + 1) ^ i) :
    ∃ steps ≤ i, FirstMeets n N steps := by
  classical
  have hreached : ∃ j ≤ i, (nthStep n N)^[j] N = (n + 1).nthRoot N := by
    by_contra hnone
    simp only [not_exists, not_and] at hnone
    have hclose := iterate_sub_le_pow hN i fun j hj => hnone j hj.le
    have habove := lt_of_le_of_ne (nthRoot_le_iterate hN i) (Ne.symm (hnone i le_rfl))
    have hone : (n + 1) ^ i ≤ ((nthStep n N)^[i] N - (n + 1).nthRoot N) * (n + 1) ^ i :=
      Nat.le_mul_of_pos_left _ (Nat.sub_pos_of_lt habove)
    omega
  obtain ⟨j, hj, heq⟩ := hreached
  have hexists : ∃ j, (nthStep n N)^[j] N = (n + 1).nthRoot N := ⟨j, heq⟩
  exact ⟨Nat.find hexists, (Nat.find_min' hexists heq).trans hj, Nat.find_spec hexists,
    fun _ hmet => Nat.find_min' hexists hmet⟩

theorem iterate_eq_nthRoot_iff (hN : 0 < N) (i : ℕ) :
    (nthStep n N)^[i] N = (n + 1).nthRoot N ↔
      ∃ steps ≤ i, FirstMeets n N steps ∧ rootPeriod n N ∣ i - steps := by
  classical
  rw [rootPeriod_eq hN]
  constructor
  · intro hmet
    have hexists : ∃ j, (nthStep n N)^[j] N = (n + 1).nthRoot N := ⟨i, hmet⟩
    have hfirst : FirstMeets n N (Nat.find hexists) :=
      ⟨Nat.find_spec hexists, fun _ hj => Nat.find_min' hexists hj⟩
    obtain ⟨hle, hdvd⟩ := (iterate_eq_iff_of_first hfirst i).mp hmet
    exact ⟨_, hle, hfirst, hdvd⟩
  · rintro ⟨steps, hle, hfirst, hdvd⟩
    exact (iterate_eq_iff_of_first hfirst i).mpr ⟨hle, hdvd⟩

end Iterate

end NewtonRoot
