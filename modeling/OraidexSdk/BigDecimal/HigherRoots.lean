import OraidexSdk.BigDecimal.Roots

namespace OraidexSdk.BigDecimal
open Js Script NewtonRoot Function

def RootDown (k : Nat) (x r : BigDecimal) : Prop :=
  r.decimals = x.decimals ∧ r.value ^ k ≤ x.value ∧
    x.value < (r.value + 1 / 10 ^ x.decimals) ^ k

section Radicand

variable {n d b : Nat}

theorem pow_scaled_le_iff (q : Nat) :
    ((q : ℚ) / 10 ^ d) ^ (n + 1) ≤ b / 10 ^ d ↔ q ^ (n + 1) ≤ b * 10 ^ (d * n) := by
  have hsplit : ((10 : ℚ) ^ d) ^ (n + 1) = 10 ^ (d * n) * 10 ^ d := by
    rw [← pow_mul, ← pow_add]
    rfl
  rw [div_pow, hsplit, div_le_div_iff₀ (by positivity) (by positivity), ← mul_assoc,
    mul_le_mul_iff_left₀ (by positivity)]
  norm_cast

theorem rootDown_iff {x : BigDecimal} (hb : x.bigInt = b) (r : Nat) :
    RootDown (n + 1) x ⟨r, x.decimals⟩ ↔ r = (n + 1).nthRoot (b * 10 ^ (x.decimals * n)) := by
  have hten : ((10 : ℕ) : ℚ) = 10 := rfl
  have hx : x.value = b / 10 ^ x.decimals := by
    rw [value, ScaledInteger.scaled, hb, hten, Int.cast_natCast]
  have hr : (⟨r, x.decimals⟩ : BigDecimal).value = (r : ℚ) / 10 ^ x.decimals := by
    rw [value, ScaledInteger.scaled, hten, Int.cast_natCast]
  have hnext : (r : ℚ) / 10 ^ x.decimals + 1 / 10 ^ x.decimals = (r + 1 : ℕ) / 10 ^ x.decimals := by
    push_cast
    ring
  rw [RootDown, and_iff_right rfl, hx, hr, hnext, pow_scaled_le_iff, ← not_le, pow_scaled_le_iff,
    not_le]
  constructor
  · exact fun h => (Nat.nthRoot_eq_of_le_of_lt h.1 h.2).symm
  · rintro rfl
    exact ⟨Nat.pow_nthRoot_le (.inl n.succ_ne_zero), Nat.lt_pow_nthRoot_add_one n.succ_ne_zero _⟩

theorem two_pow_le_ten_pow (hn : 2 ≤ n) : 2 ^ (n + 1) ≤ 10 ^ (n - 1) := by
  induction n, hn using Nat.le_induction with
  | base => decide
  | succ n hn ih =>
    obtain ⟨m, rfl⟩ := Nat.exists_eq_add_of_le' (Nat.one_le_of_lt hn)
    rw [Nat.add_sub_cancel] at ih ⊢
    calc
      2 ^ (m + 1 + 1 + 1) = 2 ^ (m + 1 + 1) * 2 := pow_succ _ _
      _ ≤ 10 ^ m * 10 := Nat.mul_le_mul ih (by decide)
      _ = 10 ^ (m + 1) := (pow_succ _ _).symm

-- The loop is steered to the root of bigInt * 10 ** decimals, which is too small from k = 3 on.
theorem two_mul_nthRoot_radicand_le (hn : 2 ≤ n) (hd : 0 < d) :
    2 * (n + 1).nthRoot (b * 10 ^ d) ≤ (n + 1).nthRoot (b * 10 ^ (d * n)) := by
  obtain ⟨m, rfl⟩ := Nat.exists_eq_add_of_le' (Nat.one_le_of_lt hn)
  have hscale : 10 ^ m ≤ 10 ^ (d * m) :=
    Nat.pow_le_pow_right (by decide) (Nat.le_mul_of_pos_left m hd)
  rw [Nat.le_nthRoot_iff (Nat.succ_ne_zero _), Nat.mul_pow]
  calc
    2 ^ (m + 1 + 1) * (m + 1 + 1).nthRoot (b * 10 ^ d) ^ (m + 1 + 1) ≤
        10 ^ (d * m) * (b * 10 ^ d) :=
      Nat.mul_le_mul ((two_pow_le_ten_pow hn).trans hscale)
        (Nat.pow_nthRoot_le (.inl (Nat.succ_ne_zero _)))
    _ = b * 10 ^ (d * (m + 1)) := by ring

end Radicand

-- The hundred passes end on the root: it is met in time, and has come back after the last one.
def LoopMeets (n N : Nat) : Prop := ∃ steps ≤ 99, FirstMeets n N steps ∧ rootPeriod n N ∣ 99 - steps

-- The loop comes to the root of its radicand in time and leaves it for its successor at most.
def LoopSettles (n N : Nat) : Prop := (∃ steps ≤ 99, FirstMeets n N steps) ∧ RootKept n N

-- The radicand of the loop is right at scale zero only.
def RootMet (k : Nat) (x : BigDecimal) : Prop :=
  x.bigInt = 0 ∨ (x.decimals = 0 ∧ LoopMeets (k - 1) x.bigInt.toNat)

section RootNth

variable {h : Heap} {v : Ref} {n b : Nat}

theorem rootNth_rootDown_iff (hb : (h.objects v).bigInt = b) {q : Nat}
    (hloop : rootLoop (n + 1 : ℕ) (b * 10 ^ (h.objects v).decimals : ℕ) 100 0
      (b * 10 ^ (h.objects v).decimals : ℕ) = .ok (q : Int)) :
    (∃ r, contents (rootNth (.object v) (n + 1 : ℕ)) h = .ok r ∧
        RootDown (n + 1) (h.objects v) r) ↔
      q = (n + 1).nthRoot (b * 10 ^ ((h.objects v).decimals * n)) := by
  have hradicand : (h.objects v).bigInt * 10 ^ (h.objects v).decimals =
      (b * 10 ^ (h.objects v).decimals : ℕ) := by
    rw [hb]
    push_cast
    rfl
  rw [run_rootNth hradicand hloop, ← rootDown_iff hb]
  constructor
  · rintro ⟨r, hr, hroot⟩
    obtain rfl := Except.ok.inj hr
    exact hroot
  · exact fun hroot => ⟨_, rfl, hroot⟩

theorem rootNth_iterate_iff (hn : 0 < n) (hb : (h.objects v).bigInt = b) (hpos : 0 < b) :
    (∃ r, contents (rootNth (.object v) (n + 1 : ℕ)) h = .ok r ∧
        RootDown (n + 1) (h.objects v) r) ↔
      (nthStep n (b * 10 ^ (h.objects v).decimals))^[99] (b * 10 ^ (h.objects v).decimals) =
        (n + 1).nthRoot (b * 10 ^ ((h.objects v).decimals * n)) :=
  rootNth_rootDown_iff hb (rootLoop_iterate hn (by positivity))

theorem rootNth_whole_iff (hn : 0 < n) (hb : (h.objects v).bigInt = b) (hpos : 0 < b)
    (hd : (h.objects v).decimals = 0) :
    (∃ r, contents (rootNth (.object v) (n + 1 : ℕ)) h = .ok r ∧
        RootDown (n + 1) (h.objects v) r) ↔ LoopMeets n b := by
  rw [rootNth_iterate_iff hn hb hpos, hd, Nat.zero_mul, Nat.pow_zero, Nat.mul_one]
  exact iterate_eq_nthRoot_iff hpos 99

theorem rootNth_of_settled (hn : 2 ≤ n) (hb : (h.objects v).bigInt = b) (hpos : 0 < b)
    (hd : 0 < (h.objects v).decimals) (hsettles : LoopSettles n (b * 10 ^ (h.objects v).decimals)) :
    ¬ ∃ r, contents (rootNth (.object v) (n + 1 : ℕ)) h = .ok r ∧
      RootDown (n + 1) (h.objects v) r := by
  obtain ⟨⟨steps, hle, hmet, -⟩, hkept⟩ := hsettles
  have hN : 0 < b * 10 ^ (h.objects v).decimals := by positivity
  obtain ⟨i, hi⟩ := Nat.exists_eq_add_of_le' hle
  have hdouble := two_mul_nthRoot_radicand_le (b := b) hn hd
  have hroot := nthRoot_pos n hN
  rw [rootNth_iterate_iff (by omega) hb hpos, hi, iterate_add_apply, hmet]
  rcases iterate_nthRoot_of_kept hN hkept i with hstays | ⟨hsucc, hlarge⟩
  · rw [hstays]
    omega
  · rw [hsucc]
    omega

end RootNth

theorem rootNth_iff (h : Heap) (v : h.Object) (hv : 0 ≤ (h.objects v).bigInt) {k : Nat}
    (hk : 3 ≤ k) :
    let x := h.objects v
    let holds := ∃ r, contents (rootNth (.object v) k) h = .ok r ∧ RootDown k x r
    (RootMet k x → holds) ∧
      (x.decimals = 0 ∨ LoopSettles (k - 1) (x.bigInt.toNat * 10 ^ x.decimals) →
        holds → RootMet k x) := by
  intro x holds
  obtain ⟨b, hb⟩ := Int.eq_ofNat_of_zero_le hv
  obtain ⟨n, rfl⟩ := Nat.exists_eq_add_of_le' (Nat.one_le_of_lt hk)
  rw [RootMet, hb, Int.toNat_natCast, Nat.add_sub_cancel]
  rcases Nat.eq_zero_or_pos b with rfl | hpos
  · have hloop := rootLoop_zero n
    rw [← Nat.zero_mul (10 ^ (h.objects v).decimals)] at hloop
    refine ⟨fun _ => ?_, fun _ _ => .inl rfl⟩
    rw [show holds ↔ _ from rootNth_rootDown_iff hb hloop, Nat.zero_mul,
      Nat.nthRoot_zero_right n.succ_ne_zero]
  · have hwhole := rootNth_whole_iff (h := h) (v := v) (n := n) (by omega) hb hpos
    have hne : (b : Int) ≠ 0 := Int.natCast_ne_zero.mpr hpos.ne'
    rw [or_iff_right hne]
    refine ⟨fun ⟨hd, hmeets⟩ => (hwhole hd).mpr hmeets, fun hcase hholds => ?_⟩
    rcases Nat.eq_zero_or_pos x.decimals with hd | hd
    · exact ⟨hd, (hwhole hd).mp hholds⟩
    · have hsettles := hcase.resolve_left hd.ne'
      exact absurd hholds (rootNth_of_settled (by omega) hb hpos hd hsettles)

theorem loopMeets_of_lt {n N : Nat} (hN : 0 < N) (hlong : N * n ^ 99 < (n + 1) ^ 99)
    (hkept : N < (n + 1).nthRoot N ^ n * ((n + 1).nthRoot N + (n + 1))) : LoopMeets n N := by
  obtain ⟨steps, hle, hfirst⟩ := exists_firstMeets hN hlong
  refine ⟨steps, hle, hfirst, ?_⟩
  rw [rootPeriod, if_pos hkept]
  exact one_dvd _

theorem nthRoot_eight : Nat.nthRoot (2 + 1) 8 = 2 := Nat.nthRoot_eq_of_le_of_lt (by decide) (by decide)

theorem rootNth_eight :
    let h : Heap := ⟨1, fun _ => ⟨8, 0⟩⟩
    ∃ r, contents (rootNth (.object 0) 3) h = .ok r ∧ RootDown 3 (h.objects 0) r := by
  intro h
  refine (rootNth_iff h ⟨0, Nat.one_pos⟩ (by decide) (k := 3) le_rfl).1 (.inr ⟨rfl, ?_⟩)
  exact loopMeets_of_lt (n := 2) (N := 8) (by decide) (by decide) (by rw [nthRoot_eight]; decide)

-- The cube root of 8.000000 comes out as 0.020000.
theorem rootNth_eight_scaled :
    let h : Heap := ⟨1, fun _ => ⟨8000000, 6⟩⟩
    0 ≤ (h.objects 0).bigInt ∧
      ¬ ∃ r, contents (rootNth (.object 0) 3) h = .ok r ∧ RootDown 3 (h.objects 0) r := by
  intro h
  obtain ⟨steps, hle, hfirst⟩ := exists_firstMeets (n := 2) (N := 8000000 * 10 ^ 6) (i := 99)
    (by decide) (by decide)
  have hroot : Nat.nthRoot (2 + 1) (8000000 * 10 ^ 6) = 20000 :=
    Nat.nthRoot_eq_of_le_of_lt (by decide) (by decide)
  have hlarge : 2 < Nat.nthRoot (2 + 1) (8000000 * 10 ^ 6) := by
    rw [hroot]
    decide
  exact ⟨by decide, rootNth_of_settled le_rfl (b := 8000000) rfl (by decide) (by decide)
    ⟨⟨steps, hle, hfirst⟩, .inr hlarge⟩⟩

end OraidexSdk.BigDecimal
