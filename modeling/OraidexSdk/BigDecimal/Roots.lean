import OraidexSdk.BigDecimal.Exact
import OraidexSdk.Js.BigInt
import OraidexSdk.Loops.Outcome
import OraidexSdk.Newton.NthRoot

namespace OraidexSdk.BigDecimal
open Js Script Outcome NewtonRoot

def rootStep (k bigValue x : Int) : Except JsError Int := do
  let quotient ← bigIntQuotient bigValue (← bigIntPower x (k - 1))
  bigIntQuotient ((k - 1) * x + quotient) k

-- The loop of rootNth, which counts limit down to zero and not below.
def rootLoop (k bigValue : Int) : Nat → Int → Int → Except JsError Int
  | 0, _, x => .ok x
  | limit + 1, o, x => do
      if (← bigIntPower x k) ≠ k ∧ x ≠ o ∧ limit ≠ 0 then
        rootLoop k bigValue limit x (← rootStep k bigValue x)
      else return x

def rootNth (value : DecimalLike) (k : Int) : Script Ref := do
  let big ← new value none
  let b ← read big
  let bigValue := b.bigInt * 10 ^ b.decimals
  if bigValue < 0 then throw (.thrown "negative number is not supported")
  let x ← lift (rootLoop k bigValue 100 0 bigValue)
  write big { b with bigInt := x }
  return big

-- The static sqrt; the method calls rootNth with the object itself.
def sqrt (value : DecimalLike) : Script Ref := rootNth value 2

theorem pow_ne_exponent (x : Nat) {k : Nat} (hk : 2 ≤ k) : x ^ k ≠ k := by
  rcases Nat.lt_or_ge x 2 with hlt | hge
  · have hle := Nat.pow_le_pow_left (Nat.le_of_lt_succ hlt) k
    rw [one_pow] at hle
    omega
  · have hle := Nat.pow_le_pow_left hge k
    have hlt := Nat.lt_two_pow_self (n := k)
    omega

section Loop

variable {n N : Nat}

theorem rootStep_nat {x : Nat} (hx : 0 < x) :
    rootStep (n + 1 : ℕ) N x = .ok (nthStep n N x : ℕ) := by
  have hdegree : ((n + 1 : ℕ) : Int) - 1 = n := by
    push_cast
    ring
  have hpower : bigIntPower x n = .ok ((x ^ n : ℕ) : Int) := by
    rw [bigIntPower_nat]
    push_cast
    rfl
  have hsum : (n : Int) * x + (N / x ^ n : ℕ) = (n * x + N / x ^ n : ℕ) := by
    push_cast
    ring
  rw [rootStep, hdegree, hpower, ok_bind, bigIntQuotient_nat N (Nat.pow_pos hx), ok_bind, hsum]
  exact bigIntQuotient_nat _ n.succ_pos

theorem rootLoop_converge (hn : 0 < n) (hN : 0 < N) (limit : Nat) : ∀ {o x : Nat}, 0 < x →
    rootLoop (n + 1 : ℕ) N limit o x = .ok (converge (nthStep n N) limit o x : ℕ) := by
  induction limit with
  | zero => exact fun _ => rfl
  | succ limit ih =>
    intro o x hx
    have hpower : bigIntPower x (n + 1 : ℕ) = .ok ((x ^ (n + 1) : ℕ) : Int) := by
      rw [bigIntPower_nat]
      push_cast
      rfl
    have hne : ((x ^ (n + 1) : ℕ) : Int) ≠ (n + 1 : ℕ) :=
      Nat.cast_injective.ne (pow_ne_exponent x (Nat.succ_le_succ hn))
    rw [rootLoop, hpower, ok_bind, converge]
    by_cases hgo : x ≠ o ∧ limit ≠ 0
    · have hint : ((x ^ (n + 1) : ℕ) : Int) ≠ (n + 1 : ℕ) ∧ (x : Int) ≠ o ∧ limit ≠ 0 :=
        ⟨hne, Nat.cast_injective.ne hgo.1, hgo.2⟩
      rw [if_pos hint, if_pos hgo, rootStep_nat hx, ok_bind]
      exact ih (nthStep_pos hN hx.ne')
    · have hint : ¬ (((x ^ (n + 1) : ℕ) : Int) ≠ (n + 1 : ℕ) ∧ (x : Int) ≠ o ∧ limit ≠ 0) :=
        fun h => hgo ⟨fun he => h.2.1 (congrArg _ he), h.2.2⟩
      rw [if_neg hint, if_neg hgo]
      rfl

theorem rootLoop_iterate (hn : 0 < n) (hN : 0 < N) :
    rootLoop (n + 1 : ℕ) N 100 0 N = .ok ((nthStep n N)^[99] N : ℕ) := by
  have hloop := rootLoop_converge hn hN 100 (o := 0) hN
  rwa [converge_eq_iterate (nthStep n N) 99 hN.ne'] at hloop

theorem rootLoop_zero (n : Nat) : rootLoop (n + 1 : ℕ) (0 : ℕ) 100 0 (0 : ℕ) = .ok 0 := by
  rw [rootLoop, bigIntPower_nat, ok_bind, if_neg fun h => h.2.1 rfl]
  rfl

end Loop

section Run

variable {h : Heap} {v : Ref}

theorem run_rootNth {k : Int} {N x : Nat}
    (hN : (h.objects v).bigInt * 10 ^ (h.objects v).decimals = N)
    (hloop : rootLoop k N 100 0 N = .ok (x : Int)) :
    contents (rootNth (.object v) k) h = .ok ⟨x, (h.objects v).decimals⟩ := by
  have hnew : run (new (.object v) none) h = (.ok h.next, cloned h v) := rfl
  have hnonneg : ¬ ((N : Int) < 0) := Int.not_lt.mpr (Int.natCast_nonneg N)
  simp only [contents, rootNth, run_bind, hnew, run_read, cloned_new, hN, if_neg hnonneg,
    hloop, run_pure, run_lift_ok, run_write, Function.update_self]

end Run

section Sqrt

def FloorRoot (x r : BigDecimal) : Prop :=
  r.decimals = x.decimals ∧ r.bigInt ^ 2 ≤ x.bigInt * 10 ^ x.decimals ∧
    x.bigInt * 10 ^ x.decimals < (r.bigInt + 1) ^ 2

theorem floorRoot_iff {x : BigDecimal} {N : Nat} (hN : x.bigInt * 10 ^ x.decimals = N) (r : Nat) :
    FloorRoot x ⟨r, x.decimals⟩ ↔ r = N.sqrt := by
  rw [FloorRoot, hN, Nat.eq_sqrt', and_iff_right rfl]
  change (r : Int) ^ 2 ≤ N ∧ (N : Int) < (r + 1) ^ 2 ↔ _
  norm_cast

def RootReached (N : Nat) : Prop :=
  N = 0 ∨ ∃ steps ≤ 99, FirstReaches N steps ∧ (IsSquare (N + 1) → ¬ Even steps)

theorem iterate_reached_iff {N : Nat} (hN : 0 < N) :
    (step N)^[99] N = N.sqrt ↔ RootReached N := by
  obtain ⟨steps, -, hreaches⟩ := exists_firstReaches hN (n := N) Nat.lt_two_pow_self
  have hparity (hle : steps ≤ 99) : Even (99 - steps) ↔ ¬ Even steps := by
    rw [Nat.even_sub hle]
    simp [show ¬ Even 99 by decide]
  rw [iterate_eq_sqrt_iff hN hreaches, RootReached, or_iff_right hN.ne']
  constructor
  · rintro ⟨hle, hsettled⟩
    exact ⟨steps, hle, hreaches, fun hsquare => (hparity hle).mp (hsettled hsquare)⟩
  · rintro ⟨steps', hle, hreaches', hodd⟩
    obtain rfl := hreaches'.unique hreaches
    exact ⟨hle, fun hsquare => (hparity hle).mpr (hodd hsquare)⟩

end Sqrt

theorem sqrt_iff (h : Heap) (v : h.Object) (hv : 0 ≤ (h.objects v).bigInt) :
    (∃ r, contents (sqrt (.object v)) h = .ok r ∧ FloorRoot (h.objects v) r) ↔
      RootReached ((h.objects v).bigInt * 10 ^ (h.objects v).decimals).toNat := by
  obtain ⟨N, hN⟩ : ∃ N : Nat, (h.objects v).bigInt * 10 ^ (h.objects v).decimals = N :=
    Int.eq_ofNat_of_zero_le (by positivity)
  have hreturns {x : Nat} (hloop : rootLoop 2 N 100 0 N = .ok (x : Int)) :
      (∃ r, contents (sqrt (.object v)) h = .ok r ∧ FloorRoot (h.objects v) r) ↔ x = N.sqrt := by
    rw [sqrt, run_rootNth hN hloop, ← floorRoot_iff hN]
    constructor
    · rintro ⟨r, hr, hroot⟩
      obtain rfl := Except.ok.inj hr
      exact hroot
    · exact fun hroot => ⟨_, rfl, hroot⟩
  rw [hN, Int.toNat_natCast]
  rcases Nat.eq_zero_or_pos N with rfl | hpos
  · exact iff_of_true ((hreturns (rootLoop_zero 1)).mpr Nat.sqrt_zero.symm) (.inl rfl)
  · rw [hreturns (rootLoop_iterate Nat.one_pos hpos), nthStep_one, iterate_reached_iff hpos]

theorem rootReached_of_lt {N : Nat} (hN : N < 2 ^ 99) (hsquare : ¬ IsSquare (N + 1)) :
    RootReached N := by
  rcases Nat.eq_zero_or_pos N with rfl | hpos
  · exact .inl rfl
  · obtain ⟨steps, hle, hreaches⟩ := exists_firstReaches hpos hN
    exact .inr ⟨steps, hle, hreaches, fun h => absurd h hsquare⟩

theorem sqrt_two :
    let h : Heap := ⟨1, fun _ => ⟨2000000, 6⟩⟩
    ∃ r, contents (sqrt (.object 0)) h = .ok r ∧ FloorRoot (h.objects 0) r := by
  intro h
  refine (sqrt_iff h ⟨0, Nat.one_pos⟩ (by decide)).mpr (rootReached_of_lt (by decide) ?_)
  rintro ⟨t, ht⟩
  exact Nat.not_exists_sq (m := 1414213) (by decide) (by decide) ⟨t, ht.symm⟩

-- The loop goes from 0.999998 to 0.999999 and back, and ends above the root.
theorem sqrt_below_one_overshoots :
    let h : Heap := ⟨1, fun _ => ⟨999998, 6⟩⟩
    0 ≤ (h.objects 0).bigInt ∧
      ¬ ∃ r, contents (sqrt (.object 0)) h = .ok r ∧ FloorRoot (h.objects 0) r := by
  intro h
  refine ⟨by decide, ?_⟩
  rintro ⟨r, hr, -, hle, -⟩
  have hrun : contents (sqrt (.object 0)) h = .ok ⟨999999, 6⟩ := by decide +kernel
  obtain rfl := Except.ok.inj (hr.symm.trans hrun)
  exact absurd hle (by decide)

end OraidexSdk.BigDecimal
