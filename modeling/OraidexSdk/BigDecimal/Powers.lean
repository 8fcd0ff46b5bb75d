import OraidexSdk.BigDecimal.Exact
import OraidexSdk.Decimal.Truncation
import OraidexSdk.Js.BigInt
import OraidexSdk.Loops.Outcome

namespace OraidexSdk.BigDecimal
open Js ScaledInteger Script Outcome

def powKernel (power : Int) : Kernel := fun bigInt _ decimals => do
  let coeff : Int := 10 ^ decimals
  bigIntQuotient (← bigIntPower bigInt power) (← bigIntPower coeff (power - 1))

def ipow (this : Ref) (other : BigIntLike) : Script Ref := do
  let t ← read this
  let power ← lift other.toBigInt
  let n ← lift (powKernel power t.bigInt t.bigInt t.decimals)
  write this { t with bigInt := n }
  return this

def pow (this : Ref) (other : BigIntLike) : Script Ref := do ipow (← clone this) other

section Kernel

variable (a b : Int) (scale : Nat)

theorem powKernel_succ (n : Nat) :
    powKernel (n + 1 : ℕ) a b scale = .ok ((a ^ (n + 1)).tdiv ((10 ^ scale) ^ n)) := by
  have hpower : ((n + 1 : ℕ) : Int) - 1 = n := by omega
  have hne : ((10 : Int) ^ scale) ^ n ≠ 0 := pow_ne_zero _ (pow_ne_zero _ (by decide))
  rw [powKernel, hpower, bigIntPower_nat, bigIntPower_nat, ok_bind, ok_bind, bigIntQuotient,
    if_neg hne]

-- The divisor of a power with the exponent 0 is coeff ** -1n.
theorem powKernel_zero : powKernel 0 a b scale = .error .rangeError := by
  have hdivisor : bigIntPower (10 ^ scale) (0 - 1) = .error .rangeError :=
    bigIntPower_neg _ (by decide)
  rw [powKernel, hdivisor]
  rfl

end Kernel

section Run

variable {h : Heap} {x : Ref} {other : BigIntLike}

theorem run_ipow {power : Int} (hpower : other.toBigInt = .ok power) (g : Heap) (this : Ref) :
    run (ipow this other) g = run (overwrite (powKernel power) this this) g := by
  simp only [ipow, overwrite, run_bind, run_read, hpower, run_lift_ok]

theorem run_pow {power : Int} (hpower : other.toBigInt = .ok power) :
    ∃ h', run (pow x other) h =
        ((combine (powKernel power) (h.objects x) (h.objects x)).map fun _ => h.next, h') ∧
      h.next < h'.next ∧ (∀ r, r < h.next → h'.objects r = h.objects r) ∧
      ∀ v, combine (powKernel power) (h.objects x) (h.objects x) = .ok v →
        h'.objects h.next = v := by
  obtain ⟨h', hrun, hnext, hframe, hresult⟩ :=
    run_overwrite (powKernel power) (cloned h x) h.next h.next
  rw [cloned_new] at hrun hresult
  refine ⟨h', ?_, ?_, fun r hr => ?_, hresult⟩
  · rw [pow, run_bind, run_clone]
    exact (run_ipow hpower _ _).trans hrun
  · rw [hnext]
    exact Nat.lt_succ_self _
  · rw [hframe r (Nat.ne_of_lt hr), cloned_old hr]

end Run

def Powered (h : Heap) (x : Ref) (other : BigIntLike) (n : Nat) : Prop :=
  ∃ r h', run (pow x other) h = (.ok r, h') ∧
    (h'.objects r).decimals = (h.objects x).decimals ∧
    (h'.objects r).value = truncateTo 10 (h.objects x).decimals ((h.objects x).value ^ n) ∧
    ∀ o, o < h.next → h'.objects o = h.objects o

theorem pow_iff (h : Heap) (x : h.Object) {other : BigIntLike} {n : Nat}
    (hn : other.toBigInt = .ok (n : Int)) : Powered h x other n ↔ n ≠ 0 := by
  obtain ⟨h', hrun, -, hframe, hresult⟩ := run_pow (h := h) (x := x.val) hn
  constructor
  · rintro ⟨r, g, hok, -⟩ rfl
    have hzero : combine (powKernel (0 : ℕ)) (h.objects x) (h.objects x) = .error .rangeError := by
      rw [combine, Nat.cast_zero, powKernel_zero]
      rfl
    rw [hzero] at hrun
    cases hrun.symm.trans hok
  · intro hne
    obtain ⟨k, rfl⟩ := Nat.exists_eq_succ_of_ne_zero hne
    have hsucc : combine (powKernel (k + 1 : ℕ)) (h.objects x) (h.objects x) =
        .ok ⟨((h.objects x).bigInt ^ (k + 1)).tdiv ((10 ^ (h.objects x).decimals) ^ k),
          (h.objects x).decimals⟩ := by
      rw [combine, powKernel_succ]
      rfl
    have hvalue := hresult _ hsucc
    rw [hsucc] at hrun
    refine ⟨h.next, h', hrun, ?_, ?_, hframe⟩
    · rw [hvalue]
    · rw [hvalue]
      exact (truncateTo_scaled_pow (K := ℚ) 10 (h.objects x).bigInt (h.objects x).decimals k).symm

theorem cube_of_minus_one_and_a_half :
    let h : Heap := ⟨1, fun _ => ⟨-1500000, 6⟩⟩
    Powered h 0 (.bigint 3) 3 :=
  (pow_iff _ ⟨0, Nat.one_pos⟩ rfl).mpr (by decide)

theorem zeroth_power_throws :
    let h : Heap := ⟨1, fun _ => ⟨2000000, 6⟩⟩
    (run (pow 0 (.bigint 0)) h).1 = .error .rangeError ∧ ¬ Powered h 0 (.bigint 0) 0 := by
  intro h
  have hrun : (run (pow 0 (.bigint 0)) h).1 = .error .rangeError := by decide
  refine ⟨hrun, ?_⟩
  rintro ⟨r, g, hok, -⟩
  rw [hok] at hrun
  cases hrun

end OraidexSdk.BigDecimal
