import OraidexSdk.BigDecimal.Roots
import OraidexSdk.Loops.Logged

namespace OraidexSdk.BigDecimal
open Js Script Outcome NewtonRoot

-- The loop of rootNth with the value that each pass puts into x.
def trace (k bigValue : Int) : Nat → Int → Int → Logged Int JsError Int
  | 0, _, x => pure x
  | limit + 1, o, x => do
      if (← Logged.lift (bigIntPower x k)) ≠ k ∧ x ≠ o ∧ limit ≠ 0 then
        let next ← Logged.lift (rootStep k bigValue x)
        Logged.record next
        trace k bigValue limit x next
      else pure x

structure Above (k : Nat) (N x : Int) : Prop where
  one_le : 1 ≤ x
  lt_pow : N < (x + 1) ^ k

structure SafeRoot (k : Nat) (N : Int) (run : Logged Int JsError Int) (result : Int) : Prop where
  returns : run.outcome = .ok result
  iterates : run.Always (Above k N)
  above : Above k N result

section Loop

variable {n N : Nat}

theorem above_natCast {x : Nat} :
    Above (n + 1) N x ↔ 0 < x ∧ (n + 1).nthRoot N ≤ x := by
  have hpow : (N : Int) < ((x : Int) + 1) ^ (n + 1) ↔ (n + 1).nthRoot N ≤ x := by
    rw [← Nat.lt_succ_iff, Nat.nthRoot_lt_iff n.succ_ne_zero]
    norm_cast
  constructor
  · intro h
    exact ⟨Int.natCast_pos.mp h.one_le, hpow.mp h.lt_pow⟩
  · rintro ⟨hpos, hle⟩
    exact ⟨Int.natCast_pos.mpr hpos, hpow.mpr hle⟩

theorem Above.exists_nat {x : Int} (h : Above (n + 1) N x) :
    ∃ m : Nat, x = m ∧ 0 < m ∧ (n + 1).nthRoot N ≤ m := by
  obtain ⟨m, rfl⟩ := Int.eq_ofNat_of_zero_le (Int.le_of_lt h.one_le)
  exact ⟨m, rfl, above_natCast.mp h⟩

theorem above_start (hN : 0 < N) : Above (n + 1) N N :=
  above_natCast.mpr ⟨hN, nthRoot_le_iterate hN 0⟩

-- The inequality of the weighted means, through both floors of the step.
theorem Above.rootStep {x : Int} (hN : 0 < N) (h : Above (n + 1) N x) :
    ∃ next, BigDecimal.rootStep (n + 1 : ℕ) N x = .ok next ∧ Above (n + 1) N next := by
  obtain ⟨m, rfl, hpos, -⟩ := h.exists_nat
  refine ⟨_, rootStep_nat hpos, above_natCast.mpr ⟨?_, ?_⟩⟩
  · exact nthStep_pos hN hpos.ne'
  · exact nthRoot_le_nthStep hpos.ne'

theorem trace_outcome (k bigValue : Int) (limit : Nat) (o x : Int) :
    (trace k bigValue limit o x).outcome = rootLoop k bigValue limit o x := by
  induction limit generalizing o x with
  | zero => rfl
  | succ limit ih =>
    rw [trace, rootLoop, Logged.outcome_lift_bind]
    congr 1
    funext power
    split
    · rw [Logged.outcome_lift_bind]
      congr 1
      funext next
      rw [Logged.outcome_record_bind, ih]
    · rfl

theorem trace_length (k bigValue : Int) (limit : Nat) (o x : Int) :
    (trace k bigValue limit o x).log.length ≤ limit - 1 := by
  induction limit generalizing o x with
  | zero => exact Nat.le_refl 0
  | succ limit ih =>
    rw [trace]
    cases bigIntPower x k with
    | error e => simp [Logged.log_lift_error_bind]
    | ok power =>
      rw [Logged.lift_ok_bind]
      split
      · rename_i hgo
        cases BigDecimal.rootStep k bigValue x with
        | error e => simp [Logged.log_lift_error_bind]
        | ok next =>
          rw [Logged.lift_ok_bind, Logged.log_record_bind, List.length_cons]
          have hrest := ih x next
          have hlimit := hgo.2.2
          omega
      · simp

theorem trace_safe (hN : 0 < N) (limit : Nat) {o x : Int} (hx : Above (n + 1) N x) :
    ∃ result, SafeRoot (n + 1) N (trace (n + 1 : ℕ) N limit o x) result := by
  induction limit generalizing o x with
  | zero => exact ⟨x, rfl, Logged.always_pure x, hx⟩
  | succ limit ih =>
    rw [trace, bigIntPower_nat, Logged.lift_ok_bind]
    split
    · obtain ⟨next, hstep, hnext⟩ := hx.rootStep hN
      obtain ⟨result, hrest⟩ := ih (o := x) hnext
      rw [hstep, Logged.lift_ok_bind]
      refine ⟨result, ?_, Logged.always_record_bind.mpr ⟨hnext, hrest.iterates⟩, hrest.above⟩
      rw [Logged.outcome_record_bind]
      exact hrest.returns
    · exact ⟨x, rfl, Logged.always_pure x, hx⟩

end Loop

section Result

variable {h : Heap} {value : DecimalLike} {x : BigDecimal} {k : Nat} {N result : Int}

theorem contents_rootNth (hx : construct h none value = .ok x)
    (hN : 0 ≤ x.bigInt * 10 ^ x.decimals)
    (hloop : rootLoop k (x.bigInt * 10 ^ x.decimals) 100 0 (x.bigInt * 10 ^ x.decimals) =
      .ok result) :
    contents (rootNth value k) h = .ok ⟨result, x.decimals⟩ := by
  simp only [contents, rootNth, run_bind, run_new hx, run_read, Function.update_self,
    if_neg (Int.not_lt.mpr hN), hloop, run_pure, run_lift_ok, run_write]

theorem Above.floor_le (h : Above k N result) {q : Int} (hq : q ^ k ≤ N) : q ≤ result := by
  by_contra hlarger
  have hnext : result + 1 ≤ q := Int.lt_of_not_ge hlarger
  have hpow : (result + 1) ^ k ≤ q ^ k :=
    pow_le_pow_left₀ (Int.le_of_lt (Int.lt_add_one_of_le (Int.le_of_lt h.one_le))) hnext k
  exact absurd (h.lt_pow.trans_le (hpow.trans hq)) (lt_irrefl N)

end Result

theorem rootNth_safe {h : Heap} {value : DecimalLike} {x : BigDecimal} {k : Nat}
    (hx : construct h none value = .ok x) (hk : 2 ≤ k) (hN : 1 ≤ x.bigInt * 10 ^ x.decimals) :
    let N := x.bigInt * 10 ^ x.decimals
    Above k N N ∧ (trace k N 100 0 N).log.length ≤ 99 ∧
      ∃ result, SafeRoot k N (trace k N 100 0 N) result ∧
        contents (rootNth value k) h = .ok ⟨result, x.decimals⟩ ∧
        ∀ q : Int, q ^ k ≤ N → q ≤ result := by
  intro N
  obtain ⟨n, rfl⟩ := Nat.exists_eq_add_of_le' (Nat.one_le_of_lt hk)
  obtain ⟨m, hm⟩ := Int.eq_ofNat_of_zero_le (Int.le_of_lt hN)
  have hpos : 0 < m := by
    rw [hm] at hN
    exact Int.natCast_pos.mp hN
  have hstart : Above (n + 1) N N := by
    simp only [N, hm]
    exact above_start hpos
  obtain ⟨result, hsafe⟩ := trace_safe (n := n) hpos 100 (o := 0) (above_start hpos)
  rw [← hm] at hsafe
  refine ⟨hstart, trace_length _ _ _ _ _, result, hsafe, ?_, fun q hq => hsafe.above.floor_le hq⟩
  exact contents_rootNth hx (Int.le_of_lt hN) ((trace_outcome _ _ _ _ _).symm.trans hsafe.returns)

theorem rootNth_two_safe :
    ∃ result, SafeRoot 2 2000000000000 (trace 2 2000000000000 100 0 2000000000000) result ∧
      contents (rootNth (.bigint 2) 2) ⟨0, fun _ => ⟨0, 0⟩⟩ = .ok ⟨result, 6⟩ := by
  have hx : construct ⟨0, fun _ => ⟨0, 0⟩⟩ none (.bigint 2) = .ok ⟨2000000, 6⟩ := rfl
  obtain ⟨-, -, result, hsafe, hrun, -⟩ := rootNth_safe hx le_rfl (by norm_num)
  exact ⟨result, hsafe, hrun⟩

end OraidexSdk.BigDecimal
