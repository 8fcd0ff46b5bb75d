import OraidexSdk.Ordered.Grid
import OraidexSdk.Ordered.Keyed
import Mathlib.Data.List.Chain

namespace Ladder
open Keyed

section Definitions

variable {α K : Type} [Field K] [LinearOrder K] [FloorRing K]
variable (key : α → K) (below : α → Nat → α) (step : K)

def rungs (next : α) (n : Nat) : List α := (List.range n).reverse.map fun i => below next (i + 1)

def between (previous : K) (next : α) : List α :=
  rungs below next (⌊(key next - previous) / step⌋ - 1).toNat

def climb (previous : K) : List α → List α
  | [] => []
  | next :: rest => between key below step previous next ++ next :: climb (key next) rest

structure Rises (kept : α → Prop) (x y : α) : Prop where
  lt : key x < key y
  lt_two : key y - key x < 2 * step
  inserted : kept x ∨ key y = key x + step

end Definitions

section Steps

variable {K : Type} [Field K] [LinearOrder K] [IsStrictOrderedRing K] [FloorRing K]
variable {a b step : K} (hstep : 0 < step)
include hstep

theorem lowest_rung (h : a < b) :
    a < b - (⌊(b - a) / step⌋ - 1).toNat * step ∧
      b - (⌊(b - a) / step⌋ - 1).toNat * step - a < 2 * step := by
  have hlower : ⌊(b - a) / step⌋ * step ≤ b - a :=
    (le_div_iff₀ hstep).mp (Int.floor_le ((b - a) / step))
  have hupper : b - a < (⌊(b - a) / step⌋ + 1) * step :=
    (div_lt_iff₀ hstep).mp (Int.lt_floor_add_one ((b - a) / step))
  generalize ⌊(b - a) / step⌋ = n at *
  rcases le_or_gt n 1 with hfew | hmany
  · have hnone : (n - 1).toNat = 0 := by omega
    have hcast : (n : K) ≤ 1 := by exact_mod_cast hfew
    have hwidth : (n + 1) * step ≤ 2 * step :=
      mul_le_mul_of_nonneg_right (by linarith) hstep.le
    rw [hnone, Nat.cast_zero, zero_mul, sub_zero]
    exact ⟨h, hupper.trans_le hwidth⟩
  · have hcast : ((n - 1).toNat : K) = n - 1 := by
      have hint : (((n - 1).toNat : ℤ) : K) = ((n - 1 : ℤ) : K) := by
        rw [Int.toNat_of_nonneg (by omega)]
      exact_mod_cast hint
    rw [hcast]
    constructor <;> linarith

theorem lowest_rung_aligned (ha : Grid.Aligned step a) (hb : Grid.Aligned step b) (h : a < b) :
    b - (⌊(b - a) / step⌋ - 1).toNat * step = a + step := by
  obtain ⟨j, rfl⟩ := ha
  obtain ⟨k, rfl⟩ := hb
  have hlt : j < k := Int.cast_lt.mp (lt_of_mul_lt_mul_right h hstep.le)
  have hquotient : (k * step - j * step) / step = ((k - j : ℤ) : K) := by
    rw [← sub_mul, mul_div_cancel_right₀ _ hstep.ne', Int.cast_sub]
  have hcast : ((k - j - 1).toNat : K) = k - j - 1 := by
    have hint : (((k - j - 1).toNat : ℤ) : K) = ((k - j - 1 : ℤ) : K) := by
      rw [Int.toNat_of_nonneg (by omega)]
    exact_mod_cast hint
  rw [hquotient, Int.floor_intCast, hcast]
  ring

theorem no_rung (h : b - a < 2 * step) : (⌊(b - a) / step⌋ - 1).toNat = 0 := by
  have hfloor : ⌊(b - a) / step⌋ < 2 := by
    rw [Int.floor_lt, div_lt_iff₀ hstep]
    exact_mod_cast h
  omega

end Steps

section Rungs

variable {α K : Type} {below : α → Nat → α}

@[simp] theorem rungs_zero (below : α → Nat → α) (next : α) : rungs below next 0 = [] := rfl

@[simp] theorem rungs_succ (below : α → Nat → α) (next : α) (n : Nat) :
    rungs below next (n + 1) = below next (n + 1) :: rungs below next n := by
  simp [rungs, List.range_succ]

variable [Field K] {key : α → K} {step : K}
variable (hbelow : ∀ a (n : Nat), key (below a n) = key a - n * step)
include hbelow

theorem key_head_rungs (next : α) (n : Nat) (rest : List α) :
    ∀ y ∈ (rungs below next n ++ next :: rest).head?, key y = key next - n * step := by
  cases n with
  | zero => simp
  | succ n => simp [hbelow]

theorem chain_rungs {R : α → α → Prop} {next : α} {rest : List α}
    (hR : ∀ (n : Nat) y, key y = key next - n * step → R (below next (n + 1)) y)
    (hrest : (next :: rest).IsChain R) (n : Nat) :
    (rungs below next n ++ next :: rest).IsChain R := by
  induction n with
  | zero => simpa using hrest
  | succ n ih =>
    rw [rungs_succ, List.cons_append, List.isChain_cons]
    exact ⟨fun y hy => hR n y (key_head_rungs hbelow next n rest y hy), ih⟩

end Rungs

section Climb

variable {α K : Type} [Field K] [LinearOrder K] [FloorRing K]
variable {key : α → K} {below : α → Nat → α} {step : K}

@[simp] theorem climb_nil (previous : K) : climb key below step previous [] = [] := rfl

@[simp] theorem climb_cons (previous : K) (next : α) (rest : List α) :
    climb key below step previous (next :: rest) =
      between key below step previous next ++ next :: climb key below step (key next) rest := rfl

theorem sublist_climb (xs : List α) (previous : K) :
    xs.Sublist (climb key below step previous xs) := by
  induction xs generalizing previous with
  | nil => simp
  | cons next rest ih =>
    rw [climb_cons]
    exact (List.Sublist.cons_cons next (ih _)).trans (List.sublist_append_right _ _)

theorem getLast_climb (xs : List α) (previous : K) :
    (climb key below step previous xs).getLast? = xs.getLast? := by
  induction xs generalizing previous with
  | nil => simp
  | cons next rest ih => simp [List.getLast?_cons, ih]

theorem chain_climb {R : α → α → Prop} {xs : List α} {first : α}
    (hbelow : ∀ a (n : Nat), key (below a n) = key a - n * step)
    (hR : ∀ next (n : Nat) y, key y = key next - n * step → R (below next (n + 1)) y)
    (hfirst : (first :: xs).IsChain fun a b => ∀ y,
      key y = key b - (⌊(key b - key a) / step⌋ - 1).toNat * step → R a y) :
    (first :: climb key below step (key first) xs).IsChain R := by
  induction xs generalizing first with
  | nil => simp
  | cons next rest ih =>
    rw [List.isChain_cons_cons] at hfirst
    rw [climb_cons, List.isChain_cons]
    refine ⟨fun y hy => hfirst.1 y (key_head_rungs hbelow next _ _ y hy), ?_⟩
    exact chain_rungs hbelow (hR next) (ih hfirst.2) _

end Climb

section Order

variable {α K : Type} [Field K] [LinearOrder K] [IsStrictOrderedRing K] [FloorRing K]
variable {key : α → K} {below : α → Nat → α} {step : K} {first : α} {xs : List α}

theorem climb_eq_self (hstep : 0 < step)
    (h : (first :: xs).IsChain fun a b => key b - key a < 2 * step) :
    climb key below step (key first) xs = xs := by
  induction xs generalizing first with
  | nil => simp
  | cons next rest ih =>
    rw [List.isChain_cons_cons] at h
    rw [climb_cons, ih h.2, between, no_rung hstep h.1, rungs_zero, List.nil_append]

variable (hbelow : ∀ a (n : Nat), key (below a n) = key a - n * step) (hstep : 0 < step)
include hbelow hstep

theorem rises_climb {kept : α → Prop} (hfirst : kept first) (hkept : ∀ x ∈ xs, kept x)
    (hascending : Ascending key (first :: xs)) :
    (first :: climb key below step (key first) xs).IsChain (Rises key step kept) := by
  refine chain_climb hbelow (fun next n y hy => ?_) ?_
  · have hkey : key y = key (below next (n + 1)) + step := by
      rw [hy, hbelow]
      push_cast
      ring
    exact ⟨by linarith, by linarith, .inr hkey⟩
  · have hall : ∀ x ∈ first :: xs, kept x := List.forall_mem_cons.mpr ⟨hfirst, hkept⟩
    refine hascending.isChain.imp_of_mem_imp fun a b ha _ hab y hy => ?_
    have hlowest := lowest_rung hstep hab
    rw [← hy] at hlowest
    exact ⟨hlowest.1, hlowest.2, .inl (hall a ha)⟩

theorem even_climb (hascending : Ascending key (first :: xs))
    (haligned : ∀ x ∈ first :: xs, Grid.Aligned step (key x)) :
    (first :: climb key below step (key first) xs).IsChain fun a b => key b = key a + step := by
  refine chain_climb hbelow (fun next n y hy => ?_) ?_
  · rw [hy, hbelow]
    push_cast
    ring
  · refine hascending.isChain.imp_of_mem_imp fun a b ha hb hab y hy => ?_
    rw [hy, lowest_rung_aligned hstep (haligned a ha) (haligned b hb) hab]

end Order

end Ladder
