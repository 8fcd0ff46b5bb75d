import OraidexSdk.Js.Number
import Mathlib.Data.Rat.Floor

namespace Js

namespace Number

def mul : Number ℚ → Number ℚ → Number ℚ
  | .finite x, .finite y => .finite (x * y)
  | .infinity a, .infinity b => .infinity (a != b)
  | .infinity a, .finite y => if y = 0 then .nan else .infinity (a != decide (y < 0))
  | .finite x, .infinity b => if x = 0 then .nan else .infinity (b != decide (x < 0))
  | _, _ => .nan

def add : Number ℚ → Number ℚ → Number ℚ
  | .finite x, .finite y => .finite (x + y)
  | .infinity a, .infinity b => if a = b then .infinity a else .nan
  | .infinity a, .finite _ => .infinity a
  | .finite _, .infinity b => .infinity b
  | _, _ => .nan

def neg : Number ℚ → Number ℚ
  | .finite x => .finite (-x)
  | .infinity a => .infinity !a
  | .nan => .nan

def div : Number ℚ → Number ℚ → Number ℚ
  | .finite x, .finite y =>
    if y ≠ 0 then .finite (x / y) else if x = 0 then .nan else .infinity (decide (x < 0))
  | .infinity a, .finite y => .infinity (a != decide (y < 0))
  | .finite _, .infinity _ => .finite 0
  | _, _ => .nan

def round : Number ℚ → Number ℚ
  | .finite x => .finite ⌊x + 1 / 2⌋
  | x => x

def floor : Number ℚ → Number ℚ
  | .finite x => .finite ⌊x⌋
  | x => x

-- NaN is not at least anything.
def ge : Number ℚ → Number ℚ → Bool
  | .finite x, .finite y => y ≤ x
  | .infinity false, .infinity _ => true
  | .infinity false, .finite _ => true
  | .infinity true, .infinity true => true
  | .finite _, .infinity true => true
  | _, _ => false

-- a === b
def same (x y : Number ℚ) : Bool := x.ge y && y.ge x

def gt (x y : Number ℚ) : Bool := x.ge y && ! y.ge x

def max (x y : Number ℚ) : Number ℚ :=
  if x = .nan ∨ y = .nan then .nan else if x.ge y then x else y

def min (x y : Number ℚ) : Number ℚ :=
  if x = .nan ∨ y = .nan then .nan else if x.ge y then y else x

section Finite

variable {x y : ℚ}

@[simp] theorem mul_finite : (finite x).mul (finite y) = finite (x * y) := rfl

@[simp] theorem add_finite : (finite x).add (finite y) = finite (x + y) := rfl

theorem div_finite (hy : y ≠ 0) : (finite x).div (finite y) = finite (x / y) := if_pos hy

@[simp] theorem round_finite : (finite x).round = finite (⌊x + 1 / 2⌋ : ℚ) := rfl

@[simp] theorem floor_finite : (finite x).floor = finite (⌊x⌋ : ℚ) := rfl

@[simp] theorem ge_finite : (finite x).ge (finite y) = decide (y ≤ x) := rfl

@[simp] theorem same_finite : (finite x).same (finite y) = decide (x = y) := by
  rw [same, ge_finite, ge_finite, Bool.eq_iff_iff, Bool.and_eq_true_iff, decide_eq_true_eq,
    decide_eq_true_eq, decide_eq_true_eq, eq_comm, le_antisymm_iff]

@[simp] theorem gt_finite : (finite x).gt (finite y) = decide (y < x) := by
  rw [Bool.eq_iff_iff]
  simpa [gt] using le_of_lt

end Finite

section Nan

variable (x : Number ℚ)

@[simp] theorem nan_mul : (nan : Number ℚ).mul x = nan := by cases x <;> rfl

@[simp] theorem nan_div : (nan : Number ℚ).div x = nan := by cases x <;> rfl

@[simp] theorem div_nan : x.div nan = nan := by cases x <;> rfl

@[simp] theorem mul_nan : x.mul nan = nan := by cases x <;> rfl

@[simp] theorem round_nan : (nan : Number ℚ).round = nan := rfl

@[simp] theorem nan_ge : (nan : Number ℚ).ge x = false := by cases x <;> rfl

@[simp] theorem ge_nan : x.ge nan = false := by
  cases x with
  | infinity negative => cases negative <;> rfl
  | _ => rfl

@[simp] theorem nan_same : (nan : Number ℚ).same x = false := by simp [same]

@[simp] theorem nan_gt : (nan : Number ℚ).gt x = false := by simp [gt]

@[simp] theorem gt_nan : x.gt nan = false := by simp [gt]

@[simp] theorem same_nan : x.same nan = false := by simp [same]

end Nan

section Order

variable {x y z : Number ℚ}

theorem left_ne_nan (h : x.ge y = true) : x ≠ nan := by
  rintro rfl
  simp at h

theorem right_ne_nan (h : x.ge y = true) : y ≠ nan := by
  rintro rfl
  simp at h

theorem ge_trans (hxy : x.ge y = true) (hyz : y.ge z = true) : x.ge z = true := by
  rcases x with _ | (_ | _) | x <;> rcases y with _ | (_ | _) | y <;>
    rcases z with _ | (_ | _) | z <;> simp_all [ge]
  exact hyz.trans hxy

theorem ge_total (hx : x ≠ nan) (hy : y ≠ nan) : x.ge y = true ∨ y.ge x = true := by
  rcases x with _ | (_ | _) | x <;> rcases y with _ | (_ | _) | y <;> simp_all [ge]
  exact le_total y x

theorem max_eq (hx : x ≠ nan) (hy : y ≠ nan) : x.max y = if x.ge y then x else y :=
  if_neg (not_or.mpr ⟨hx, hy⟩)

theorem min_eq (hx : x ≠ nan) (hy : y ≠ nan) : x.min y = if x.ge y then y else x :=
  if_neg (not_or.mpr ⟨hx, hy⟩)

theorem max_ge_left (hx : x.ge z = true) (hy : y ≠ nan) : (x.max y).ge z = true := by
  rw [max_eq (left_ne_nan hx) hy]
  split
  · exact hx
  · rename_i hlarger
    exact ge_trans ((ge_total (left_ne_nan hx) hy).resolve_left hlarger) hx

theorem max_ge_right (hx : x ≠ nan) (hy : y.ge z = true) : (x.max y).ge z = true := by
  rw [max_eq hx (left_ne_nan hy)]
  split
  · rename_i hlarger
    exact ge_trans hlarger hy
  · exact hy

theorem ge_min_left (hx : z.ge x = true) (hy : y ≠ nan) : z.ge (x.min y) = true := by
  rw [min_eq (right_ne_nan hx) hy]
  split
  · rename_i hlarger
    exact ge_trans hx hlarger
  · exact hx

theorem ge_min_right (hx : x ≠ nan) (hy : z.ge y = true) : z.ge (x.min y) = true := by
  rw [min_eq hx (right_ne_nan hy)]
  split
  · exact hy
  · rename_i hlarger
    exact ge_trans hy ((ge_total hx (right_ne_nan hy)).resolve_left hlarger)

end Order

end Number

end Js
