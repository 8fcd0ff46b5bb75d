import OraidexSdk.Loops.Outcome
import Mathlib.Data.List.Basic

namespace Js
open Outcome

-- An array whose missing elements are holes.
abbrev SparseArray (α : Type) := List (Option α)

namespace SparseArray

variable {ε α β : Type}

-- A hole and an index past the end both read as undefined.
def get (xs : SparseArray α) (i : Nat) : Option α := xs[i]?.join

def assign (xs : SparseArray α) (i : Nat) (v : α) : SparseArray α :=
  if i < xs.length then xs.set i (some v)
  else xs ++ List.replicate (i - xs.length) none ++ [some v]

-- Array.prototype.map calls nothing on a hole and keeps it.
def mapElement (f : α → Nat → Except ε β) (x : Option α × Nat) : Except ε (Option β) :=
  match x.1 with
  | none => .ok none
  | some element => some <$> f element x.2

def mapM (f : α → Nat → Except ε β) (xs : SparseArray α) : Except ε (SparseArray β) :=
  xs.zipIdx.mapM (mapElement f)

theorem get_nil (i : Nat) : get ([] : SparseArray α) i = none := rfl

theorem get_assign (xs : SparseArray α) (i : Nat) (v : α) (j : Nat) :
    get (assign xs i v) j = if j = i then some v else get xs j := by
  unfold get assign
  split
  · rename_i h
    by_cases hj : j = i
    · subst hj
      simp [h]
    · rw [List.getElem?_set_ne (Ne.symm hj), if_neg hj]
  · rename_i h
    rcases Nat.lt_trichotomy j i with hlt | rfl | hgt
    · rw [if_neg (by omega), List.append_assoc]
      by_cases hj : j < xs.length
      · rw [List.getElem?_append_left hj]
      · rw [List.getElem?_append_right (by omega), List.getElem?_eq_none (Nat.le_of_not_lt hj),
          List.getElem?_append_left (by rw [List.length_replicate]; omega),
          List.getElem?_replicate_of_lt (by omega)]
        rfl
    · have hlength : (xs ++ List.replicate (j - xs.length) none).length = j := by simp; omega
      rw [if_pos rfl, List.getElem?_append_right (by omega), hlength, Nat.sub_self]
      rfl
    · have hend : (xs ++ List.replicate (i - xs.length) none ++ [some v]).length = i + 1 := by
        simp
        omega
      rw [if_neg (by omega), List.getElem?_eq_none (by omega), List.getElem?_eq_none (by omega)]

theorem length_assign (xs : SparseArray α) (i : Nat) (v : α) :
    (assign xs i v).length = max xs.length (i + 1) := by
  unfold assign
  split
  · rw [List.length_set]
    omega
  · simp
    omega

theorem mapM_from {f : α → Nat → Except ε β} {g : α → Nat → β} {xs : SparseArray α} :
    ∀ {k : Nat}, (∀ i element, get xs i = some element → f element (k + i) = .ok (g element (k + i))) →
      (xs.zipIdx k).mapM (mapElement f) =
        .ok (xs.mapIdx fun i => Option.map (g · (k + i))) := by
  induction xs with
  | nil => exact fun _ => rfl
  | cons x xs ih =>
    intro k h
    have hshift (i : Nat) : k + 1 + i = k + (i + 1) := by omega
    have hrest := ih (k := k + 1) fun i element hi => by
      rw [hshift]
      exact h (i + 1) element hi
    have hfirst : mapElement f (x, k) = .ok (x.map (g · k)) := by
      cases x with
      | none => rfl
      | some element =>
        have helement : f element k = .ok (g element k) := h 0 element rfl
        simp [mapElement, helement]
    have hindices : (fun i => Option.map (g · (k + 1 + i))) =
        fun i => (Option.map (g · (k + (i + 1))) : Option α → Option β) := by
      funext i
      rw [hshift]
    rw [List.zipIdx_cons, List.mapM_cons, hfirst, hrest, List.mapIdx_cons, hindices]
    rfl

theorem mapM_eq {f : α → Nat → Except ε β} {g : α → Nat → β} {xs : SparseArray α}
    (h : ∀ i element, get xs i = some element → f element i = .ok (g element i)) :
    mapM f xs = .ok (xs.mapIdx fun i => Option.map (g · i)) := by
  simpa [mapM] using mapM_from (k := 0) (f := f) (g := g) (by simpa using h)

end SparseArray

end Js
