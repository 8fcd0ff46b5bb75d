import Mathlib.Data.List.Nodup

namespace Entries

variable {α K : Type} (key : α → K)

abbrev Distinct (xs : List α) : Prop := (xs.map key).Nodup

variable {key} {k : K} {x y : α} {xs : List α}

theorem distinct_cons : Distinct key (x :: xs) ↔ (∀ y ∈ xs, key y ≠ key x) ∧ Distinct key xs := by
  simp [Distinct, eq_comm]

theorem distinct_concat (hxs : Distinct key xs) (hy : ∀ x ∈ xs, key x ≠ key y) :
    Distinct key (xs ++ [y]) := by
  simpa [Distinct, List.nodup_append, hxs] using hy

variable [DecidableEq K] (key)

def get (k : K) (xs : List α) : Option α := xs.find? (key · = k)

def remove (k : K) (xs : List α) : List α := xs.eraseP (key · = k)

def others (k : K) (xs : List α) : List α := xs.filter (key · ≠ k)

variable {key}

@[simp] theorem get_nil : get key k [] = none := rfl

theorem get_cons : get key k (x :: xs) = if key x = k then some x else get key k xs := by
  by_cases hx : key x = k <;> simp [get, hx]

theorem get_eq_none_iff : get key k xs = none ↔ ∀ x ∈ xs, key x ≠ k := by simp [get]

theorem get_of_mem (hxs : Distinct key xs) (hx : x ∈ xs) : get key (key x) xs = some x := by
  induction xs with
  | nil => cases hx
  | cons y ys ih =>
    obtain ⟨hy, hys⟩ := distinct_cons.mp hxs
    rw [get_cons]
    rcases List.mem_cons.mp hx with rfl | hmem
    · rw [if_pos rfl]
    · rw [if_neg (hy x hmem).symm]
      exact ih hys hmem

theorem remove_eq_others (hxs : Distinct key xs) : remove key k xs = others key k xs := by
  induction xs with
  | nil => simp [remove, others]
  | cons y ys ih =>
    obtain ⟨hy, hys⟩ := distinct_cons.mp hxs
    by_cases hkey : key y = k
    · subst hkey
      have hall : others key (key y) ys = ys := by simpa [others] using hy
      have hdropped : others key (key y) (y :: ys) = others key (key y) ys := by simp [others]
      rw [hdropped, hall]
      simp [remove]
    · have ih' := ih hys
      simp only [remove, others] at ih' ⊢
      simp [hkey, ih']

theorem others_remove (k : K) (xs : List α) : others key k (remove key k xs) = others key k xs := by
  induction xs with
  | nil => rfl
  | cons y ys ih =>
    by_cases hkey : key y = k
    · simp [remove, others, hkey]
    · simp only [remove, others] at ih ⊢
      simpa [hkey] using ih

theorem distinct_others (hxs : Distinct key xs) : Distinct key (others key k xs) :=
  hxs.sublist (List.filter_sublist.map key)

theorem get_others (k' : K) :
    get key k' (others key k xs) = if k' = k then none else get key k' xs := by
  split
  · rename_i hsame
    subst hsame
    simp [get_eq_none_iff, others]
  · rename_i hother
    induction xs with
    | nil => rfl
    | cons y ys ih =>
      rw [get_cons, ← ih]
      by_cases hkey : key y = k
      · have hmiss : key y ≠ k' := fun hfound => hother (hfound.symm.trans hkey)
        rw [if_neg hmiss]
        simp [others, hkey]
      · simp [others, hkey, get_cons]

theorem get_concat (hy : ∀ x ∈ xs, key x ≠ key y) :
    get key k (xs ++ [y]) = if k = key y then some y else get key k xs := by
  rw [get, List.find?_append]
  split
  · rename_i hsame
    subst hsame
    have hnone : xs.find? (key · = key y) = none := get_eq_none_iff.mpr hy
    rw [hnone]
    simp
  · rename_i hother
    have hmiss : [y].find? (key · = k) = none := by simpa using Ne.symm hother
    rw [hmiss, Option.or_none]
    rfl

theorem others_concat (hy : key y = k) : others key k (xs ++ [y]) = others key k xs := by
  simp [others, hy]

theorem others_ne (k : K) (xs : List α) : ∀ x ∈ others key k xs, key x ≠ k := by
  simp [others]

theorem others_eq_self (h : ∀ x ∈ xs, key x ≠ k) : others key k xs = xs := by
  simpa [others] using h

end Entries
