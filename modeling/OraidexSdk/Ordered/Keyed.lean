import Mathlib.Data.List.DropRight
import Mathlib.Data.List.Sort

namespace Keyed

theorem mem_of_lookup {K V : Type} [BEq K] [LawfulBEq K] {k : K} {v : V} {table : List (K × V)}
    (h : table.lookup k = some v) : (k, v) ∈ table := by
  rw [List.lookup_eq_some_iff] at h
  obtain ⟨before, after, rfl, -⟩ := h
  simp

variable {α K : Type} [LinearOrder K] {key : α → K}

abbrev Ascending (key : α → K) (xs : List α) : Prop := xs.Pairwise fun a b => key a < key b

def gaps : List α → List (α × α)
  | a :: b :: rest => (a, b) :: gaps (b :: rest)
  | _ => []

@[simp] theorem gaps_nil : gaps ([] : List α) = [] := rfl

@[simp] theorem gaps_singleton (a : α) : gaps [a] = [] := rfl

@[simp] theorem gaps_cons_cons (a b : α) (rest : List α) :
    gaps (a :: b :: rest) = (a, b) :: gaps (b :: rest) := rfl

theorem Ascending.eq_of_mem_iff {xs ys : List α} (hxs : Ascending key xs) (hys : Ascending key ys)
    (h : ∀ a, a ∈ xs ↔ a ∈ ys) : xs = ys := by
  have : Std.Irrefl fun a b : α => key a < key b := ⟨fun a => lt_irrefl (key a)⟩
  have : Std.Antisymm fun a b : α => key a < key b :=
    ⟨fun _ _ hab hba => absurd hab hba.not_gt⟩
  exact List.Pairwise.eq_of_mem_iff hxs hys h

def Convex (key : α → K) (p : α → Bool) : Prop :=
  ∀ a b c, key a < key b → key b < key c → p a → p c → p b

theorem gaps_filter {p : α → Bool} (hp : Convex key p) {xs : List α} (hxs : Ascending key xs) :
    gaps (xs.filter p) = (gaps xs).filter fun gap => p gap.1 && p gap.2 := by
  induction xs with
  | nil => rfl
  | cons a xs ih =>
    obtain ⟨ha, hxs'⟩ := List.pairwise_cons.mp hxs
    cases xs with
    | nil => cases h : p a <;> simp [h]
    | cons b rest =>
      have ih' := ih hxs'
      cases hpa : p a with
      | false => simpa [List.filter_cons, hpa] using ih'
      | true =>
        cases hpb : p b with
        | true => simpa [List.filter_cons, hpa, hpb] using ih'
        | false =>
          have hnone : (b :: rest).filter p = [] := by
            refine List.filter_eq_nil_iff.mpr fun c hc hpc => ?_
            rcases List.mem_cons.mp hc with rfl | hrest
            · simp [hpb] at hpc
            · have hbc := (List.pairwise_cons.mp hxs').1 c hrest
              simp [hp a b c (ha b List.mem_cons_self) hbc hpa hpc] at hpb
          rw [List.filter_cons_of_pos hpa, hnone, gaps_cons_cons,
            List.filter_cons_of_neg (by simp [hpb]), ← ih', hnone]
          rfl

theorem Ascending.filter_suffix {p : α → Bool} (hp : ∀ a b, key a < key b → p a → p b)
    {xs : List α} (hxs : Ascending key xs) : xs.filter p <:+ xs := by
  induction xs with
  | nil => exact List.suffix_refl _
  | cons a xs ih =>
    obtain ⟨ha, hxs'⟩ := List.pairwise_cons.mp hxs
    cases hpa : p a with
    | true =>
      have hall : ∀ b ∈ a :: xs, p b := by
        intro b hb
        rcases List.mem_cons.mp hb with rfl | hmem
        · exact hpa
        · exact hp a b (ha b hmem) hpa
      exact ⟨[], List.filter_eq_self.mpr hall⟩
    | false =>
      rw [List.filter_cons_of_neg (by simp [hpa])]
      exact (ih hxs').trans (List.suffix_cons a xs)

theorem rtake_of_suffix {xs ys : List α} (h : ys <:+ xs) {n : Nat} (hn : n ≤ ys.length) :
    xs.rtake n = ys.rtake n := by
  obtain ⟨dropped, rfl⟩ := h
  have hlength : (dropped ++ ys).length - n = dropped.length + (ys.length - n) := by
    rw [List.length_append]
    omega
  rw [List.rtake, hlength, List.drop_length_add_append, List.rtake]

end Keyed
