import Mathlib.Data.List.Nodup

namespace Distinct

variable {α : Type} [BEq α] [LawfulBEq α]

theorem nodup_eraseDups (xs : List α) : xs.eraseDups.Nodup := by
  induction hlength : xs.length using Nat.strongRecOn generalizing xs with
  | _ n ih =>
    cases xs with
    | nil => exact List.nodup_nil
    | cons x xs =>
      have hshorter : (xs.filter fun y => !y == x).length < n := by
        rw [← hlength]
        exact Nat.lt_succ_of_le (List.length_filter_le _ xs)
      rw [List.eraseDups_cons, List.nodup_cons, List.mem_eraseDups]
      exact ⟨by simp, ih _ hshorter _ rfl⟩

theorem nodup_filter_iff {p : α → Bool} {xs : List α} :
    (xs.filter p).Nodup ↔ ∀ x, p x = true → xs.count x ≤ 1 := by
  rw [List.nodup_iff_count_le_one]
  refine forall_congr' fun x => ?_
  cases hx : p x with
  | true => simp [List.count_filter hx]
  | false => simp [List.count_eq_zero_of_not_mem, hx]

omit [BEq α] [LawfulBEq α] in
theorem exists_map_some_iff {ys : List (Option α)} :
    (∃ xs : List α, ys = xs.map some) ↔ none ∉ ys := by
  induction ys with
  | nil => exact iff_of_true ⟨[], rfl⟩ List.not_mem_nil
  | cons y ys ih =>
    rw [List.mem_cons, not_or, ← ih]
    constructor
    · rintro ⟨xs, hxs⟩
      cases xs with
      | nil => cases hxs
      | cons x xs =>
        rw [List.map_cons, List.cons.injEq] at hxs
        exact ⟨by rw [hxs.1]; exact nofun, xs, hxs.2⟩
    · rintro ⟨hy, xs, rfl⟩
      obtain ⟨x, rfl⟩ := Option.ne_none_iff_exists'.mp (Ne.symm hy)
      exact ⟨x :: xs, rfl⟩

omit [BEq α] [LawfulBEq α] in
theorem none_not_mem_append_iff {xs : List α} {f : α → Option α} :
    none ∉ xs.map some ++ xs.map f ↔ ∀ x ∈ xs, (f x).isSome = true := by
  simp [Option.isSome_iff_ne_none]

end Distinct
