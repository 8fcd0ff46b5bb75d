import Mathlib.Data.List.TakeWhile

namespace Segments

variable {α : Type} (opens : α → Bool)

def segments : List α → List (α × List α)
  | [] => []
  | x :: xs => if opens x then (x, xs.takeWhile (!opens ·)) :: segments xs else segments xs

variable {opens}

theorem segments_cons_open {x : α} (hx : opens x = true) (xs : List α) :
    segments opens (x :: xs) = (x, xs.takeWhile (!opens ·)) :: segments opens xs := if_pos hx

theorem segments_cons_inner {x : α} (hx : opens x = false) (xs : List α) :
    segments opens (x :: xs) = segments opens xs := if_neg (Bool.eq_false_iff.mp hx)

theorem takeWhile_cons_open {x : α} (hx : opens x = true) (xs : List α) :
    (x :: xs).takeWhile (!opens ·) = [] := by
  simp [hx]

theorem takeWhile_cons_inner {x : α} (hx : opens x = false) (xs : List α) :
    (x :: xs).takeWhile (!opens ·) = x :: xs.takeWhile (!opens ·) := by
  simp [hx]

theorem map_fst_segments (xs : List α) : (segments opens xs).map Prod.fst = xs.filter opens := by
  induction xs with
  | nil => rfl
  | cons x xs ih =>
    cases hx : opens x with
    | true => rw [segments_cons_open hx, List.map_cons, ih, List.filter_cons_of_pos hx]
    | false =>
      rw [segments_cons_inner hx, ih, List.filter_cons_of_neg (Bool.eq_false_iff.mp hx)]

theorem not_opens_of_mem_segment {segment : α × List α} {xs : List α}
    (h : segment ∈ segments opens xs) {y : α} (hy : y ∈ segment.2) : opens y = false := by
  induction xs with
  | nil => exact absurd h List.not_mem_nil
  | cons x xs ih =>
    cases hx : opens x with
    | false => exact ih (segments_cons_inner hx xs ▸ h)
    | true =>
      rw [segments_cons_open hx] at h
      rcases List.mem_cons.mp h with rfl | hmem
      · simpa using List.mem_takeWhile_imp hy
      · exact ih hmem

theorem mem_of_mem_segment {segment : α × List α} {xs : List α}
    (h : segment ∈ segments opens xs) {y : α} (hy : y ∈ segment.2) : y ∈ xs := by
  induction xs with
  | nil => exact absurd h List.not_mem_nil
  | cons x xs ih =>
    refine List.mem_cons_of_mem x ?_
    cases hx : opens x with
    | false => exact ih (segments_cons_inner hx xs ▸ h)
    | true =>
      rw [segments_cons_open hx] at h
      rcases List.mem_cons.mp h with rfl | hmem
      · exact (List.takeWhile_prefix _).subset hy
      · exact ih hmem

theorem mem_takeWhile_or_segment {xs : List α} {y : α} (hy : y ∈ xs) (hinner : opens y = false) :
    y ∈ xs.takeWhile (!opens ·) ∨ ∃ segment ∈ segments opens xs, y ∈ segment.2 := by
  induction xs with
  | nil => exact absurd hy List.not_mem_nil
  | cons x xs ih =>
    cases hx : opens x with
    | true =>
      rw [segments_cons_open hx]
      rcases List.mem_cons.mp hy with rfl | hmem
      · exact absurd hinner (by simp [hx])
      · rcases ih hmem with htake | ⟨segment, hsegment, hin⟩
        · exact .inr ⟨_, List.mem_cons_self, htake⟩
        · exact .inr ⟨segment, List.mem_cons_of_mem _ hsegment, hin⟩
    | false =>
      rw [segments_cons_inner hx, takeWhile_cons_inner hx]
      rcases List.mem_cons.mp hy with rfl | hmem
      · exact .inl List.mem_cons_self
      · exact (ih hmem).imp_left (List.mem_cons_of_mem x)

theorem mem_segment {x : α} (hx : opens x = true) {xs : List α} {y : α} (hy : y ∈ x :: xs)
    (hinner : opens y = false) : ∃ segment ∈ segments opens (x :: xs), y ∈ segment.2 := by
  rcases mem_takeWhile_or_segment hy hinner with htake | hsegment
  · rw [takeWhile_cons_open hx] at htake
    exact absurd htake List.not_mem_nil
  · exact hsegment

end Segments
