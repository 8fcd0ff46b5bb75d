import Mathlib.Data.List.Basic

namespace SeparatedFields

variable {α : Type} [BEq α] [LawfulBEq α]

theorem not_mem_of_mem_splitOn {sep : α} {text : List α} : ∀ {field : List α},
    field ∈ text.splitOn sep → sep ∉ field := by
  induction text with
  | nil =>
    intro field h
    rw [List.splitOn_nil, List.mem_singleton] at h
    rw [h]
    exact List.not_mem_nil
  | cons x text ih =>
    intro field h
    obtain ⟨first, rest, hsplit⟩ := List.exists_cons_of_ne_nil (List.splitOn_ne_nil sep text)
    rw [List.splitOn_cons_eq_if_modifyHead, hsplit] at h
    rw [hsplit] at ih
    split at h
    · rcases List.mem_cons.mp h with rfl | hmem
      · exact List.not_mem_nil
      · exact ih hmem
    · rename_i hx
      rw [List.modifyHead_cons] at h
      rcases List.mem_cons.mp h with rfl | hmem
      · rw [List.mem_cons, not_or]
        refine ⟨?_, ih List.mem_cons_self⟩
        rintro rfl
        exact hx (beq_self_eq_true _)
      · exact ih (List.mem_cons_of_mem first hmem)

omit [LawfulBEq α] in
theorem length_splitOn (sep : α) (text : List α) :
    (text.splitOn sep).length = text.count sep + 1 := by
  induction text with
  | nil => rfl
  | cons x text ih =>
    rw [List.splitOn_cons_eq_if_modifyHead, List.count_cons]
    split
    · rw [List.length_cons, ih]
    · rw [List.length_modifyHead, ih]

omit [LawfulBEq α] in
theorem splitOn_cases (sep : α) (text : List α) :
    (text.count sep = 0 ∧ ∃ a, text.splitOn sep = [a]) ∨
      (text.count sep = 1 ∧ ∃ a b, text.splitOn sep = [a, b]) ∨
      (1 < text.count sep ∧ ∃ a b c rest, text.splitOn sep = a :: b :: c :: rest) := by
  have hlength := length_splitOn sep text
  rcases hsplit : text.splitOn sep with _ | ⟨a, _ | ⟨b, _ | ⟨c, rest⟩⟩⟩
  · exact absurd hsplit (List.splitOn_ne_nil sep text)
  · rw [hsplit, List.length_singleton] at hlength
    exact .inl ⟨by omega, a, rfl⟩
  · rw [hsplit, List.length_cons, List.length_singleton] at hlength
    exact .inr (.inl ⟨by omega, a, b, rfl⟩)
  · simp only [hsplit, List.length_cons] at hlength
    exact .inr (.inr ⟨by omega, a, b, c, rest, rfl⟩)

theorem splitOn_intercalate_iff {sep : α} {fields : List (List α)} (hne : fields ≠ []) :
    ([sep].intercalate fields).splitOn sep = fields ↔ ∀ field ∈ fields, sep ∉ field := by
  constructor
  · intro h field hmem
    rw [← h] at hmem
    exact not_mem_of_mem_splitOn hmem
  · intro h
    exact List.splitOn_intercalate sep h hne

end SeparatedFields
