import Mathlib.Data.List.Chain

variable {V E α : Type}

-- A list of edges that leads from one vertex to another, each edge leaving where
-- the one before arrives.
inductive Walk (source target : E → V) : V → List E → V → Prop where
  | nil (v : V) : Walk source target v [] v
  | cons {e : E} {es : List E} {v w : V} (leaves : source e = v)
      (rest : Walk source target (target e) es w) : Walk source target v (e :: es) w

namespace Walk

variable {source target : E → V} {u v w : V} {es fs : List E}

theorem append (h : Walk source target u es v) (h' : Walk source target v fs w) :
    Walk source target u (es ++ fs) w := by
  induction h with
  | nil v => exact h'
  | cons leaves rest ih => exact .cons leaves (ih h')

theorem head_source (h : Walk source target u es v) {e : E} (he : es.head? = some e) :
    source e = u := by
  cases h with
  | nil => cases he
  | cons leaves rest =>
    cases he
    exact leaves

theorem getLast_target (h : Walk source target u es v) {e : E} (he : es.getLast? = some e) :
    target e = v := by
  induction es generalizing u with
  | nil => cases he
  | cons f es ih =>
    cases h with
    | cons leaves rest =>
      cases es with
      | nil =>
        cases he
        cases rest
        rfl
      | cons f' es =>
        rw [List.getLast?_cons_cons] at he
        exact ih rest he

theorem isChain (h : Walk source target u es v) :
    es.IsChain (fun e next => source next = target e) := by
  induction h with
  | nil => exact .nil
  | cons leaves rest ih =>
    refine List.isChain_cons.mpr ⟨fun next hnext => ?_, ih⟩
    exact rest.head_source hnext

theorem flatMap {start stop : α → V} {block : α → List E} {xs : List α}
    (hlinked : xs.IsChain (fun x next => start next = stop x))
    (hblock : ∀ x ∈ xs, Walk source target (start x) (block x) (stop x)) (hne : xs ≠ []) :
    Walk source target (start (xs.head hne)) (xs.flatMap block) (stop (xs.getLast hne)) := by
  induction xs with
  | nil => exact absurd rfl hne
  | cons x xs ih =>
    obtain ⟨hx, hxs⟩ := List.forall_mem_cons.mp hblock
    rw [List.flatMap_cons]
    cases xs with
    | nil =>
      rw [List.flatMap_nil, List.append_nil]
      exact hx
    | cons y ys =>
      obtain ⟨hxy, htail⟩ := List.isChain_cons_cons.mp hlinked
      have hrest := ih htail hxs (List.cons_ne_nil y ys)
      rw [List.head_cons, hxy] at hrest
      rw [List.getLast_cons (List.cons_ne_nil y ys)]
      exact hx.append hrest

end Walk
