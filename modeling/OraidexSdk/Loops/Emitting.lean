import Mathlib.Data.List.Perm.Basic
import Mathlib.Algebra.Order.BigOperators.Group.List
import Mathlib.Algebra.Order.Ring.Nat

namespace EmittingLoop

variable {α β γ ε : Type}

-- A loop body that only appends to what has been emitted: what it appends for x
-- shows spec x through key, and it fails exactly off ok.
structure Emits (f : List β → α → Except ε (List β)) (key : β → γ) (ok : α → Prop)
    (spec : α → List γ) : Prop where
  emits : ∀ acc x, ok x → ∃ es, f acc x = .ok (acc ++ es) ∧ es.map key = spec x
  fails : ∀ acc x, ¬ ok x → ∃ e, f acc x = .error e

namespace Emits

variable {f : List β → α → Except ε (List β)} {key : β → γ} {ok : α → Prop} {spec : α → List γ}

theorem foldlM_ok (h : Emits f key ok spec) {xs : List α} (hok : ∀ x ∈ xs, ok x) (acc : List β) :
    ∃ es, xs.foldlM f acc = .ok (acc ++ es) ∧ es.map key = xs.flatMap spec := by
  induction xs generalizing acc with
  | nil => exact ⟨[], by simp [pure, Except.pure], rfl⟩
  | cons x xs ih =>
    obtain ⟨hx, hxs⟩ := List.forall_mem_cons.mp hok
    obtain ⟨es, hes, hkey⟩ := h.emits acc x hx
    obtain ⟨fs, hfs, hkeys⟩ := ih hxs (acc ++ es)
    refine ⟨es ++ fs, ?_, ?_⟩
    · rw [List.foldlM_cons, hes, ← List.append_assoc]
      exact hfs
    · rw [List.map_append, hkey, hkeys, List.flatMap_cons]

theorem foldlM_error (h : Emits f key ok spec) {xs : List α} (hok : ¬ ∀ x ∈ xs, ok x)
    (acc : List β) : ∃ e, xs.foldlM f acc = .error e := by
  induction xs generalizing acc with
  | nil => exact absurd (List.forall_mem_nil _) hok
  | cons x xs ih =>
    rw [List.foldlM_cons]
    by_cases hx : ok x
    · obtain ⟨es, hes, -⟩ := h.emits acc x hx
      have hxs : ¬ ∀ y ∈ xs, ok y := fun hall => hok (List.forall_mem_cons.mpr ⟨hx, hall⟩)
      rw [hes]
      exact ih hxs (acc ++ es)
    · obtain ⟨e, he⟩ := h.fails acc x hx
      rw [he]
      exact ⟨e, rfl⟩

theorem foldlM (h : Emits f key ok spec) :
    Emits (fun acc (xs : List α) => xs.foldlM f acc) key (fun xs => ∀ x ∈ xs, ok x)
      (fun xs => xs.flatMap spec) :=
  ⟨fun acc _ hok => h.foldlM_ok hok acc, fun acc _ hok => h.foldlM_error hok acc⟩

end Emits

section Weight

variable (w : γ → ℕ)

def weight (l : List γ) : ℕ := (l.map w).sum

theorem weight_append (a b : List γ) : weight w (a ++ b) = weight w a + weight w b := by
  simp [weight]

theorem weight_perm {a b : List γ} (h : a.Perm b) : weight w a = weight w b :=
  (h.map w).sum_eq

variable {A E : α → List γ} {kept : α → Prop}

theorem weight_flatMap_le (hle : ∀ x, weight w (A x) ≤ weight w (E x)) (xs : List α) :
    weight w (xs.flatMap A) ≤ weight w (xs.flatMap E) := by
  induction xs with
  | nil => exact le_rfl
  | cons x xs ih =>
    rw [List.flatMap_cons, List.flatMap_cons, weight_append, weight_append]
    exact Nat.add_le_add (hle x) ih

-- Blocks that never weigh more than they should and weigh less where something
-- is lost agree as a whole only when every block is kept.
theorem flatMap_perm_iff (hkept : ∀ x, kept x → (A x).Perm (E x))
    (hle : ∀ x, weight w (A x) ≤ weight w (E x))
    (hlt : ∀ x, ¬ kept x → weight w (A x) < weight w (E x)) (xs : List α) :
    (xs.flatMap A).Perm (xs.flatMap E) ↔ ∀ x ∈ xs, kept x := by
  constructor
  · intro hperm
    have hweight := weight_perm w hperm
    clear hperm
    induction xs with
    | nil => exact List.forall_mem_nil _
    | cons x xs ih =>
      have htail := weight_flatMap_le w hle xs
      have hhead := hle x
      rw [List.flatMap_cons, List.flatMap_cons, weight_append, weight_append] at hweight
      refine List.forall_mem_cons.mpr ⟨?_, ih (by omega)⟩
      by_contra hx
      have hless := hlt x hx
      omega
  · intro hall
    exact List.Perm.flatMap_left xs fun x hx => hkept x (hall x hx)

end Weight

theorem flatMap_ite_perm (p : α → Bool) (f : α → List γ) (g : α → γ) (xs : List α) :
    (xs.flatMap fun x => if p x then f x else [g x]).Perm
      ((xs.filter p).flatMap f ++ (xs.filter (! p ·)).map g) := by
  induction xs with
  | nil => exact List.Perm.nil
  | cons x xs ih =>
    by_cases hp : p x = true
    · simp only [List.flatMap_cons, hp, if_pos, List.filter_cons, Bool.not_true, List.append_assoc,
        Bool.false_eq_true, if_false]
      exact ih.append_left (f x)
    · simp only [List.flatMap_cons, hp, List.filter_cons, Bool.not_false, List.map_cons,
        Bool.false_eq_true, if_false, if_true, List.singleton_append]
      exact (ih.cons (g x)).trans List.perm_middle.symm

theorem flatMap_zipIdx_at (p : α → Bool) (v : γ) (xs : List α) (start j : ℕ) :
    (((xs.zipIdx start).filter (p ·.1)).flatMap fun x => if start + j = x.2 then [v] else []) =
      if xs[j]?.any p then [v] else [] := by
  induction xs generalizing start j with
  | nil => rfl
  | cons x xs ih =>
    rw [List.zipIdx_cons, List.filter_cons]
    cases j with
    | zero =>
      have hlater : (((xs.zipIdx (start + 1)).filter (p ·.1)).flatMap
          fun y => if start + 0 = y.2 then [v] else []) = [] := by
        refine List.flatMap_eq_nil_iff.mpr fun y hy => if_neg ?_
        have hmem := List.mem_zipIdx (List.mem_of_mem_filter hy)
        omega
      by_cases hx : p x = true
      · rw [if_pos hx, List.flatMap_cons, hlater]
        simp [hx]
      · rw [if_neg hx, hlater]
        simp [hx]
    | succ j =>
      have hstep : start + (j + 1) = start + 1 + j := by omega
      have htail := ih (start + 1) j
      rw [List.getElem?_cons_succ, hstep, ← htail]
      by_cases hx : p x = true
      · rw [if_pos hx, List.flatMap_cons, if_neg (by omega), List.nil_append]
      · rw [if_neg hx]

theorem filter_flatMap_zipIdx [DecidableEq β] {label : γ → β} {place : ℕ → β} {f : α × ℕ → List γ}
    (hplace : Function.Injective place) (hlabel : ∀ x, ∀ y ∈ f x, label y = place x.2)
    (xs : List α) (start j : ℕ) :
    ((xs.zipIdx start).flatMap f).filter (label · = place (start + j)) =
      (xs[j]?.map fun x => f (x, start + j)).getD [] := by
  have hother {x : α × ℕ} (hne : x.2 ≠ start + j) :
      (f x).filter (label · = place (start + j)) = [] := by
    refine List.filter_eq_nil_iff.mpr fun y hy => ?_
    rw [hlabel x y hy, decide_eq_true_eq]
    exact hplace.ne hne
  induction xs generalizing start j with
  | nil => rfl
  | cons x xs ih =>
    rw [List.zipIdx_cons, List.flatMap_cons, List.filter_append]
    cases j with
    | zero =>
      have hhead : (f (x, start)).filter (label · = place (start + 0)) = f (x, start) :=
        List.filter_eq_self.mpr fun y hy => decide_eq_true (hlabel _ y hy)
      have htail : ((xs.zipIdx (start + 1)).flatMap f).filter (label · = place (start + 0)) = [] := by
        rw [List.filter_flatMap]
        refine List.flatMap_eq_nil_iff.mpr fun y hy => hother ?_
        have hmem := List.mem_zipIdx hy
        omega
      rw [hhead, htail]
      exact List.append_nil _
    | succ j =>
      have hstep : start + (j + 1) = start + 1 + j := by omega
      rw [hother (x := (x, start)) (by simp), List.nil_append]
      rw [hstep] at hother ⊢
      exact ih (start + 1) j hother

theorem forall_mem_zipIdx {P : α → Prop} {xs : List α} :
    (∀ x ∈ xs.zipIdx, P x.1) ↔ ∀ x ∈ xs, P x := by
  rw [← List.forall_mem_map, List.zipIdx_map_fst]

theorem map_filter_zipIdx (p : α → Bool) (xs : List α) :
    (xs.zipIdx.filter (p ·.1)).map Prod.fst = xs.filter p := by
  have h := List.filter_map (f := Prod.fst) (p := p) (l := xs.zipIdx)
  rw [List.zipIdx_map_fst] at h
  exact h.symm

def EndsIn (p : β → Prop) (xs : List β) : Prop :=
  ∃ pre last, xs = pre ++ [last] ∧ p last ∧ ∀ x ∈ pre, ¬ p x

section EndsIn

variable {p : β → Prop}

theorem endsIn_singleton {x : β} (h : p x) : EndsIn p [x] :=
  ⟨[], x, rfl, h, List.forall_mem_nil _⟩

theorem not_endsIn {xs : List β} (h : ∀ x ∈ xs, ¬ p x) : ¬ EndsIn p xs := by
  rintro ⟨pre, last, rfl, hlast, -⟩
  exact h last (List.mem_append_right _ (List.mem_singleton_self last)) hlast

theorem endsIn_map {f : α → β} {xs : List α} : EndsIn p (xs.map f) ↔ EndsIn (fun x => p (f x)) xs := by
  constructor
  · rintro ⟨pre, last, heq, hlast, hpre⟩
    obtain ⟨as, bs, rfl, rfl, hbs⟩ := List.map_eq_append_iff.mp heq
    obtain ⟨a, rfl, rfl⟩ := List.map_eq_singleton_iff.mp hbs
    exact ⟨as, a, rfl, hlast, fun x hx => hpre (f x) (List.mem_map_of_mem hx)⟩
  · rintro ⟨pre, last, rfl, hlast, hpre⟩
    exact ⟨pre.map f, f last, by simp, hlast, List.forall_mem_map.mpr hpre⟩

theorem endsIn_append {xs : List β} (h : ∀ x ∈ xs, ¬ p x) (ys : List β) :
    EndsIn p (xs ++ ys) ↔ EndsIn p ys := by
  constructor
  · rintro ⟨pre, last, heq, hlast, hpre⟩
    rcases List.eq_nil_or_concat ys with rfl | ⟨init, y, rfl⟩
    · rw [List.append_nil] at heq
      exact absurd ⟨pre, last, heq, hlast, hpre⟩ (not_endsIn h)
    · rw [List.concat_eq_append, ← List.append_assoc] at heq
      obtain ⟨rfl, hy⟩ := List.append_inj' heq rfl
      obtain rfl := List.singleton_inj.mp hy
      exact ⟨init, y, List.concat_eq_append, hlast,
        fun x hx => hpre x (List.mem_append_right _ hx)⟩
  · rintro ⟨pre, last, rfl, hlast, hpre⟩
    exact ⟨xs ++ pre, last, (List.append_assoc _ _ _).symm, hlast,
      List.forall_mem_append.mpr ⟨h, hpre⟩⟩

end EndsIn

end EmittingLoop
