import OraidexSdk.Loops.Outcome

namespace EarlyExit
open Outcome

variable {ε α β γ : Type} {f : α → Except ε (Option β)}

-- A loop over a list that returns from inside its body.
theorem findSomeM?_cons (x : α) (xs : List α) :
    (x :: xs).findSomeM? f =
      (f x >>= fun found => found.elim (xs.findSomeM? f) fun b => .ok (some b)) := by
  rw [List.findSomeM?]
  congr 1
  funext found
  cases found <;> rfl

theorem findSomeM?_cons_none {x : α} (hx : f x = .ok none) (xs : List α) :
    (x :: xs).findSomeM? f = xs.findSomeM? f := by
  rw [findSomeM?_cons, hx, ok_bind, Option.elim_none]

theorem findSomeM?_cons_some {x : α} {b : β} (hx : f x = .ok (some b)) (xs : List α) :
    (x :: xs).findSomeM? f = .ok (some b) := by
  rw [findSomeM?_cons, hx, ok_bind, Option.elim_some]

theorem findSomeM?_map (g : γ → α) (xs : List γ) :
    (xs.map g).findSomeM? f = xs.findSomeM? fun x => f (g x) := by
  induction xs with
  | nil => rfl
  | cons x xs ih =>
    rw [List.map_cons, findSomeM?_cons, findSomeM?_cons, ih]

theorem findSomeM?_none {xs : List α} (h : ∀ x ∈ xs, f x = .ok none) :
    xs.findSomeM? f = .ok none := by
  induction xs with
  | nil => rfl
  | cons x xs ih =>
    obtain ⟨hx, hxs⟩ := List.forall_mem_cons.mp h
    rw [findSomeM?_cons_none hx, ih hxs]

theorem findSomeM?_some {before after : List α} {x : α} {b : β}
    (hbefore : ∀ y ∈ before, f y = .ok none) (hx : f x = .ok (some b)) :
    (before ++ x :: after).findSomeM? f = .ok (some b) := by
  induction before with
  | nil => exact findSomeM?_cons_some hx after
  | cons y before ih =>
    obtain ⟨hy, hrest⟩ := List.forall_mem_cons.mp hbefore
    rw [List.cons_append, findSomeM?_cons_none hy, ih hrest]

theorem cases_of_findSomeM? {xs : List α} {result : Option β} (h : xs.findSomeM? f = .ok result) :
    (result = none ∧ ∀ x ∈ xs, f x = .ok none) ∨
      ∃ before x after b, xs = before ++ x :: after ∧ (∀ y ∈ before, f y = .ok none) ∧
        f x = .ok (some b) ∧ result = some b := by
  induction xs with
  | nil =>
    cases h
    exact .inl ⟨rfl, List.forall_mem_nil _⟩
  | cons x xs ih =>
    rw [findSomeM?_cons] at h
    obtain ⟨found, hx, hrest⟩ := bind_eq_ok.mp h
    cases found with
    | some b =>
      cases hrest
      exact .inr ⟨[], x, xs, b, rfl, List.forall_mem_nil _, hx, rfl⟩
    | none =>
      rcases ih hrest with ⟨hnone, hall⟩ | ⟨before, y, after, b, hxs, hbefore, hy, hb⟩
      · exact .inl ⟨hnone, List.forall_mem_cons.mpr ⟨hx, hall⟩⟩
      · exact .inr ⟨x :: before, y, after, b, congrArg _ hxs,
          List.forall_mem_cons.mpr ⟨hx, hbefore⟩, hy, hb⟩

theorem mem_or_eq_of_append_eq {before after before' after' : List α} {x y : α}
    (h : before ++ x :: after = before' ++ y :: after') (hx : x ∉ before') :
    y ∈ before ∨ y = x := by
  rcases List.append_eq_append_iff.mp h with ⟨mid, rfl, htail⟩ | ⟨mid, rfl, htail⟩
  · cases mid with
    | nil =>
      cases htail
      exact .inr rfl
    | cons first mid =>
      cases htail
      exact absurd (List.mem_append_right _ List.mem_cons_self) hx
  · cases mid with
    | nil =>
      cases htail
      exact .inr rfl
    | cons first mid =>
      cases htail
      exact .inl (List.mem_append_right _ List.mem_cons_self)

end EarlyExit
