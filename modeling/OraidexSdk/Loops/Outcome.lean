import Mathlib.Data.List.Basic
import Mathlib.Data.List.Forall2

namespace Outcome

variable {ε α β σ : Type}

theorem ok_bind (a : α) (f : α → Except ε β) : (Except.ok a >>= f) = f a := rfl

theorem bind_eq_ok {x : Except ε α} {f : α → Except ε β} {b : β} :
    (x >>= f) = .ok b ↔ ∃ a, x = .ok a ∧ f a = .ok b := by
  cases x with
  | error e => exact ⟨nofun, fun ⟨_, h, _⟩ => nomatch h⟩
  | ok a => exact ⟨fun h => ⟨a, rfl, h⟩, fun ⟨_, rfl, h⟩ => h⟩

theorem map_eq_ok {x : Except ε α} {f : α → β} {b : β} :
    (f <$> x) = .ok b ↔ ∃ a, x = .ok a ∧ f a = b := by
  cases x with
  | error e => exact ⟨nofun, fun ⟨_, h, _⟩ => nomatch h⟩
  | ok a => exact ⟨fun h => ⟨a, rfl, Except.ok.inj h⟩, fun ⟨_, rfl, h⟩ => congrArg _ h⟩

theorem foldlM_induct {step : σ → α → Except ε σ} {P : List α → σ → Prop} {xs : List α}
    {s t : σ} (hstart : P [] s)
    (hstep : ∀ done x u v, done ++ [x] <+: xs → P done u → step u x = .ok v → P (done ++ [x]) v)
    (hrun : xs.foldlM step s = .ok t) : P xs t := by
  have hall : ∀ rest done u, done ++ rest = xs → P done u → rest.foldlM step u = .ok t → P xs t := by
    intro rest
    induction rest with
    | nil =>
      intro done u heq hu ht
      rw [List.append_nil] at heq
      cases ht
      exact heq ▸ hu
    | cons x rest ih =>
      intro done u heq hu ht
      rw [List.foldlM_cons, bind_eq_ok] at ht
      obtain ⟨v, hv, hrest⟩ := ht
      have heq' : (done ++ [x]) ++ rest = xs := by
        rw [List.append_assoc]
        exact heq
      exact ih (done ++ [x]) v heq' (hstep done x u v ⟨rest, heq'⟩ hu hv) hrest
  exact hall xs [] s rfl hstart hrun

theorem foldlM_ok_iff {step : σ → α → Except ε σ} {accepts : α → Bool}
    (hstep : ∀ s x, (∃ t, step s x = .ok t) ↔ accepts x = true) {xs : List α} : ∀ {s : σ},
    (∃ t, xs.foldlM step s = .ok t) ↔ ∀ x ∈ xs, accepts x = true := by
  induction xs with
  | nil => exact fun {s} => ⟨fun _ => List.forall_mem_nil _, fun _ => ⟨s, rfl⟩⟩
  | cons x xs ih =>
    intro s
    rw [List.forall_mem_cons, ← hstep s x]
    simp only [List.foldlM_cons, bind_eq_ok]
    constructor
    · rintro ⟨t, u, hu, ht⟩
      exact ⟨⟨u, hu⟩, ih.mp ⟨t, ht⟩⟩
    · rintro ⟨⟨u, hu⟩, hxs⟩
      obtain ⟨t, ht⟩ := ih.mpr hxs
      exact ⟨t, u, hu, ht⟩

theorem mapM_ok_iff {f : α → Except ε β} {xs : List α} :
    (∃ ys, xs.mapM f = .ok ys) ↔ ∀ x ∈ xs, ∃ y, f x = .ok y := by
  induction xs with
  | nil => exact ⟨fun _ => List.forall_mem_nil _, fun _ => ⟨[], rfl⟩⟩
  | cons x xs ih =>
    rw [List.forall_mem_cons, ← ih]
    simp only [List.mapM_cons, bind_eq_ok]
    constructor
    · rintro ⟨-, y, hy, ys, hys, -⟩
      exact ⟨⟨y, hy⟩, ⟨ys, hys⟩⟩
    · rintro ⟨⟨y, hy⟩, ⟨ys, hys⟩⟩
      exact ⟨_, y, hy, ys, hys, rfl⟩

theorem mapM_eq_map {f : α → Except ε β} {g : α → β} {xs : List α}
    (h : ∀ x ∈ xs, f x = .ok (g x)) : xs.mapM f = .ok (xs.map g) := by
  induction xs with
  | nil => rfl
  | cons x xs ih =>
    obtain ⟨hx, hxs⟩ := List.forall_mem_cons.mp h
    rw [List.mapM_cons, hx, ok_bind, ih hxs, ok_bind, List.map_cons]
    rfl

theorem foldlM_append_eq {f : α → Except ε (List β)} {g : α → List β} {xs : List α}
    (h : ∀ x ∈ xs, f x = .ok (g x)) (init : List β) :
    xs.foldlM (fun acc x => do return acc ++ (← f x)) init = .ok (init ++ xs.flatMap g) := by
  induction xs generalizing init with
  | nil =>
    rw [List.flatMap_nil, List.append_nil]
    rfl
  | cons x xs ih =>
    obtain ⟨hx, hxs⟩ := List.forall_mem_cons.mp h
    rw [List.foldlM_cons, hx, ok_bind]
    exact (ih hxs (init ++ g x)).trans (by rw [List.flatMap_cons, List.append_assoc])

theorem forall₂_of_mapM {f : α → Except ε β} {xs : List α} {ys : List β}
    (h : xs.mapM f = .ok ys) : List.Forall₂ (fun x y => f x = .ok y) xs ys := by
  induction xs generalizing ys with
  | nil =>
    cases h
    exact .nil
  | cons x xs ih =>
    rw [List.mapM_cons] at h
    obtain ⟨y, hy, hrest⟩ := bind_eq_ok.mp h
    obtain ⟨zs, hzs, heq⟩ := bind_eq_ok.mp hrest
    cases heq
    exact .cons hy (ih hzs)

theorem exists_mapM {f : α → Except ε β} {P : α → β → Prop} {xs : List α}
    (h : ∀ x ∈ xs, ∃ y, f x = .ok y ∧ P x y) : ∃ ys, xs.mapM f = .ok ys ∧ List.Forall₂ P xs ys := by
  induction xs with
  | nil => exact ⟨[], rfl, .nil⟩
  | cons x xs ih =>
    obtain ⟨⟨y, hy, hP⟩, hxs⟩ := List.forall_mem_cons.mp h
    obtain ⟨ys, hys, hPs⟩ := ih hxs
    refine ⟨y :: ys, ?_, .cons hP hPs⟩
    rw [List.mapM_cons, hy, ok_bind, hys]
    rfl

theorem mapM_mono {f g : α → Except ε β} (h : ∀ x y, f x = .ok y → g x = .ok y) {xs : List α}
    {ys : List β} (hrun : xs.mapM f = .ok ys) : xs.mapM g = .ok ys := by
  induction xs generalizing ys with
  | nil => exact hrun
  | cons x xs ih =>
    rw [List.mapM_cons] at hrun ⊢
    obtain ⟨y, hy, hrest⟩ := bind_eq_ok.mp hrun
    obtain ⟨zs, hzs, hlast⟩ := bind_eq_ok.mp hrest
    rw [h x y hy, ok_bind, ih hzs, ok_bind]
    exact hlast

theorem exists_of_forall₂ {R : α → β → Prop} {xs : List α} {ys : List β}
    (h : List.Forall₂ R xs ys) : ∀ x ∈ xs, ∃ y ∈ ys, R x y := by
  induction h with
  | nil => exact List.forall_mem_nil _
  | cons hR _ ih =>
    refine List.forall_mem_cons.mpr ⟨⟨_, List.mem_cons_self, hR⟩, fun x hx => ?_⟩
    obtain ⟨y, hy, hxy⟩ := ih x hx
    exact ⟨y, List.mem_cons_of_mem _ hy, hxy⟩

theorem ok_iff_true (a : α) : (∃ b, (.ok a : Except ε α) = .ok b) ↔ true = true :=
  iff_of_true ⟨a, rfl⟩ rfl

theorem error_iff_false (e : ε) : (∃ b, (.error e : Except ε α) = .ok b) ↔ false = true := by
  constructor
  · rintro ⟨b, hb⟩
    cases hb
  · intro h
    cases h

theorem error_of_not_ok {x : Except ε α} (h : ¬ ∃ a, x = .ok a) : ∃ e, x = .error e := by
  cases x with
  | error e => exact ⟨e, rfl⟩
  | ok a => exact absurd ⟨a, rfl⟩ h

section FailsWith

def FailsWith (Q : ε → Prop) (x : Except ε α) : Prop := ∀ e, x = .error e → Q e

variable {Q R : ε → Prop}

namespace FailsWith

theorem ok (a : α) : FailsWith Q (.ok a : Except ε α) := by
  intro e h
  cases h

theorem error {e : ε} (h : Q e) : FailsWith Q (.error e : Except ε α) := by
  intro e' he
  cases he
  exact h

theorem mono (hQ : ∀ e, Q e → R e) {x : Except ε α} (h : FailsWith Q x) : FailsWith R x :=
  fun e he => hQ e (h e he)

theorem bind {x : Except ε α} {f : α → Except ε β} (hx : FailsWith Q x)
    (hf : ∀ a, x = .ok a → FailsWith Q (f a)) : FailsWith Q (x >>= f) := by
  cases hrun : x with
  | error e =>
    intro e' he
    cases he
    exact hx e hrun
  | ok a => exact hf a hrun

theorem map {x : Except ε α} (f : α → β) (hx : FailsWith Q x) : FailsWith Q (f <$> x) := by
  cases hrun : x with
  | error e =>
    intro e' he
    cases he
    exact hx e hrun
  | ok a => exact FailsWith.ok (f a)

theorem ite {c : Prop} [Decidable c] {x y : Except ε α} (hx : c → FailsWith Q x)
    (hy : ¬ c → FailsWith Q y) : FailsWith Q (if c then x else y) := by
  split
  · exact hx ‹c›
  · exact hy ‹¬ c›

theorem foldlM {step : σ → α → Except ε σ} (hstep : ∀ s x, FailsWith Q (step s x)) (xs : List α) :
    ∀ s, FailsWith Q (xs.foldlM step s) := by
  induction xs with
  | nil => exact fun s => FailsWith.ok s
  | cons x xs ih =>
    intro s
    rw [List.foldlM_cons]
    exact bind (hstep s x) fun t _ => ih t

end FailsWith

end FailsWith

end Outcome
