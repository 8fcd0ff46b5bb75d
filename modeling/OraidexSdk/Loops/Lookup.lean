import OraidexSdk.Loops.Outcome

namespace OptionalLookup
open Outcome

variable {B S ε α β : Type}

-- A run that may look one value up, with the steps it comes to. A step that asks stops
-- the run on the blank value with its error; one that refuses stops it on all others.
-- Any other error of a run on a value that is not blank is none of these.
structure Depends (asks refuses : S → ε → Prop) (unrelated : ε → Prop) (blank : B)
    (steps : B → List S) (run : B → Except ε α) : Prop where
  blind : (∀ s ∈ steps blank, ∀ e, ¬ asks s e) → ∀ b b', run b = run b'
  asked : ∀ s ∈ steps blank, ∀ e, asks s e → run blank = .error e
  refused : ∀ b, b ≠ blank → ∀ s ∈ steps b, ∀ e, refuses s e → run b = .error e
  fails : ∀ b, b ≠ blank → FailsWith (fun e => unrelated e ∨ ∃ s ∈ steps b, refuses s e) (run b)

def reached (run : Except ε α) (steps : α → List S) : List S :=
  match run with
  | .ok a => steps a
  | .error _ => []

theorem mem_reached {run : Except ε α} {steps : α → List S} {s : S} (h : s ∈ reached run steps) :
    ∃ a, run = .ok a ∧ s ∈ steps a := by
  cases run with
  | error e => cases h
  | ok a => exact ⟨a, rfl, h⟩

namespace Depends

variable {asks refuses : S → ε → Prop} {unrelated : ε → Prop} {blank : B}

theorem const {x : Except ε α} (h : FailsWith unrelated x) :
    Depends asks refuses unrelated blank (fun _ => []) fun _ => x where
  blind := fun _ _ _ => rfl
  asked := fun _ hs => absurd hs List.not_mem_nil
  refused := fun _ _ _ hs => absurd hs List.not_mem_nil
  fails := fun _ _ e he => .inl (h e he)

theorem single {s : S} {run : B → Except ε α}
    (blind : (∀ e, ¬ asks s e) → ∀ b b', run b = run b')
    (asked : ∀ e, asks s e → run blank = .error e)
    (refused : ∀ e, refuses s e → ∀ b, b ≠ blank → run b = .error e)
    (fails : ∀ b, b ≠ blank → FailsWith (fun e => unrelated e ∨ refuses s e) (run b)) :
    Depends asks refuses unrelated blank (fun _ => [s]) run where
  blind := fun hquiet => blind (hquiet s List.mem_cons_self)
  asked := by
    intro t ht
    rw [List.mem_singleton.mp ht]
    exact asked
  refused := by
    intro b hb t ht e hrefuses
    rw [List.mem_singleton.mp ht] at hrefuses
    exact refused e hrefuses b hb
  fails := by
    intro b hb
    refine (fails b hb).mono fun e he => ?_
    exact he.imp_right fun hrefuses => ⟨s, List.mem_cons_self, hrefuses⟩

theorem quiet {s : S} {x : Except ε α} (hasks : ∀ e, ¬ asks s e) (hrefuses : ∀ e, ¬ refuses s e)
    (h : FailsWith unrelated x) : Depends asks refuses unrelated blank (fun _ => [s]) fun _ => x :=
  single (fun _ _ _ => rfl) (fun e he => absurd he (hasks e)) (fun e he => absurd he (hrefuses e))
    fun _ _ => h.mono fun _ => .inl

theorem bind {steps : B → List S} {run : B → Except ε α} {later : α → B → List S}
    {next : α → B → Except ε β} (h : Depends asks refuses unrelated blank steps run)
    (hnext : ∀ a, Depends asks refuses unrelated blank (later a) (next a)) :
    Depends asks refuses unrelated blank (fun b => steps b ++ reached (run b) fun a => later a b)
      (fun b => run b >>= fun a => next a b) where
  blind := by
    intro hquiet b b'
    have hrun := h.blind (fun s hs => hquiet s (List.mem_append_left _ hs))
    cases hblank : run blank with
    | error e =>
      simp only [hrun b blank, hrun b' blank, hblank]
      rfl
    | ok a =>
      have hstep : ∀ s ∈ later a blank, ∀ e, ¬ asks s e := by
        intro s hs
        apply hquiet s
        apply List.mem_append_right
        rw [hblank]
        exact hs
      simp only [hrun b blank, hrun b' blank, hblank]
      exact (hnext a).blind hstep b b'
  asked := by
    intro s hs e hasks
    rcases List.mem_append.mp hs with hearlier | hlast
    · rw [h.asked s hearlier e hasks]
      rfl
    · obtain ⟨a, hrun, hs⟩ := mem_reached hlast
      rw [hrun]
      exact (hnext a).asked s hs e hasks
  refused := by
    intro b hb s hs e hrefuses
    rcases List.mem_append.mp hs with hearlier | hlast
    · rw [h.refused b hb s hearlier e hrefuses]
      rfl
    · obtain ⟨a, hrun, hs⟩ := mem_reached hlast
      rw [hrun]
      exact (hnext a).refused b hb s hs e hrefuses
  fails := by
    intro b hb e he
    cases hrun : run b with
    | error e' =>
      rw [hrun] at he
      cases he
      rcases h.fails b hb e hrun with hother | ⟨s, hs, hrefuses⟩
      · exact .inl hother
      · exact .inr ⟨s, List.mem_append_left _ hs, hrefuses⟩
    | ok a =>
      rw [hrun] at he
      rcases (hnext a).fails b hb e he with hother | ⟨s, hs, hrefuses⟩
      · exact .inl hother
      · exact .inr ⟨s, List.mem_append_right _ hs, hrefuses⟩

theorem map {steps : B → List S} {run : B → Except ε α}
    (h : Depends asks refuses unrelated blank steps run) (f : α → β) :
    Depends asks refuses unrelated blank steps fun b => f <$> run b where
  blind := by
    intro hquiet b b'
    rw [h.blind hquiet b b']
  asked := by
    intro s hs e hasks
    rw [h.asked s hs e hasks]
    rfl
  refused := by
    intro b hb s hs e hrefuses
    rw [h.refused b hb s hs e hrefuses]
    rfl
  fails := fun b hb => (h.fails b hb).map f

theorem same_iff {steps : B → List S} {run : B → Except ε α}
    (h : Depends asks refuses unrelated blank steps run)
    (hasks : ∀ s e, asks s e → ¬ unrelated e) :
    (∀ b b', run b = run b') ↔
      (∀ s ∈ steps blank, ∀ e, ¬ asks s e) ∨
        ∃ e, (∃ s ∈ steps blank, asks s e) ∧ ∀ b, b ≠ blank → ∃ s ∈ steps b, refuses s e := by
  constructor
  · intro hsame
    by_cases hquiet : ∀ s ∈ steps blank, ∀ e, ¬ asks s e
    · exact .inl hquiet
    · push Not at hquiet
      obtain ⟨s, hs, e, hse⟩ := hquiet
      refine .inr ⟨e, ⟨s, hs, hse⟩, ?_⟩
      intro b hb
      have hrun := (hsame b blank).trans (h.asked s hs e hse)
      exact (h.fails b hb e hrun).resolve_left (hasks s e hse)
  · rintro (hquiet | ⟨e, ⟨s, hs, hse⟩, hrefused⟩)
    · exact h.blind hquiet
    · have herror : ∀ b, run b = .error e := by
        intro b
        by_cases hb : b = blank
        · rw [hb]
          exact h.asked s hs e hse
        · obtain ⟨t, ht, hte⟩ := hrefused b hb
          exact h.refused b hb t ht e hte
      intro b b'
      rw [herror b, herror b']

end Depends

end OptionalLookup
