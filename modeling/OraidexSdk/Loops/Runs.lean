import Mathlib.Data.List.Infix

structure Machine (σ ε ω : Type) where
  start : σ
  step : σ → ε → σ × ω

namespace Machine

variable {σ ε ω : Type} (m : Machine σ ε ω)

def stateAfter (events : List ε) : σ := events.foldl (fun s e => (m.step s e).1) m.start

def output (before : List ε) (e : ε) : ω := (m.step (m.stateAfter before) e).2

def Always (P : List ε → ε → Prop) (events : List ε) : Prop :=
  ∀ before e, before ++ [e] <+: events → P before e

variable {m}

@[simp] theorem stateAfter_nil : m.stateAfter [] = m.start := rfl

@[simp] theorem stateAfter_concat (before : List ε) (e : ε) :
    m.stateAfter (before ++ [e]) = (m.step (m.stateAfter before) e).1 := by
  simp [stateAfter]

theorem Always.mono {P Q : List ε → ε → Prop} {events : List ε} (h : Always P events)
    (hPQ : ∀ before e, P before e → Q before e) : Always Q events :=
  fun before e hbefore => hPQ before e (h before e hbefore)

theorem always_congr {P Q : List ε → ε → Prop} {events : List ε}
    (h : ∀ before e, before ++ [e] <+: events → (P before e ↔ Q before e)) :
    Always P events ↔ Always Q events :=
  forall₂_congr fun before e => forall_congr' fun hbefore => h before e hbefore

theorem always_nil {P : List ε → ε → Prop} : Always P [] := by
  intro before e hbefore
  simp at hbefore

theorem always_concat {P : List ε → ε → Prop} {events : List ε} {e : ε} :
    Always P (events ++ [e]) ↔ Always P events ∧ P events e := by
  constructor
  · intro h
    exact ⟨fun before e' hbefore => h before e' (hbefore.trans (List.prefix_append events [e])),
      h events e (List.prefix_refl _)⟩
  · rintro ⟨hevents, he⟩ before e' hbefore
    rcases List.prefix_concat_iff.mp hbefore with heq | hshort
    · obtain ⟨rfl, hlast⟩ := List.append_inj' heq rfl
      rw [List.cons.injEq] at hlast
      exact hlast.1 ▸ he
    · exact hevents before e' hshort

theorem invariant {I : List ε → σ → Prop} {events : List ε} (hstart : I [] m.start)
    (hstep : ∀ before e s, before ++ [e] <+: events → I before s →
      I (before ++ [e]) (m.step s e).1) :
    ∀ before, before <+: events → I before (m.stateAfter before) := by
  intro before
  induction before using List.reverseRecOn with
  | nil => exact fun _ => hstart
  | append_singleton before e ih =>
    intro hbefore
    rw [stateAfter_concat]
    exact hstep before e _ hbefore (ih ((List.prefix_append before [e]).trans hbefore))

end Machine
