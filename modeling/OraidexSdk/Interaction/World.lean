import OraidexSdk.Interaction.Program

namespace Interaction

variable {I : Interface} {ε σ α β : Type}

structure World (I : Interface) (ε σ : Type) where
  Step : σ → Event I ε → σ → Prop

inductive World.Path (w : World I ε σ) : σ → List (Event I ε) → σ → Prop where
  | nil (s : σ) : Path w s [] s
  | cons {s t u : σ} {e : Event I ε} {trace : List (Event I ε)} (step : w.Step s e t)
      (rest : Path w t trace u) : Path w s (e :: trace) u

namespace World

variable {w : World I ε σ} {s u : σ}

theorem path_nil_iff : w.Path s [] u ↔ u = s := by
  constructor
  · intro h
    cases h
    rfl
  · rintro rfl
    exact .nil u

theorem path_cons_iff {e : Event I ε} {trace : List (Event I ε)} :
    w.Path s (e :: trace) u ↔ ∃ t, w.Step s e t ∧ w.Path t trace u := by
  constructor
  · intro h
    cases h with
    | cons step rest => exact ⟨_, step, rest⟩
  · rintro ⟨t, step, rest⟩
    exact .cons step rest

end World

namespace Program

variable (w : World I ε σ)

-- What every run from a state leaves: a weakest precondition.
def Ensures : Program I ε α → (Except ε α → σ → Prop) → σ → Prop
  | done outcome, Q, s => Q outcome s
  | ask request next, Q, s =>
    ∀ answer t, w.Step s ⟨request, answer⟩ t → (next answer).Ensures Q t

def Onward (f : α → Program I ε β) (Q : Except ε β → σ → Prop) : Except ε α → σ → Prop
  | .ok a, s => (f a).Ensures w Q s
  | .error e, s => Q (.error e) s

variable {w} {Q R : Except ε α → σ → Prop} {s : σ}

@[simp] theorem onward_ok {f : α → Program I ε β} {Q : Except ε β → σ → Prop} {a : α} :
    Onward w f Q (.ok a) s ↔ (f a).Ensures w Q s := Iff.rfl

theorem ensures_iff {p : Program I ε α} :
    p.Ensures w Q s ↔
      ∀ trace outcome t, Runs p trace outcome → w.Path s trace t → Q outcome t := by
  induction p generalizing s with
  | done x =>
    constructor
    · intro h trace outcome t hrun hpath
      obtain ⟨rfl, rfl⟩ := runs_done_iff.mp hrun
      rw [World.path_nil_iff.mp hpath]
      exact h
    · exact fun h => h [] x s (.done x) (.nil s)
  | ask request next ih =>
    constructor
    · intro h trace outcome t hrun hpath
      obtain ⟨answer, rest, rfl, hnext⟩ := runs_ask_iff.mp hrun
      obtain ⟨u, hstep, hrest⟩ := World.path_cons_iff.mp hpath
      exact (ih answer).mp (h answer u hstep) rest outcome t hnext hrest
    · intro h answer u hstep
      refine (ih answer).mpr fun trace outcome t hrun hpath => ?_
      exact h _ outcome t (.ask answer hrun) (.cons hstep hpath)

theorem Ensures.mono {p : Program I ε α} (h : p.Ensures w Q s)
    (hQR : ∀ outcome t, Q outcome t → R outcome t) : p.Ensures w R s :=
  ensures_iff.mpr fun trace outcome t hrun hpath =>
    hQR outcome t (ensures_iff.mp h trace outcome t hrun hpath)

@[simp] theorem ensures_pure {a : α} : (pure a : Program I ε α).Ensures w Q s ↔ Q (.ok a) s := Iff.rfl

@[simp] theorem ensures_lift {x : Except ε α} : (lift x : Program I ε α).Ensures w Q s ↔ Q x s :=
  Iff.rfl

theorem ensures_request {request : I.Request} {Q : Except ε (I.Answer request) → σ → Prop} :
    (Program.request request).Ensures w Q s ↔
      ∀ answer t, w.Step s ⟨request, answer⟩ t → Q answer t := Iff.rfl

theorem ensures_bind {p : Program I ε α} {f : α → Program I ε β} {Q : Except ε β → σ → Prop} :
    (p >>= f).Ensures w Q s ↔ p.Ensures w (Onward w f Q) s := by
  change (p.bind f).Ensures w Q s ↔ _
  induction p generalizing s with
  | done x => cases x <;> rfl
  | ask request next ih =>
    constructor
    · exact fun h answer t hstep => (ih answer).mp (h answer t hstep)
    · exact fun h answer t hstep => (ih answer).mpr (h answer t hstep)

theorem ensures_map {p : Program I ε α} {g : α → β} {Q : Except ε β → σ → Prop} :
    (g <$> p).Ensures w Q s ↔ p.Ensures w (fun outcome t => Q (g <$> outcome) t) s := by
  have hpost : Onward w (fun a => (pure (g a) : Program I ε β)) Q =
      fun outcome t => Q (g <$> outcome) t := by
    funext outcome t
    cases outcome <;> rfl
  exact hpost ▸ ensures_bind

def simulate (respond : σ → ∀ request : I.Request, Except ε (I.Answer request) × σ) :
    Program I ε α → σ → List (Event I ε) × Except ε α × σ
  | done outcome, s => ([], outcome, s)
  | ask request next, s =>
    let (answer, t) := respond s request
    let (trace, outcome, u) := (next answer).simulate respond t
    (⟨request, answer⟩ :: trace, outcome, u)

theorem simulate_runs {respond : σ → ∀ request : I.Request, Except ε (I.Answer request) × σ}
    (hrespond : ∀ s request, w.Step s ⟨request, (respond s request).1⟩ (respond s request).2)
    (p : Program I ε α) (s : σ) :
    Runs p (p.simulate respond s).1 (p.simulate respond s).2.1 ∧
      w.Path s (p.simulate respond s).1 (p.simulate respond s).2.2 := by
  induction p generalizing s with
  | done x => exact ⟨.done x, .nil s⟩
  | ask request next ih =>
    obtain ⟨hrun, hpath⟩ := ih (respond s request).1 (respond s request).2
    exact ⟨.ask _ hrun, .cons (hrespond s request) hpath⟩

-- A program is taken apart by the lemmas above only.
attribute [irreducible] Ensures

end Program

end Interaction
