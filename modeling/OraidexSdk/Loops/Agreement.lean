import OraidexSdk.Loops.Outcome

namespace Outcome

variable {ε α β γ δ : Type}

inductive Agree (R : α → β → Prop) : Except ε α → Except ε β → Prop where
  | ok {a : α} {b : β} (related : R a b) : Agree R (.ok a) (.ok b)
  | error (e e' : ε) : Agree R (.error e) (.error e')

namespace Agree

variable {R : α → β → Prop} {S : γ → δ → Prop} {x : Except ε α} {y : Except ε β}

theorem refl (x : Except ε α) : Agree Eq x x := by
  cases x with
  | error e => exact .error e e
  | ok a => exact .ok rfl

theorem bind {f : α → Except ε γ} {g : β → Except ε δ} (h : Agree R x y)
    (hnext : ∀ a b, R a b → Agree S (f a) (g b)) : Agree S (x >>= f) (y >>= g) := by
  cases h with
  | ok related => exact hnext _ _ related
  | error e e' => exact .error e e'

theorem map {f : α → γ} {g : β → δ} (h : Agree R x y) (hnext : ∀ a b, R a b → S (f a) (g b)) :
    Agree S (f <$> x) (g <$> y) := by
  cases h with
  | ok related => exact .ok (hnext _ _ related)
  | error e e' => exact .error e e'

theorem ok_of_left {a : α} (h : Agree R x y) (hx : x = .ok a) : ∃ b, y = .ok b ∧ R a b := by
  cases h with
  | ok related =>
    cases hx
    exact ⟨_, rfl, related⟩
  | error e e' => cases hx

end Agree

end Outcome
