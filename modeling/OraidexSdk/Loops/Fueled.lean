import Mathlib.Data.List.Basic

-- A run that may not end: with enough fuel it has its result, and keeps it with more.
structure Fueled (ε α : Type) where
  run : Nat → Option (Except ε α)
  run_succ : ∀ n r, run n = some r → run (n + 1) = some r

namespace Fueled

variable {ε α β σ : Type}

def lift (x : Except ε α) : Fueled ε α := ⟨fun _ => some x, fun _ _ h => h⟩

def bindRun (x : Fueled ε α) (f : α → Fueled ε β) (n : Nat) : Option (Except ε β) :=
  match x.run n with
  | none => none
  | some (.error e) => some (.error e)
  | some (.ok a) => (f a).run n

theorem bindRun_succ (x : Fueled ε α) (f : α → Fueled ε β) (n : Nat) (r : Except ε β)
    (h : bindRun x f n = some r) : bindRun x f (n + 1) = some r := by
  unfold bindRun at h ⊢
  cases hx : x.run n with
  | none =>
    rw [hx] at h
    cases h
  | some result =>
    rw [hx] at h
    rw [x.run_succ n result hx]
    cases result with
    | error e => exact h
    | ok a => exact (f a).run_succ n r h

instance : Monad (Fueled ε) where
  pure a := lift (.ok a)
  bind x f := ⟨bindRun x f, bindRun_succ x f⟩

-- while (true), where a round ends with the next state or with the result.
def loopRun (body : σ → Except ε (σ ⊕ β)) : Nat → σ → Option (Except ε β)
  | 0, _ => none
  | n + 1, s =>
    match body s with
    | .error e => some (.error e)
    | .ok (.inr b) => some (.ok b)
    | .ok (.inl t) => loopRun body n t

section Round

variable {body : σ → Except ε (σ ⊕ β)} {s t : σ}

theorem loopRun_error {e : ε} (h : body s = .error e) (n : Nat) :
    loopRun body (n + 1) s = some (.error e) := by
  rw [loopRun, h]

theorem loopRun_done {b : β} (h : body s = .ok (.inr b)) (n : Nat) :
    loopRun body (n + 1) s = some (.ok b) := by
  rw [loopRun, h]

theorem loopRun_next (h : body s = .ok (.inl t)) (n : Nat) :
    loopRun body (n + 1) s = loopRun body n t := by
  rw [loopRun, h]

theorem loopRun_succ (body : σ → Except ε (σ ⊕ β)) (s : σ) (n : Nat) (r : Except ε β)
    (h : loopRun body n s = some r) : loopRun body (n + 1) s = some r := by
  induction n generalizing s with
  | zero => cases h
  | succ n ih =>
    cases hbody : body s with
    | error e =>
      rw [loopRun_error hbody] at h ⊢
      exact h
    | ok next =>
      cases next with
      | inr b =>
        rw [loopRun_done hbody] at h ⊢
        exact h
      | inl t =>
        rw [loopRun_next hbody] at h ⊢
        exact ih t h

end Round

def loop (body : σ → Except ε (σ ⊕ β)) (s : σ) : Fueled ε β :=
  ⟨fun n => loopRun body n s, loopRun_succ body s⟩

def Ends (x : Fueled ε α) (r : Except ε α) : Prop := ∃ n, x.run n = some r

def Terminates (x : Fueled ε α) : Prop := ∃ r, Ends x r

theorem run_of_le {x : Fueled ε α} {r : Except ε α} {m n : Nat} (hmn : m ≤ n)
    (h : x.run m = some r) : x.run n = some r := by
  induction hmn with
  | refl => exact h
  | step _ ih => exact x.run_succ _ r ih

theorem ends_bind {x : Fueled ε α} {f : α → Fueled ε β} {a : α} {r : Except ε β}
    (hx : Ends x (.ok a)) (hf : Ends (f a) r) : Ends (x >>= f) r := by
  obtain ⟨m, hm⟩ := hx
  obtain ⟨n, hn⟩ := hf
  refine ⟨max m n, ?_⟩
  change bindRun x f (max m n) = some r
  rw [bindRun, run_of_le (Nat.le_max_left m n) hm]
  exact run_of_le (Nat.le_max_right m n) hn

theorem ends_lift_bind_iff {a : α} {f : α → Fueled ε β} {r : Except ε β} :
    Ends (lift (.ok a) >>= f) r ↔ Ends (f a) r := Iff.rfl

section Loop

variable {body : σ → Except ε (σ ⊕ β)} {s t : σ}

theorem ends_of_error {e : ε} (h : body s = .error e) : Ends (loop body s) (.error e) :=
  ⟨1, loopRun_error h 0⟩

theorem ends_of_done {b : β} (h : body s = .ok (.inr b)) : Ends (loop body s) (.ok b) :=
  ⟨1, loopRun_done h 0⟩

theorem ends_of_next (h : body s = .ok (.inl t)) {r : Except ε β} (ht : Ends (loop body t) r) :
    Ends (loop body s) r := by
  obtain ⟨n, hn⟩ := ht
  exact ⟨n + 1, (loopRun_next h n).trans hn⟩

theorem ends_of_invariant {I : σ → Prop} {b : β} (measure : σ → Nat)
    (hbody : ∀ s, I s → body s = .ok (.inr b) ∨
      ∃ t, body s = .ok (.inl t) ∧ I t ∧ measure t < measure s)
    (hs : I s) : Ends (loop body s) (.ok b) := by
  induction hm : measure s using Nat.strongRecOn generalizing s with
  | _ m ih =>
    rcases hbody s hs with hdone | ⟨t, hnext, ht, hlt⟩
    · exact ends_of_done hdone
    · exact ends_of_next hnext (ih (measure t) (hm ▸ hlt) ht rfl)

variable (orbit : Nat → σ)

theorem ends_of_orbit {k : Nat} (horbit : ∀ i < k, body (orbit i) = .ok (.inl (orbit (i + 1))))
    {r : Except ε β} (hk : Ends (loop body (orbit k)) r) : Ends (loop body (orbit 0)) r := by
  induction k with
  | zero => exact hk
  | succ k ih =>
    exact ih (fun i hi => horbit i (Nat.lt_succ_of_lt hi))
      (ends_of_next (horbit k (Nat.lt_succ_self k)) hk)

theorem not_terminates_of_orbit (horbit : ∀ i, body (orbit i) = .ok (.inl (orbit (i + 1)))) :
    ¬ Terminates (loop body (orbit 0)) := by
  have hnone : ∀ n i, loopRun body n (orbit i) = none := by
    intro n
    induction n with
    | zero => exact fun i => rfl
    | succ n ih => exact fun i => (loopRun_next (horbit i) n).trans (ih (i + 1))
  rintro ⟨r, n, hn⟩
  rw [show (loop body (orbit 0)).run n = none from hnone n 0] at hn
  cases hn

end Loop

end Fueled
