import Mathlib.Data.List.Basic

-- A run that records events and may stop with an error; what it recorded stays.
structure Logged (ω ε α : Type) where
  log : List ω
  outcome : Except ε α

namespace Logged

variable {ω ε α β : Type}

instance : Monad (Logged ω ε) where
  pure a := ⟨[], .ok a⟩
  bind r f :=
    match r.outcome with
    | .ok a => ⟨r.log ++ (f a).log, (f a).outcome⟩
    | .error e => ⟨r.log, .error e⟩

def lift (x : Except ε α) : Logged ω ε α := ⟨[], x⟩

def record (w : ω) : Logged ω ε Unit := ⟨[w], .ok ()⟩

-- try { r } catch (error) { throw f(error) }
def mapError (f : ε → ε) (r : Logged ω ε α) : Logged ω ε α := ⟨r.log, r.outcome.mapError f⟩

def Always (P : ω → Prop) (r : Logged ω ε α) : Prop := ∀ w ∈ r.log, P w

variable {P : ω → Prop}

@[simp] theorem log_pure (a : α) : (pure a : Logged ω ε α).log = [] := rfl

@[simp] theorem lift_ok_bind (a : α) (f : α → Logged ω ε β) : (lift (.ok a) >>= f) = f a := rfl

@[simp] theorem log_lift (x : Except ε α) : (lift x : Logged ω ε α).log = [] := rfl

@[simp] theorem log_mapError (f : ε → ε) (r : Logged ω ε α) : (mapError f r).log = r.log := rfl

theorem log_lift_ok_bind (a : α) (f : α → Logged ω ε β) : (lift (.ok a) >>= f).log = (f a).log := rfl

theorem log_lift_error_bind (e : ε) (f : α → Logged ω ε β) :
    (lift (.error e) >>= f).log = [] := rfl

theorem outcome_bind (r : Logged ω ε α) (f : α → Logged ω ε β) :
    (r >>= f).outcome = r.outcome >>= fun a => (f a).outcome := by
  obtain ⟨log, outcome⟩ := r
  cases outcome <;> rfl

theorem outcome_lift_bind (x : Except ε α) (f : α → Logged ω ε β) :
    (lift x >>= f).outcome = x >>= fun a => (f a).outcome := outcome_bind (lift x) f

theorem outcome_record_bind (w : ω) (f : Unit → Logged ω ε β) :
    (record w >>= f).outcome = (f ()).outcome := outcome_bind (record w) f

theorem log_record_bind (w : ω) (f : Unit → Logged ω ε β) :
    (record w >>= f).log = w :: (f ()).log := rfl

@[simp] theorem always_pure (a : α) : Always P (pure a : Logged ω ε α) :=
  List.forall_mem_nil P

@[simp] theorem always_lift (x : Except ε α) : Always P (lift x : Logged ω ε α) :=
  List.forall_mem_nil P

@[simp] theorem always_record (w : ω) : Always P (record w : Logged ω ε Unit) ↔ P w :=
  List.forall_mem_singleton

theorem always_bind {r : Logged ω ε α} {f : α → Logged ω ε β} :
    Always P (r >>= f) ↔ Always P r ∧ ∀ a, r.outcome = .ok a → Always P (f a) := by
  obtain ⟨log, outcome⟩ := r
  cases outcome with
  | ok a =>
    change (∀ w ∈ log ++ (f a).log, P w) ↔ _
    rw [List.forall_mem_append]
    constructor
    · rintro ⟨hlog, hnext⟩
      refine ⟨hlog, ?_⟩
      rintro b hb
      cases hb
      exact hnext
    · rintro ⟨hlog, hnext⟩
      exact ⟨hlog, hnext a rfl⟩
  | error e =>
    change (∀ w ∈ log, P w) ↔ _
    constructor
    · intro hlog
      refine ⟨hlog, ?_⟩
      rintro b hb
      cases hb
    · exact fun h => h.1

theorem always_lift_bind {x : Except ε α} {f : α → Logged ω ε β} :
    Always P (lift x >>= f) ↔ ∀ a, x = .ok a → Always P (f a) := by
  rw [always_bind]
  exact and_iff_right (always_lift x)

theorem always_record_bind {w : ω} {f : Unit → Logged ω ε β} :
    Always P (record w >>= f) ↔ P w ∧ Always P (f ()) := by
  rw [always_bind, always_record]
  constructor
  · rintro ⟨hw, hnext⟩
    exact ⟨hw, hnext () rfl⟩
  · rintro ⟨hw, hnext⟩
    exact ⟨hw, fun _ _ => hnext⟩

end Logged
