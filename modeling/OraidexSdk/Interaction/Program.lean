import Mathlib.Logic.Basic
import Mathlib.Data.List.Basic

namespace Interaction

structure Interface where
  Request : Type
  Answer : Request → Type

structure Event (I : Interface) (ε : Type) where
  request : I.Request
  answer : Except ε (I.Answer request)

inductive Program (I : Interface) (ε α : Type) : Type where
  | done (outcome : Except ε α)
  | ask (request : I.Request) (next : Except ε (I.Answer request) → Program I ε α)

namespace Program

variable {I : Interface} {ε α β : Type}

def bind : Program I ε α → (α → Program I ε β) → Program I ε β
  | done (.ok a), f => f a
  | done (.error e), _ => done (.error e)
  | ask request next, f => ask request fun answer => (next answer).bind f

instance : Monad (Program I ε) where
  pure a := done (.ok a)
  bind := bind

def lift (x : Except ε α) : Program I ε α := done x

@[simp] theorem lift_ok_bind (a : α) (f : α → Program I ε β) :
    (lift (.ok a) : Program I ε α) >>= f = f a := rfl

def request (request : I.Request) : Program I ε (I.Answer request) := ask request done

-- try { program } catch (error) { handler(error) }
def rescue : Program I ε α → (ε → Program I ε α) → Program I ε α
  | done (.ok a), _ => done (.ok a)
  | done (.error e), handler => handler e
  | ask request next, handler => ask request fun answer => (next answer).rescue handler

inductive Runs : Program I ε α → List (Event I ε) → Except ε α → Prop where
  | done (outcome : Except ε α) : Runs (done outcome) [] outcome
  | ask {request : I.Request} {next : Except ε (I.Answer request) → Program I ε α}
      (answer : Except ε (I.Answer request)) {trace : List (Event I ε)} {outcome : Except ε α}
      (rest : Runs (next answer) trace outcome) :
      Runs (ask request next) (⟨request, answer⟩ :: trace) outcome

def run (answers : ∀ request : I.Request, Except ε (I.Answer request)) :
    Program I ε α → List (Event I ε) × Except ε α
  | done outcome => ([], outcome)
  | ask request next =>
    let (trace, outcome) := (next (answers request)).run answers
    (⟨request, answers request⟩ :: trace, outcome)

theorem runs_run (answers : ∀ request : I.Request, Except ε (I.Answer request))
    (p : Program I ε α) : Runs p (p.run answers).1 (p.run answers).2 := by
  induction p with
  | done outcome => exact .done outcome
  | ask request next ih => exact .ask (answers request) (ih (answers request))

section Run

variable (answers : ∀ request : I.Request, Except ε (I.Answer request))

theorem run_bind (p : Program I ε α) (f : α → Program I ε β) :
    ((p >>= f).run answers).2 = (p.run answers).2 >>= fun a => ((f a).run answers).2 := by
  change ((p.bind f).run answers).2 = _
  induction p with
  | done x => cases x <;> rfl
  | ask request next ih => exact ih (answers request)

theorem run_rescue (p : Program I ε α) (handler : ε → Program I ε α) :
    ((p.rescue handler).run answers).2 =
      match (p.run answers).2 with
      | .ok a => .ok a
      | .error e => ((handler e).run answers).2 := by
  induction p with
  | done x => cases x <;> rfl
  | ask request next ih => exact ih (answers request)

end Run

@[simp] theorem runs_done_iff {x outcome : Except ε α} {trace : List (Event I ε)} :
    Runs (done x) trace outcome ↔ trace = [] ∧ outcome = x := by
  constructor
  · intro h
    cases h
    exact ⟨rfl, rfl⟩
  · rintro ⟨rfl, rfl⟩
    exact .done outcome

@[simp] theorem runs_lift_iff {x outcome : Except ε α} {trace : List (Event I ε)} :
    Runs (lift x) trace outcome ↔ trace = [] ∧ outcome = x := runs_done_iff

@[simp] theorem runs_pure_iff {a : α} {outcome : Except ε α} {trace : List (Event I ε)} :
    Runs (pure a) trace outcome ↔ trace = [] ∧ outcome = .ok a := runs_done_iff

theorem runs_ask_iff {request : I.Request} {next : Except ε (I.Answer request) → Program I ε α}
    {trace : List (Event I ε)} {outcome : Except ε α} :
    Runs (ask request next) trace outcome ↔
      ∃ answer rest, trace = ⟨request, answer⟩ :: rest ∧ Runs (next answer) rest outcome := by
  constructor
  · intro h
    cases h with
    | ask answer rest => exact ⟨answer, _, rfl, rest⟩
  · rintro ⟨answer, rest, rfl, h⟩
    exact .ask answer h

@[simp] theorem runs_request_iff {request : I.Request} {trace : List (Event I ε)}
    {outcome : Except ε (I.Answer request)} :
    Runs (Program.request request) trace outcome ↔ trace = [⟨request, outcome⟩] := by
  rw [Program.request, runs_ask_iff]
  constructor
  · rintro ⟨answer, rest, rfl, h⟩
    obtain ⟨rfl, rfl⟩ := runs_done_iff.mp h
    rfl
  · rintro rfl
    exact ⟨outcome, [], rfl, .done outcome⟩

theorem runs_bind_iff {p : Program I ε α} {f : α → Program I ε β} {trace : List (Event I ε)}
    {outcome : Except ε β} :
    Runs (p >>= f) trace outcome ↔
      (∃ e, Runs p trace (.error e) ∧ outcome = .error e) ∨
      ∃ a first second, trace = first ++ second ∧ Runs p first (.ok a) ∧
        Runs (f a) second outcome := by
  change Runs (p.bind f) trace outcome ↔ _
  induction p generalizing trace with
  | done x =>
    cases x with
    | error e => simp [bind]
    | ok a => simp [bind]
  | ask request next ih =>
    rw [bind, runs_ask_iff]
    constructor
    · rintro ⟨answer, rest, rfl, h⟩
      rcases (ih answer).mp h with ⟨e, he, rfl⟩ | ⟨a, first, second, rfl, hfirst, hsecond⟩
      · exact .inl ⟨e, .ask answer he, rfl⟩
      · exact .inr ⟨a, ⟨request, answer⟩ :: first, second, rfl, .ask answer hfirst, hsecond⟩
    · rintro (⟨e, he, rfl⟩ | ⟨a, first, second, rfl, hfirst, hsecond⟩)
      · obtain ⟨answer, rest, rfl, h⟩ := runs_ask_iff.mp he
        exact ⟨answer, rest, rfl, (ih answer).mpr (.inl ⟨e, h, rfl⟩)⟩
      · obtain ⟨answer, rest, rfl, h⟩ := runs_ask_iff.mp hfirst
        exact ⟨answer, rest ++ second, rfl, (ih answer).mpr (.inr ⟨a, rest, second, rfl, h, hsecond⟩)⟩

theorem runs_map_iff {p : Program I ε α} {g : α → β} {trace : List (Event I ε)}
    {outcome : Except ε β} :
    Runs (g <$> p) trace outcome ↔ ∃ x, Runs p trace x ∧ outcome = g <$> x := by
  change Runs (p >>= fun a => pure (g a)) trace outcome ↔ _
  rw [runs_bind_iff]
  constructor
  · rintro (⟨e, hrun, rfl⟩ | ⟨a, first, second, rfl, hrun, hpure⟩)
    · exact ⟨.error e, hrun, rfl⟩
    · obtain ⟨rfl, rfl⟩ := runs_pure_iff.mp hpure
      rw [List.append_nil]
      exact ⟨.ok a, hrun, rfl⟩
  · rintro ⟨e | a, hrun, rfl⟩
    · exact .inl ⟨e, hrun, rfl⟩
    · exact .inr ⟨a, trace, [], (List.append_nil _).symm, hrun, .done _⟩

theorem runs_rescue_iff {p : Program I ε α} {handler : ε → Program I ε α}
    {trace : List (Event I ε)} {outcome : Except ε α} :
    Runs (p.rescue handler) trace outcome ↔
      (∃ a, Runs p trace (.ok a) ∧ outcome = .ok a) ∨
      ∃ e first second, trace = first ++ second ∧ Runs p first (.error e) ∧
        Runs (handler e) second outcome := by
  induction p generalizing trace with
  | done x =>
    cases x with
    | error e => simp [rescue]
    | ok a => simp [rescue]
  | ask request next ih =>
    rw [rescue, runs_ask_iff]
    constructor
    · rintro ⟨answer, rest, rfl, h⟩
      rcases (ih answer).mp h with ⟨a, ha, rfl⟩ | ⟨e, first, second, rfl, hfirst, hsecond⟩
      · exact .inl ⟨a, .ask answer ha, rfl⟩
      · exact .inr ⟨e, ⟨request, answer⟩ :: first, second, rfl, .ask answer hfirst, hsecond⟩
    · rintro (⟨a, ha, rfl⟩ | ⟨e, first, second, rfl, hfirst, hsecond⟩)
      · obtain ⟨answer, rest, rfl, h⟩ := runs_ask_iff.mp ha
        exact ⟨answer, rest, rfl, (ih answer).mpr (.inl ⟨a, h, rfl⟩)⟩
      · obtain ⟨answer, rest, rfl, h⟩ := runs_ask_iff.mp hfirst
        exact ⟨answer, rest ++ second, rfl, (ih answer).mpr (.inr ⟨e, rest, second, rfl, h, hsecond⟩)⟩

theorem runs_bind_ok_iff {p : Program I ε α} {f : α → Program I ε β} {trace : List (Event I ε)}
    {b : β} :
    Runs (p >>= f) trace (.ok b) ↔ ∃ a first second, trace = first ++ second ∧
      Runs p first (.ok a) ∧ Runs (f a) second (.ok b) := by
  rw [runs_bind_iff, or_iff_right]
  rintro ⟨e, -, h⟩
  cases h

theorem runs_lift_bind_ok_iff {x : Except ε α} {f : α → Program I ε β} {trace : List (Event I ε)}
    {b : β} : Runs (lift x >>= f) trace (.ok b) ↔ ∃ a, x = .ok a ∧ Runs (f a) trace (.ok b) := by
  rw [runs_bind_ok_iff]
  constructor
  · rintro ⟨a, first, second, rfl, hlift, hrun⟩
    obtain ⟨rfl, hx⟩ := runs_lift_iff.mp hlift
    exact ⟨a, hx.symm, hrun⟩
  · rintro ⟨a, rfl, hrun⟩
    exact ⟨a, [], trace, rfl, runs_lift_iff.mpr ⟨rfl, rfl⟩, hrun⟩

theorem runs_request_bind_ok_iff {request : I.Request} {f : I.Answer request → Program I ε β}
    {trace : List (Event I ε)} {b : β} :
    Runs (Program.request request >>= f) trace (.ok b) ↔
      ∃ a rest, trace = ⟨request, .ok a⟩ :: rest ∧ Runs (f a) rest (.ok b) := by
  rw [runs_bind_ok_iff]
  constructor
  · rintro ⟨a, first, second, rfl, hrequest, hrun⟩
    obtain rfl := runs_request_iff.mp hrequest
    exact ⟨a, second, rfl, hrun⟩
  · rintro ⟨a, rest, rfl, hrun⟩
    exact ⟨a, [_], rest, rfl, runs_request_iff.mpr rfl, hrun⟩

end Program

end Interaction
