import Mathlib.Data.List.Basic
import OraidexSdk.Loops.Fueled
import OraidexSdk.Loops.Outcome

namespace Wire

structure Reader where
  buf : List UInt8
  pos : Nat
deriving DecidableEq, Repr

namespace Reader

def unread (r : Reader) : List UInt8 := r.buf.drop r.pos

def advance (r : Reader) (n : Nat) : Reader := ⟨r.buf, r.pos + n⟩

@[simp] theorem advance_buf (r : Reader) (n : Nat) : (r.advance n).buf = r.buf := rfl

@[simp] theorem advance_pos (r : Reader) (n : Nat) : (r.advance n).pos = r.pos + n := rfl

@[simp] theorem advance_advance (r : Reader) (m n : Nat) :
    (r.advance m).advance n = r.advance (m + n) := by
  simp [advance, Nat.add_assoc]

theorem prefix_advance {r : Reader} {front rest : List UInt8} (h : front ++ rest <+: r.unread) :
    rest <+: (r.advance front.length).unread := by
  obtain ⟨tail, htail⟩ := h
  refine ⟨tail, ?_⟩
  have hdrop : (r.advance front.length).unread = r.unread.drop front.length := by
    simp [unread, List.drop_drop]
  rw [hdrop, ← htail, List.append_assoc, List.drop_left]

end Reader

-- A step of a reader gives a value and where it stands, or throws.
abbrev Read (ε : Type) : Type → Type := StateT Reader (Except ε)

variable {ε α β σ : Type}

namespace Read

theorem run_bind (x : Read ε α) (f : α → Read ε β) (r : Reader) :
    (x >>= f).run r = x.run r >>= fun result => (f result.1).run result.2 := rfl

theorem run_pure (a : α) (r : Reader) : (pure a : Read ε α).run r = .ok (a, r) := rfl

theorem run_throw (e : ε) (r : Reader) : (throw e : Read ε α).run r = .error e := rfl

def Takes (read : Read ε α) (bytes : List UInt8) (result : Except ε α) : Prop :=
  ∀ r : Reader, bytes <+: r.unread → read.run r = (fun a => (a, r.advance bytes.length)) <$> result

def Forward (read : Read ε α) : Prop :=
  ∀ (r : Reader) a r', read.run r = .ok (a, r') → r'.buf = r.buf ∧ r.pos ≤ r'.pos

def Progress (read : Read ε α) : Prop :=
  ∀ (r : Reader) a r', read.run r = .ok (a, r') →
    r'.buf = r.buf ∧ r.pos < r'.pos ∧ r'.pos ≤ r.buf.length

theorem Progress.forward {read : Read ε α} (h : Progress read) : Forward read := by
  intro r a r' hread
  obtain ⟨hbuf, hlt, -⟩ := h r a r' hread
  exact ⟨hbuf, Nat.le_of_lt hlt⟩

theorem forward_pure (a : α) : Forward (pure a : Read ε α) := by
  intro r b r' h
  cases h
  exact ⟨rfl, Nat.le_refl _⟩

theorem forward_throw (e : ε) : Forward (throw e : Read ε α) := by
  intro r b r' h
  cases h

theorem forward_lift (x : Except ε α) : Forward (StateT.lift x : Read ε α) := by
  intro r a r' h
  obtain ⟨b, -, hb⟩ := Outcome.bind_eq_ok.mp h
  cases hb
  exact ⟨rfl, Nat.le_refl _⟩

theorem Forward.bind {x : Read ε α} {f : α → Read ε β} (hx : Forward x) (hf : ∀ a, Forward (f a)) :
    Forward (x >>= f) := by
  intro r b r' h
  rw [run_bind] at h
  obtain ⟨⟨a, middle⟩, hread, hrest⟩ := Outcome.bind_eq_ok.mp h
  obtain ⟨hbuf, hle⟩ := hx r a middle hread
  obtain ⟨hbuf', hle'⟩ := hf a middle b r' hrest
  exact ⟨hbuf'.trans hbuf, Nat.le_trans hle hle'⟩

theorem takes_bind {x : Read ε α} {f : α → Read ε β} {front rest : List UInt8} {a : α}
    {result : Except ε β} (hx : Takes x front (.ok a)) (hf : Takes (f a) rest result) :
    Takes (x >>= f) (front ++ rest) result := by
  intro r h
  rw [run_bind, hx r ((List.prefix_append front rest).trans h)]
  change (f a).run (r.advance front.length) = _
  rw [hf _ (Reader.prefix_advance h), Reader.advance_advance, List.length_append]

theorem takes_map {x : Read ε α} {bytes : List UInt8} {result : Except ε α} (f : α → β)
    (hx : Takes x bytes result) : Takes (do return f (← x)) bytes (f <$> result) := by
  intro r h
  rw [run_bind, hx r h]
  cases result with
  | error e => rfl
  | ok a => rfl

theorem takes_lift (x : Except ε α) : Takes (StateT.lift x : Read ε α) [] x := by
  intro r _
  cases x with
  | error e => rfl
  | ok a => rfl

theorem ne_nil_of_takes {read : Read ε α} {bytes : List UInt8} {a : α} (hprogress : Progress read)
    (htakes : Takes read bytes (.ok a)) : bytes ≠ [] := by
  rintro rfl
  obtain ⟨-, hlt, -⟩ := hprogress ⟨[], 0⟩ a _ (htakes ⟨[], 0⟩ (List.nil_prefix))
  exact absurd hlt (Nat.lt_irrefl _)

end Read

end Wire
