import Mathlib.Data.List.Basic

-- Texts that carry a text inside: opened reads the outermost layer of one, inner
-- is the text that layer carries on.
structure Envelope (M L : Type) where
  opened : M → Option L
  inner : L → M
  shrinks : ∃ size : M → Nat, ∀ m l, opened m = some l → size (inner l) < size m

namespace Envelope

variable {M L : Type} (E : Envelope M L)

def unwrap (m : M) : List L :=
  match _h : E.opened m with
  | none => []
  | some l => l :: unwrap (E.inner l)
termination_by E.shrinks.choose m
decreasing_by exact E.shrinks.choose_spec m l ‹_›

variable {E}

theorem unwrap_closed {m : M} (h : E.opened m = none) : E.unwrap m = [] := by
  rw [unwrap]
  split
  · rfl
  · rename_i l hl
    exact absurd (h.symm.trans hl) nofun

theorem unwrap_opened {m : M} {l : L} (h : E.opened m = some l) :
    E.unwrap m = l :: E.unwrap (E.inner l) := by
  rw [unwrap]
  split
  · rename_i hn
    exact absurd (h.symm.trans hn) nofun
  · rename_i l' hl
    rw [Option.some_inj.mp (h.symm.trans hl)]

end Envelope
