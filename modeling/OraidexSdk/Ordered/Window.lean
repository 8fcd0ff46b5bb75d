import Mathlib.Data.List.Nodup

namespace Window

variable {α : Type}

def window (xs : List α) (start count : Nat) : List α := (xs.drop start).take count

theorem length_window {xs : List α} {start count : Nat} (h : start + count ≤ xs.length) :
    (window xs start count).length = count := by
  rw [window, List.length_take, List.length_drop]
  omega

theorem drop_take (xs : List α) (first last : Nat) :
    (xs.take last).drop first = window xs first (last - first) := by
  rw [window, List.drop_take]

theorem window_congr (xs : List α) {a b k l : Nat} (hcount : k = l) (hstart : k = 0 ∨ a = b) :
    window xs a k = window xs b l := by
  subst hcount
  rcases hstart with rfl | rfl
  · simp [window]
  · rfl

theorem window_eq_iff {xs : List α} (hxs : xs.Nodup) {a b k l : Nat} (ha : a + k ≤ xs.length)
    (hb : b + l ≤ xs.length) : window xs a k = window xs b l ↔ k = l ∧ (k = 0 ∨ a = b) := by
  constructor
  · intro h
    have hlength := congrArg List.length h
    rw [length_window ha, length_window hb] at hlength
    refine ⟨hlength, (Nat.eq_zero_or_pos k).imp_right fun hpos => ?_⟩
    have hhead := congrArg (fun ys => ys[0]?) h
    simp only [window, List.getElem?_take_of_lt hpos, List.getElem?_take_of_lt (hlength ▸ hpos),
      List.getElem?_drop, Nat.add_zero] at hhead
    have hlt : a < xs.length := by omega
    exact (List.getElem?_inj hlt hxs).mp hhead
  · rintro ⟨hcount, hstart⟩
    exact window_congr xs hcount hstart

end Window
