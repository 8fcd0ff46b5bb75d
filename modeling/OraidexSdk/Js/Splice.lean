import OraidexSdk.Js.Text

namespace Js

variable {α : Type}

-- array.slice(start)
def arraySlice (xs : List α) (start : Int) : List α := xs.drop (relativeIndex xs.length start)

-- What array.splice(start, deleteCount) leaves in the array.
def splice (xs : List α) (start deleteCount : Int) : List α :=
  let actualStart := relativeIndex xs.length start
  let actualDeleteCount := min deleteCount.toNat (xs.length - actualStart)
  xs.take actualStart ++ xs.drop (actualStart + actualDeleteCount)

theorem relativeIndex_le (length : Nat) (i : Int) : relativeIndex length i ≤ length := by
  unfold relativeIndex
  split <;> omega

theorem splice_one (xs : List α) (i : Nat) : splice xs i 1 = xs.eraseIdx i := by
  have hstart : relativeIndex xs.length i = min i xs.length := by simp [relativeIndex]
  simp only [splice, hstart]
  rcases Nat.lt_or_ge i xs.length with hi | hi
  · have hcount : min (1 : Int).toNat (xs.length - i) = 1 := by omega
    rw [Nat.min_eq_left hi.le, hcount, List.eraseIdx_eq_take_drop_succ]
  · rw [Nat.min_eq_right hi, List.eraseIdx_of_length_le hi]
    simp

theorem splice_to_end (xs : List α) {start deleteCount : Int}
    (h : (xs.length : Int) ≤ relativeIndex xs.length start + deleteCount) :
    splice xs start deleteCount = xs.take (relativeIndex xs.length start) := by
  have hend : xs.length ≤ relativeIndex xs.length start +
      min deleteCount.toNat (xs.length - relativeIndex xs.length start) := by omega
  simp only [splice]
  rw [List.drop_of_length_le hend, List.append_nil]

end Js
