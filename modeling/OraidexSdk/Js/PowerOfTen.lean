import OraidexSdk.Js.Rendering

namespace Js
open DigitText DecimalLiteral ScaledInteger

namespace DecimalNumber

-- The exponents at which V8 writes 10 ** e with the digits 1.0000000000000001.
def tenPowAbove : List Int :=
  [-307, -303, -278, -268, -246, -207, -163, -148, -145, -106, -104, -88, -76, -57, -39, -29, -24,
   -23, -21, -20, 29, 34, 39, 49, 58, 61, 111, 126, 165, 166, 169, 187, 210, 215, 225, 273, 274,
   275]

-- The exponents at which V8 writes 10 ** e with the digits 9.999999999999999.
def tenPowBelow : List Int :=
  [-306, -222, -166, -138, -128, -122, -111, -101, -63, -32, -17, -5, -4, 26, 36, 42, 70, 95, 96,
   136, 142, 191, 218, 232, 242, 244, 260, 279, 284, 290, 294]

-- 10 ** e up to the overflow; it underflows to zero.
def tenPow (e : Int) : DecimalNumber :=
  if e < -323 then ⟨0, 0⟩
  else if e ∈ tenPowAbove then shifted (10000000000000001 : Nat) (e - 16)
  else if e ∈ tenPowBelow then shifted (9999999999999999 : Nat) (e - 16)
  else shifted (1 : Nat) e

def tenPowDigits (e : Int) : List Char :=
  if e ∈ tenPowAbove then "10000000000000001".toList
  else if e ∈ tenPowBelow then "9999999999999999".toList
  else ['1']

def tenPowText (e : Int) : List Char := if 308 < e then "Infinity".toList else (tenPow e).text

variable {e : Int}

theorem above_range : ∀ e ∈ tenPowAbove, -307 ≤ e ∧ e ≤ -20 ∨ 29 ≤ e ∧ e ≤ 275 := by decide

theorem below_range : ∀ e ∈ tenPowBelow,
    -306 ≤ e ∧ e ≤ -17 ∨ e = -5 ∨ e = -4 ∨ 26 ≤ e ∧ e ≤ 294 := by decide

theorem not_above_of_below : ∀ e ∈ tenPowBelow, e ∉ tenPowAbove := by decide

theorem tenPow_above (h : e ∈ tenPowAbove) :
    tenPow e = shifted (10000000000000001 : Nat) (e - 16) := by
  have hrange := above_range e h
  rw [tenPow, if_neg (by omega), if_pos h]

theorem tenPow_below (h : e ∈ tenPowBelow) :
    tenPow e = shifted (9999999999999999 : Nat) (e - 16) := by
  have hrange := below_range e h
  rw [tenPow, if_neg (by omega), if_neg (not_above_of_below e h), if_pos h]

theorem tenPow_exact (hlow : -323 ≤ e) (habove : e ∉ tenPowAbove) (hbelow : e ∉ tenPowBelow) :
    tenPow e = shifted (1 : Nat) e := by
  rw [tenPow, if_neg (by omega), if_neg habove, if_neg hbelow]

theorem tenPow_nonneg (e : Int) : 0 ≤ (tenPow e).numerator := by
  rw [tenPow]
  split
  · exact le_rfl
  · split
    · exact shifted_nonneg (by decide) _
    · split <;> exact shifted_nonneg (by decide) _

theorem tenPow_plain_iff (e : Int) :
    InPlainRange (tenPow e).numerator.natAbs (tenPow e).places ↔ e < -323 ∨ -6 ≤ e ∧ e ≤ 20 := by
  rcases lt_or_ge e (-323) with hlow | hlow
  · rw [tenPow, if_pos hlow]
    exact iff_of_true ⟨by decide, .inl rfl⟩ (.inl hlow)
  by_cases habove : e ∈ tenPowAbove
  · have hlength : (Nat.toDigits 10 10000000000000001).length = 17 := by decide
    have hrange := above_range e habove
    rw [tenPow_above habove, shifted_plain_iff (by decide), hlength]
    omega
  by_cases hbelow : e ∈ tenPowBelow
  · have hlength : (Nat.toDigits 10 9999999999999999).length = 16 := by decide
    have hrange := below_range e hbelow
    rw [tenPow_below hbelow, shifted_plain_iff (by decide), hlength]
    omega
  · have hlength : (Nat.toDigits 10 1).length = 1 := by decide
    rw [tenPow_exact hlow habove hbelow, shifted_plain_iff (by decide), hlength]
    omega

theorem tenPow_stripped (hlow : -323 ≤ e) :
    stripZeros (Nat.toDigits 10 (tenPow e).numerator.natAbs) = tenPowDigits e := by
  rw [tenPowDigits]
  split
  · rw [tenPow_above ‹_›, shifted_stripped (by decide)]
    decide
  · split
    · rw [tenPow_below ‹_›, shifted_stripped (by decide)]
      decide
    · rw [tenPow_exact hlow ‹_› ‹_›, shifted_stripped (by decide)]
      decide

end DecimalNumber

end Js
