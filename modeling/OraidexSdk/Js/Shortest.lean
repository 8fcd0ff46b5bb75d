import OraidexSdk.Js.Arithmetic
import OraidexSdk.Js.Double
import OraidexSdk.Js.Rendering
import Mathlib.Data.Nat.Prime.Basic
import Mathlib.Data.Rat.Lemmas

namespace Js
open DigitText DecimalLiteral ScaledInteger

namespace Number

-- The number that a double holds of an exact result.
def rounded : Number ℚ → Number ℚ
  | .finite x => .finite (double x)
  | x => x

def trunc : Number ℚ → Number ℚ
  | .finite x => .finite (truncate x)
  | x => x

end Number

namespace DecimalNumber

def dyadic (x : ℚ) : DecimalNumber := ⟨x.num * 5 ^ Nat.log 2 x.den, Nat.log 2 x.den⟩

end DecimalNumber

def nearby (x : ℚ) : List ℤ := [round x, ⌊x⌋, ⌈x⌉]

-- The decimals of at most 17 digits next to x, the shortest first.
def shortDecimals (x : ℚ) : List DecimalNumber :=
  (List.range 17).flatMap fun (k : Nat) =>
    let e := Int.log 10 |x| - k
    (nearby (x / 10 ^ e)).map fun n => .shifted n e

-- The digits of Number::toString: the fewest that are read back as the double x. Every double has 17
-- such digits, so that the exact value is not reached.
def shortest (x : ℚ) : DecimalNumber :=
  ((shortDecimals x).find? fun y => double y.value = x).getD (.dyadic x)

def Number.toText : Number ℚ → List Char
  | .nan => "NaN".toList
  | .infinity negative => (if negative then "-Infinity" else "Infinity").toList
  | .finite x => (shortest x).text

def floatLiteral (cs : List Char) : Option (Number ℚ) :=
  if cs = "Infinity".toList ∨ cs = "+Infinity".toList then some (.infinity false)
  else if cs = "-Infinity".toList then some (.infinity true)
  else (scientific cs).map fun q => .finite (double q)

-- The longest literal that the text begins with.
def parseFloat (cs : List Char) : Number ℚ :=
  ((cs.dropWhile isWhitespace).inits.reverse.findSome? floatLiteral).getD .nan

theorem binary_den (n e : ℤ) : ∃ k, ((n : ℚ) * 2 ^ e).den = 2 ^ k := by
  rcases le_or_gt 0 e with he | he
  · obtain ⟨m, rfl⟩ := Int.eq_ofNat_of_zero_le he
    have hwhole : (n : ℚ) * 2 ^ (m : ℤ) = ((n * 2 ^ m : ℤ) : ℚ) := by
      push_cast
      rfl
    exact ⟨0, by rw [hwhole, Rat.den_intCast, pow_zero]⟩
  · obtain ⟨m, hm⟩ := Int.eq_ofNat_of_zero_le (show 0 ≤ -e by omega)
    have hquotient : (n : ℚ) * 2 ^ e = Rat.divInt n ((2 ^ m : ℕ) : ℤ) := by
      rw [← neg_neg e, hm, zpow_neg, zpow_natCast, Rat.divInt_eq_div, div_eq_mul_inv]
      push_cast
      rfl
    have hdvd := Rat.den_dvd n ((2 ^ m : ℕ) : ℤ)
    rw [← hquotient, Int.natCast_dvd_natCast] at hdvd
    obtain ⟨k, -, hk⟩ := (Nat.dvd_prime_pow Nat.prime_two).mp hdvd
    exact ⟨k, hk⟩

theorem dyadic_value {x : ℚ} {k : Nat} (hden : x.den = 2 ^ k) : (DecimalNumber.dyadic x).value = x := by
  have hlog : Nat.log 2 x.den = k := by rw [hden, Nat.log_pow (by decide)]
  have hx : (x.num : ℚ) / 2 ^ k = x := by
    conv_rhs => rw [← Rat.num_div_den x, hden]
    push_cast
    rfl
  rw [DecimalNumber.value, DecimalNumber.dyadic, hlog, scaled]
  push_cast
  rw [show (10 : ℚ) = 5 * 2 by norm_num, mul_pow, mul_comm (x.num : ℚ),
    mul_div_mul_left _ _ (pow_ne_zero k (by norm_num)), hx]

theorem double_shortest {x : ℚ} (hx : double x = x) : double (shortest x).value = x := by
  rw [shortest]
  cases hfound : (shortDecimals x).find? fun y => double y.value = x with
  | some y =>
    have hreads := List.find?_some hfound
    exact of_decide_eq_true hreads
  | none =>
    obtain ⟨k, hk⟩ : ∃ k, (double x).den = 2 ^ k := binary_den _ _
    rw [hx] at hk
    rw [Option.getD_none, dyadic_value hk, hx]

end Js
