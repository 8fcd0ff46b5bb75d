import OraidexSdk.Js.Arithmetic
import Mathlib.Algebra.Order.Ring.Int

namespace Js

def bigIntQuotient (a b : Int) : Except JsError Int :=
  if b = 0 then .error .rangeError else .ok (a.tdiv b)

def bigIntPower (a b : Int) : Except JsError Int :=
  if b < 0 then .error .rangeError else .ok (a ^ b.toNat)

-- What BigInt(value) takes a bigint, a boolean, a number or a string for.
inductive BigIntLike where
  | bigint (n : Int)
  | boolean (b : Bool)
  | number (x : Number ℚ)
  | string (text : String)
deriving DecidableEq

namespace BigIntLike

def toBigInt : BigIntLike → Except JsError Int
  | bigint n => .ok n
  | boolean b => .ok (if b then 1 else 0)
  | number (.finite x) => if x.isInt then .ok x.num else .error .rangeError
  | number _ => .error .rangeError
  | string text => bigInt text.toList

end BigIntLike

theorem bigIntQuotient_nat (a : Nat) {b : Nat} (hb : 0 < b) :
    bigIntQuotient a b = .ok (a / b : ℕ) := by
  have hne : (b : Int) ≠ 0 := Int.natCast_ne_zero.mpr hb.ne'
  rw [bigIntQuotient, if_neg hne, Int.tdiv_eq_ediv_of_nonneg (Int.natCast_nonneg a),
    Int.natCast_ediv]

theorem bigIntPower_nat (a : Int) (n : Nat) : bigIntPower a n = .ok (a ^ n) := by
  rw [bigIntPower, if_neg (Int.not_lt.mpr (Int.natCast_nonneg n)), Int.toNat_natCast]

theorem bigIntPower_neg (a : Int) {e : Int} (he : e < 0) : bigIntPower a e = .error .rangeError :=
  if_pos he

end Js
