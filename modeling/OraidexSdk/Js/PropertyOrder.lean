import Mathlib.Data.List.Basic
import Mathlib.Data.List.Sort
import OraidexSdk.Js.Number

namespace Js
open DigitText

-- A canonical numeral below 2 ^ 32 - 1
def arrayIndex (key : String) : Option Nat :=
  let n := numeral key.toList
  if key = naturalText n ∧ n < 4294967295 then some n else none

-- The keys of an object, given as inserted, in the order in which for-in visits them.
def propertyOrder (keys : List String) : List String :=
  (keys.filter fun key => (arrayIndex key).isSome).mergeSort
      (fun a b => (arrayIndex a).getD 0 ≤ (arrayIndex b).getD 0) ++
    keys.filter fun key => !(arrayIndex key).isSome

theorem propertyOrder_perm (keys : List String) : (propertyOrder keys).Perm keys :=
  ((List.mergeSort_perm _ _).append_right _).trans (List.filter_append_perm _ keys)

end Js
