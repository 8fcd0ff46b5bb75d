import OraidexSdk.Js.Arithmetic

namespace Js

inductive Value where
  | undefined
  | boolean (b : Bool)
  | number (x : Number ℚ)
  | bigint (n : Int)
deriving DecidableEq

namespace Value

inductive Numeric where
  | number (x : Number ℚ)
  | bigint (n : Int)
deriving DecidableEq

def toNumeric : Value → Numeric
  | undefined => .number .nan
  | boolean b => .number (.finite (if b then 1 else 0))
  | number x => .number x
  | bigint n => .bigint n

-- Number(value)
def toNumber (v : Value) : Number ℚ :=
  match v.toNumeric with
  | .number x => x
  | .bigint n => .finite n

-- A binary operator takes two numbers or two bigints.
def operator (onNumbers : Number ℚ → Number ℚ → Number ℚ) (onBigints : Int → Int → Except JsError Int)
    (a b : Value) : Except JsError Value :=
  match a.toNumeric, b.toNumeric with
  | .number x, .number y => .ok (number (onNumbers x y))
  | .bigint m, .bigint n => bigint <$> onBigints m n
  | _, _ => .error .typeError

def mul : Value → Value → Except JsError Value := operator Number.mul fun m n => .ok (m * n)

def add : Value → Value → Except JsError Value := operator Number.add fun m n => .ok (m + n)

def sub : Value → Value → Except JsError Value :=
  operator (fun x y => x.add y.neg) fun m n => .ok (m - n)

def div : Value → Value → Except JsError Value :=
  operator Number.div fun m n => if n = 0 then .error .rangeError else .ok (m.tdiv n)

-- A bigint and a number compare by their mathematical values.
def ge (a b : Value) : Bool := a.toNumber.ge b.toNumber

@[simp] theorem mul_undefined : mul undefined undefined = .ok (number .nan) := rfl

@[simp] theorem ge_nan (v : Value) : ge (number .nan) v = false := rfl

@[simp] theorem mul_mixed (n : Int) (x : Number ℚ) :
    mul (bigint n) (number x) = .error .typeError := rfl

end Value

end Js
