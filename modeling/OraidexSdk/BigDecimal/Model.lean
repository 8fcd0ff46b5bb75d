import OraidexSdk.Js.Text
import OraidexSdk.Decimal.Scaled
import Mathlib.Logic.Function.Basic

namespace OraidexSdk
open Js DigitText ScaledInteger

structure BigDecimal where
  bigInt : Int
  decimals : Nat
deriving DecidableEq, Repr

abbrev Ref := Nat

structure Heap where
  next : Ref
  objects : Ref → BigDecimal

-- A number enters only through its own toString().
inductive DecimalLike where
  | string (text : String)
  | number (rendering : String)
  | bigint (n : Int)
  | object (ref : Ref)
deriving DecidableEq, Repr

abbrev Script := ExceptT JsError (StateM Heap)

namespace Script

def run {α : Type} (s : Script α) (h : Heap) : Except JsError α × Heap := StateT.run (ExceptT.run s) h

def read (r : Ref) : Script BigDecimal := do return (← get).objects r

def write (r : Ref) (x : BigDecimal) : Script Unit :=
  modify fun h => { h with objects := Function.update h.objects r x }

def alloc (x : BigDecimal) : Script Ref := do
  let h ← get
  set (Heap.mk (h.next + 1) (Function.update h.objects h.next x))
  return h.next

def lift {α : Type} : Except JsError α → Script α
  | .ok a => pure a
  | .error e => throw e

def contents (s : Script Ref) (h : Heap) : Except JsError BigDecimal :=
  match run s h with
  | (.ok r, h') => .ok (h'.objects r)
  | (.error e, _) => .error e

variable {α β : Type} (h : Heap)

@[simp] theorem run_pure (a : α) : run (pure a) h = (.ok a, h) := rfl

@[simp] theorem run_throw (e : JsError) : run (throw e : Script α) h = (.error e, h) := rfl

@[simp] theorem run_bind (s : Script α) (k : α → Script β) :
    run (s >>= k) h =
      match run s h with
      | (.ok a, h') => run (k a) h'
      | (.error e, h') => (.error e, h') := by
  simp only [run, ExceptT.run_bind, StateT.run_bind]
  rcases StateT.run (ExceptT.run s) h with ⟨r, h'⟩
  cases r <;> rfl

@[simp] theorem run_map (f : α → β) (s : Script α) :
    run (f <$> s) h =
      match run s h with
      | (.ok a, h') => (.ok (f a), h')
      | (.error e, h') => (.error e, h') := by
  rw [← bind_pure_comp, run_bind]
  rfl

@[simp] theorem run_read (r : Ref) : run (read r) h = (.ok (h.objects r), h) := rfl

@[simp] theorem run_write (r : Ref) (x : BigDecimal) :
    run (write r x) h = (.ok (), { h with objects := Function.update h.objects r x }) := rfl

@[simp] theorem run_alloc (x : BigDecimal) :
    run (alloc x) h = (.ok h.next, ⟨h.next + 1, Function.update h.objects h.next x⟩) := rfl

@[simp] theorem run_lift_ok (a : α) : run (lift (.ok a)) h = (.ok a, h) := rfl

@[simp] theorem run_lift_error (e : JsError) :
    run (lift (.error e) : Script α) h = (.error e, h) := rfl

end Script

namespace BigDecimal
open Script

def value (x : BigDecimal) : ℚ := scaled ℚ 10 x.bigInt x.decimals

def unset (decimals : Option Nat) : Bool := decimals.getD 0 == 0

def padding (scale : Nat) : Option (List Char) → List Char
  | none | some [] => zeros scale
  | some decis => (padEnd decis scale '0').take scale

-- value.toString().split("."), of which only the first two parts are read.
def parse (text : List Char) (decimals : Option Nat) : Except JsError BigDecimal :=
  let scale := decimals.getD 6
  let ints := (text.splitOn '.').headD []
  let decis := (text.splitOn '.')[1]?
  if scale < (decis.getD []).length ∧ unset decimals then
    (fun n => ⟨n, (decis.getD []).length⟩) <$> Js.bigInt (ints ++ decis.getD [])
  else
    (fun n => ⟨n, scale⟩) <$> Js.bigInt (ints ++ padding scale decis)

def construct (h : Heap) (decimals : Option Nat) : DecimalLike → Except JsError BigDecimal
  | .object r => .ok (h.objects r)
  | .bigint n => .ok ⟨n * 10 ^ decimals.getD 6, decimals.getD 6⟩
  | .string text | .number text => parse text.toList decimals

def new (value : DecimalLike) (decimals : Option Nat) : Script Ref := do
  let x ← lift (construct (← get) decimals value)
  alloc x

theorem run_new {h : Heap} {decimals : Option Nat} {value : DecimalLike} {x : BigDecimal}
    (hx : construct h decimals value = .ok x) :
    run (new value decimals) h = (.ok h.next, ⟨h.next + 1, Function.update h.objects h.next x⟩) := by
  have hget : run (get : Script Heap) h = (.ok h, h) := rfl
  simp only [new, run_bind, hget, hx, run_lift_ok, run_alloc]

def processDecimal (this : Ref) : DecimalLike → Script Ref
  | .object value => do
      let t ← read this
      let v ← read value
      if v.decimals > t.decimals then
        write this ⟨t.bigInt * 10 ^ (v.decimals - t.decimals), v.decimals⟩
      else if t.decimals > v.decimals then
        write value ⟨v.bigInt * 10 ^ (t.decimals - v.decimals), t.decimals⟩
      return value
  | value => do new value (some (← read this).decimals)

def toText (x : BigDecimal) : List Char :=
  let signed := bigIntText x.bigInt
  let minus := signed.head? = some '-'
  let str := if minus then signed.drop 1 else signed
  let padStartLen : Int := x.decimals - str.length
  let padded := if padStartLen ≥ 0 then zeros padStartLen.toNat ++ str else str
  let nominator := if padStartLen ≥ 0 then ['0'] else slice str 0 (-x.decimals)
  let denominator := stripZeros (sliceFrom padded (-x.decimals))
  (if minus then ['-'] else []) ++ nominator ++ if denominator = [] then [] else '.' :: denominator

def toString (x : BigDecimal) : String := String.ofList (toText x)

def clone (this : Ref) : Script Ref := new (.object this) none

abbrev Kernel := Int → Int → Nat → Except JsError Int

def overwrite (f : Kernel) (this otherDecimal : Ref) : Script Ref := do
  let t ← read this
  let o ← read otherDecimal
  let n ← lift (f t.bigInt o.bigInt t.decimals)
  write this { t with bigInt := n }
  return this

-- The shape shared by iadd, isub, idiv and imul: align, then overwrite bigInt.
def inPlace (f : Kernel) (this : Ref) (other : DecimalLike) : Script Ref := do
  overwrite f this (← processDecimal this other)

def addKernel : Kernel := fun a b _ => .ok (a + b)

def subKernel : Kernel := fun a b _ => .ok (a - b)

def divKernel : Kernel := fun a b scale =>
  if b = 0 then .error .rangeError else .ok ((a * 10 ^ scale).tdiv b)

def mulKernel : Kernel := fun a b scale => .ok ((a * b).tdiv (10 ^ scale))

def iadd : Ref → DecimalLike → Script Ref := inPlace addKernel

def isub : Ref → DecimalLike → Script Ref := inPlace subKernel

def idiv : Ref → DecimalLike → Script Ref := inPlace divKernel

def imul : Ref → DecimalLike → Script Ref := inPlace mulKernel

def add (this : Ref) (other : DecimalLike) : Script Ref := do iadd (← clone this) other

def sub (this : Ref) (other : DecimalLike) : Script Ref := do isub (← clone this) other

def div (this : Ref) (other : DecimalLike) : Script Ref := do idiv (← clone this) other

def mul (this : Ref) (other : DecimalLike) : Script Ref := do imul (← clone this) other

def isZeroLiteral (denominator : DecimalLike) : Bool :=
  denominator = .string "0" ∨ denominator = .number "0" ∨ denominator = .bigint 0

def mulByRatio (this : Ref) (numerator denominator : DecimalLike) : Script Ref := do
  if isZeroLiteral denominator then throw (.error "Denominator cannot be zero")
  idiv (← imul (← clone this) numerator) denominator

end BigDecimal
end OraidexSdk
