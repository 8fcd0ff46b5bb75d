import OraidexSdk.Js.Fields
import OraidexSdk.Js.Number

namespace OraidexSdk.OraiswapV3
open Js DigitText SeparatedFields

structure FeeTier (N : Type) where
  fee : N
  tickSpacing : N
deriving DecidableEq

structure PoolKey (T N : Type) where
  tokenX : T
  tokenY : T
  feeTier : FeeTier N
deriving DecidableEq

def poolKeyToString (poolKey : PoolKey String Nat) : String :=
  poolKey.tokenX ++ "-" ++ poolKey.tokenY ++ "-" ++ naturalText poolKey.feeTier.fee ++ "-" ++
    naturalText poolKey.feeTier.tickSpacing

-- A part that the split does not reach is undefined.
def parsePoolKey (poolKeyStr : String) : PoolKey (Option String) (Number ℚ) where
  tokenX := splitAt poolKeyStr '-' 0
  tokenY := splitAt poolKeyStr '-' 1
  feeTier :=
    { fee := numberOf (splitAt poolKeyStr '-' 2)
      tickSpacing := numberOf (splitAt poolKeyStr '-' 3) }

namespace PoolKey

def read (key : PoolKey String Nat) : PoolKey (Option String) (Number ℚ) :=
  ⟨some key.tokenX, some key.tokenY, ⟨.finite key.feeTier.fee, .finite key.feeTier.tickSpacing⟩⟩

def fields (key : PoolKey String Nat) : List (List Char) :=
  [key.tokenX.toList, key.tokenY.toList, Nat.toDigits 10 key.feeTier.fee,
    Nat.toDigits 10 key.feeTier.tickSpacing]

def HyphenFree (key : PoolKey String Nat) : Prop :=
  '-' ∉ key.tokenX.toList ∧ '-' ∉ key.tokenY.toList

variable {key key' : PoolKey String Nat}

theorem read_inj (h : key.read = key'.read) : key = key' := by
  obtain ⟨tokenX, tokenY, fee, tickSpacing⟩ := key
  obtain ⟨tokenX', tokenY', fee', tickSpacing'⟩ := key'
  simp only [read, PoolKey.mk.injEq, FeeTier.mk.injEq, Option.some.injEq, Number.finite.injEq,
    Nat.cast_inj] at h
  obtain ⟨rfl, rfl, rfl, rfl⟩ := h
  rfl

theorem toList_poolKeyToString (key : PoolKey String Nat) :
    (poolKeyToString key).toList = ['-'].intercalate key.fields := by
  simp [poolKeyToString, fields, naturalText, List.intercalate]

theorem hyphenFree_iff : key.HyphenFree ↔ ∀ field ∈ key.fields, '-' ∉ field := by
  have hdigits (n : Nat) : '-' ∉ Nat.toDigits 10 n := (allDigits_toDigits n).not_mem rfl
  simp [HyphenFree, fields, hdigits]

theorem HyphenFree.splitOn (h : key.HyphenFree) :
    (poolKeyToString key).toList.splitOn '-' = key.fields := by
  rw [toList_poolKeyToString]
  exact (splitOn_intercalate_iff (List.cons_ne_nil _ _)).mpr (hyphenFree_iff.mp h)

theorem HyphenFree.parse (h : key.HyphenFree) : parsePoolKey (poolKeyToString key) = key.read := by
  have hfields := h.splitOn
  simp only [parsePoolKey, splitAt, hfields, fields, List.getElem?_cons_zero,
    List.getElem?_cons_succ, Option.map_some, String.ofList_toList]
  have hnumber (n : Nat) : numberOf (some (String.ofList (Nat.toDigits 10 n))) = .finite n :=
    number_naturalText n
  rw [hnumber, hnumber, read]

theorem not_mem_of_splitAt {text field : String} {sep : Char} {i : Nat}
    (h : splitAt text sep i = some field) : sep ∉ field.toList := by
  obtain ⟨cs, hcs, rfl⟩ := Option.map_eq_some_iff.mp h
  rw [String.toList_ofList]
  exact not_mem_of_mem_splitOn (List.mem_of_getElem? hcs)

theorem hyphenFree_of_parse (h : parsePoolKey (poolKeyToString key) = key.read) :
    key.HyphenFree := by
  rw [parsePoolKey, read, PoolKey.mk.injEq] at h
  exact ⟨not_mem_of_splitAt h.1, not_mem_of_splitAt h.2.1⟩

theorem HyphenFree.of_same_text (h : key.HyphenFree)
    (htext : poolKeyToString key' = poolKeyToString key) : key'.HyphenFree := by
  have hcount := congrArg (fun s : String => s.toList.count '-') htext
  have hdigits (n : Nat) : (Nat.toDigits 10 n).count '-' = 0 :=
    List.count_eq_zero.mpr ((allDigits_toDigits n).not_mem rfl)
  have hx := List.count_eq_zero.mpr h.1
  have hy := List.count_eq_zero.mpr h.2
  simp only [toList_poolKeyToString, fields, List.intercalate, List.intersperse, List.flatten_cons,
    List.flatten_nil, List.count_append, List.count_nil, hdigits, hx, hy] at hcount
  exact ⟨List.count_eq_zero.mp (by omega), List.count_eq_zero.mp (by omega)⟩

theorem survives_iff :
    (parsePoolKey (poolKeyToString key) = key.read ∧
      ∀ other, poolKeyToString other = poolKeyToString key → other = key) ↔ key.HyphenFree := by
  constructor
  · rintro ⟨hparse, -⟩
    exact hyphenFree_of_parse hparse
  · intro h
    refine ⟨h.parse, fun other htext => ?_⟩
    have hother := (h.of_same_text htext).parse
    rw [htext, h.parse] at hother
    exact (read_inj hother).symm

def hyphenInX : PoolKey String Nat := ⟨"factory/lp-orai", "usdt", ⟨3000000000, 100⟩⟩

def hyphenInY : PoolKey String Nat := ⟨"factory/lp", "orai-usdt", ⟨3000000000, 100⟩⟩

theorem hyphen_confuses :
    parsePoolKey (poolKeyToString hyphenInX) ≠ hyphenInX.read ∧
      poolKeyToString hyphenInX = poolKeyToString hyphenInY ∧ hyphenInX ≠ hyphenInY := by
  refine ⟨?_, by decide, by decide⟩
  intro h
  have hfree := (hyphenFree_of_parse h).1
  exact absurd hfree (by decide)

end PoolKey

end OraidexSdk.OraiswapV3
