import OraidexSdk.BigDecimal.Parsing
import OraidexSdk.Js.BigInt
import OraidexSdk.Js.Trim
import OraidexSdk.Trees.Labelled

namespace OraidexSdk.OraiswapV3.Helpers
open Js DigitText DecimalLiteral

inductive Leaf where
  | null
  | primitive (value : BigIntLike)
deriving DecidableEq

abbrev Value := LabelledTree String Leaf

-- BigInt(value), which throws on null
def bigIntOf : Leaf → Except JsError Int
  | .null => .error .typeError
  | .primitive value => value.toBigInt

def parseLeaf : Leaf → Leaf
  | .primitive (.boolean b) => .primitive (.boolean b)
  | .primitive (.number x) => .primitive (.number x)
  | value =>
    match bigIntOf value with
    | .ok n => .primitive (.bigint n)
    | .error _ => value

mutual

def parse : Value → Value
  | .array elements => .array (parseElements elements)
  | .object fields => .object (parseEntries fields)
  | .leaf value => .leaf (parseLeaf value)

def parseElements : List Value → List Value
  | [] => []
  | element :: elements => parse element :: parseElements elements

-- newValue.__proto__ = v sets no property of newValue.
def parseEntries : List (String × Value) → List (String × Value)
  | [] => []
  | (key, value) :: entries =>
    if key = "__proto__" then parseEntries entries
    else (key, parse value) :: parseEntries entries

end

-- [-]digits
def decimalInteger : List Char → Option Int
  | '-' :: digits => decimalNumeral (-1) digits
  | digits => decimalNumeral 1 digits

def convertLeaf : Leaf → Leaf
  | .primitive (.string text) =>
    match decimalInteger text.toList with
    | some n => .primitive (.bigint n)
    | none => .primitive (.string text)
  | value => value

def converted (value : Value) : Value := value.map convertLeaf

-- What BigInt reads as a number beside the decimal integers.
inductive Loose (text : List Char) : Prop where
  | blank (h : trim text = [])
  | plus (digits : List Char) (h : trim text = '+' :: digits) (hne : digits ≠ [])
      (hdigits : AllDigits digits)
  | radix (mark : Char) (base : Nat) (digits : List Char) (n : Int)
      (h : trim text = '0' :: mark :: digits) (hmark : radixPrefix? mark = some base)
      (hdigits : radixNumeral base digits = some n)
  | padded (n : Int) (h : trim text ≠ text) (hdigits : decimalInteger (trim text) = some n)

section Grammar

variable {cs : List Char} {n : Int}

theorem decimalInteger_shape (h : decimalInteger cs = some n) :
    ∃ (s : Sign) (digits : List Char), s ≠ .plus ∧ cs = s.text ++ digits ∧ digits ≠ [] ∧
      AllDigits digits ∧ n = s.factor * numeral digits := by
  rw [decimalInteger.eq_def] at h
  split at h
  · rename_i digits
    obtain ⟨hdigits, hn⟩ := decimalNumeral_eq_some h
    refine ⟨.minus, digits, nofun, rfl, ?_, hdigits, hn⟩
    rintro rfl
    cases h
  · obtain ⟨hdigits, hn⟩ := decimalNumeral_eq_some h
    refine ⟨.unsigned, cs, nofun, rfl, ?_, hdigits, hn⟩
    rintro rfl
    cases h

theorem decimalInteger_of_numeral (h : decimalNumeral 1 cs = some n) :
    decimalInteger cs = some n := by
  rw [decimalInteger.eq_def]
  split
  · have hminus := (decimalNumeral_eq_some h).1 '-' List.mem_cons_self
    cases hminus
  · exact h

theorem trim_decimal (h : decimalInteger cs = some n) : trim cs = cs := by
  obtain ⟨s, digits, -, rfl, -, hdigits, -⟩ := decimalInteger_shape h
  refine trim_eq_self fun c hc => ?_
  rcases List.mem_append.mp hc with hsign | hdigit
  · exact BigDecimal.sign_whitespace s c hsign
  · exact isDigit_not_whitespace (hdigits c hdigit)

theorem bigInt_decimal (h : decimalInteger cs = some n) : bigInt cs = .ok n := by
  obtain ⟨s, digits, -, rfl, hne, hdigits, rfl⟩ := decimalInteger_shape h
  exact BigDecimal.bigInt_digits hne hdigits

theorem not_loose_decimal (h : decimalInteger cs = some n) : ¬ Loose cs := by
  have htrim := trim_decimal h
  obtain ⟨s, digits, hsign, rfl, hne, hdigits, -⟩ := decimalInteger_shape h
  rintro (hblank | ⟨_, hplus, -, -⟩ | ⟨mark, base, _, _, hradix, hmark, -⟩ | ⟨_, hpadded, -⟩)
  · rw [htrim] at hblank
    exact hne (List.append_eq_nil_iff.mp hblank).2
  · rw [htrim] at hplus
    cases s with
    | unsigned =>
      rw [Sign.text, List.nil_append] at hplus
      have hdigit := hdigits '+' (hplus ▸ List.mem_cons_self)
      cases hdigit
    | plus => exact hsign rfl
    | minus => cases hplus
  · rw [htrim] at hradix
    cases s with
    | unsigned =>
      rw [Sign.text, List.nil_append] at hradix
      have hdigit := hdigits mark (hradix ▸ List.mem_cons_of_mem _ List.mem_cons_self)
      rw [radixPrefix_digit hdigit] at hmark
      cases hmark
    | plus => exact hsign rfl
    | minus => cases hradix
  · exact hpadded htrim

theorem bigInt_eq_ok_iff : bigInt cs = .ok n ↔ integerLiteral (trim cs) = some n := by
  rw [bigInt]
  cases integerLiteral (trim cs) <;> simp

theorem loose_of_bigInt (h : bigInt cs = .ok n) (hnot : decimalInteger cs = none) : Loose cs := by
  have hpadded {m : Int} (hread : decimalInteger (trim cs) = some m) : Loose cs := by
    refine .padded m (fun htrim => ?_) hread
    rw [htrim, hnot] at hread
    cases hread
  rw [bigInt_eq_ok_iff, integerLiteral.eq_def] at h
  split at h
  · rename_i htrim
    exact .blank htrim
  · rename_i digits htrim
    refine .plus digits htrim ?_ (decimalNumeral_eq_some h).1
    rintro rfl
    cases h
  · rename_i digits htrim
    refine hpadded (m := n) ?_
    rw [htrim]
    exact h
  · rename_i mark digits htrim
    split at h
    · rename_i base hmark
      exact .radix mark base digits n htrim hmark h
    · refine hpadded (m := n) ?_
      rw [htrim]
      exact decimalInteger_of_numeral h
  · exact hpadded (decimalInteger_of_numeral h)

theorem Loose.bigInt (h : Loose cs) : ∃ n, Js.bigInt cs = .ok n := by
  simp only [bigInt_eq_ok_iff]
  rcases h with hblank | ⟨digits, hplus, hne, hdigits⟩ | ⟨mark, base, digits, n, hradix, hmark, hread⟩ |
    ⟨n, -, hread⟩
  · exact ⟨0, by rw [hblank]; rfl⟩
  · exact ⟨1 * numeral digits, by rw [hplus]; exact decimalNumeral_digits 1 hne hdigits⟩
  · refine ⟨n, ?_⟩
    rw [hradix]
    simp only [integerLiteral, hmark, hread]
  · have hbig := bigInt_decimal hread
    rw [bigInt_eq_ok_iff, trim_decimal hread] at hbig
    exact ⟨n, hbig⟩

end Grammar

section Leaves

theorem parseLeaf_string (text : String) :
    parseLeaf (.primitive (.string text)) = convertLeaf (.primitive (.string text)) ↔
      ¬ Loose text.toList := by
  have hparse : bigIntOf (.primitive (.string text)) = bigInt text.toList := rfl
  cases hdecimal : decimalInteger text.toList with
  | some n =>
    refine iff_of_true ?_ (not_loose_decimal hdecimal)
    simp only [parseLeaf, convertLeaf, hparse, hdecimal, bigInt_decimal hdecimal]
  | none =>
    cases hread : bigInt text.toList with
    | ok n =>
      refine iff_of_false ?_ (not_not.mpr (loose_of_bigInt hread hdecimal))
      simp [parseLeaf, convertLeaf, hparse, hdecimal, hread]
    | error e =>
      refine iff_of_true ?_ fun hloose => ?_
      · simp only [parseLeaf, convertLeaf, hparse, hdecimal, hread]
      · obtain ⟨n, hn⟩ := hloose.bigInt
        rw [hread] at hn
        cases hn

theorem parseLeaf_eq_iff (leaf : Leaf) :
    parseLeaf leaf = convertLeaf leaf ↔
      ∀ text, leaf = .primitive (.string text) → ¬ Loose text.toList := by
  cases leaf with
  | null => simp [parseLeaf, convertLeaf, bigIntOf]
  | primitive value =>
    cases value with
    | string text =>
      rw [parseLeaf_string]
      simp
    | _ => simp [parseLeaf, convertLeaf, bigIntOf, BigIntLike.toBigInt]

end Leaves

section Trees

def keeps (key : String) : Bool := key ≠ "__proto__"

theorem parseElements_eq (elements : List Value) : parseElements elements = elements.map parse := by
  induction elements with
  | nil => simp [parseElements]
  | cons element elements ih => simp [parseElements, ih]

theorem parseEntries_eq (entries : List (String × Value)) :
    parseEntries entries =
      (entries.filter (keeps ·.1)).map fun entry => (entry.1, parse entry.2) := by
  induction entries with
  | nil => simp [parseEntries]
  | cons entry entries ih =>
    obtain ⟨key, value⟩ := entry
    by_cases hproto : key = "__proto__" <;> simp [parseEntries, keeps, hproto, ih]

theorem parse_eq_rebuild (value : Value) : parse value = value.rebuild parseLeaf keeps := by
  induction value using LabelledTree.induction with
  | leaf value => simp [parse, LabelledTree.rebuild]
  | array elements ih =>
    rw [parse, parseElements_eq, LabelledTree.rebuild, LabelledTree.rebuildElements_eq]
    exact congrArg _ (List.map_congr_left ih)
  | object fields ih =>
    rw [parse, parseEntries_eq, LabelledTree.rebuild, LabelledTree.rebuildFields_eq]
    refine congrArg _ (List.map_congr_left fun field hfield => ?_)
    rw [ih field (List.mem_of_mem_filter hfield)]

-- No key is lost, and BigInt takes no string but the decimal integers.
def Plain (value : Value) : Prop :=
  (∀ text, Leaf.primitive (.string text) ∈ value.leaves → ¬ Loose text.toList) ∧
    "__proto__" ∉ value.keys

end Trees

theorem parse_converts_iff (value : Value) : parse value = converted value ↔ Plain value := by
  have hkeys : (∀ key ∈ value.keys, keeps key = true) ↔ "__proto__" ∉ value.keys := by
    simp only [keeps, decide_eq_true_eq]
    constructor
    · exact fun hall hmem => hall _ hmem rfl
    · rintro hnot key hmem rfl
      exact hnot hmem
  rw [parse_eq_rebuild, converted, LabelledTree.rebuild_eq_map_iff, hkeys, Plain]
  simp only [parseLeaf_eq_iff]
  refine and_congr_left fun _ => ?_
  constructor
  · exact fun hall text hmem => hall _ hmem text rfl
  · rintro hall leaf hmem text rfl
    exact hall text hmem

def textLeaf (text : String) : Value := .leaf (.primitive (.string text))

def bigintLeaf (n : Int) : Value := .leaf (.primitive (.bigint n))

-- An amount that is missing and an address become numbers.
theorem empty_and_address_converted :
    parse (.object [("amount", textLeaf ""), ("owner", textLeaf "0xff")]) =
        .object [("amount", bigintLeaf 0), ("owner", bigintLeaf 255)] ∧
      converted (.object [("amount", textLeaf ""), ("owner", textLeaf "0xff")]) =
        .object [("amount", textLeaf ""), ("owner", textLeaf "0xff")] ∧
      ¬ ∀ value, parse value = converted value := by
  have hempty : parseLeaf (.primitive (.string "")) = .primitive (.bigint 0) := by decide +kernel
  have howner : parseLeaf (.primitive (.string "0xff")) = .primitive (.bigint 255) := by
    decide +kernel
  have hkept : ∀ text ∈ ["", "0xff"],
      convertLeaf (.primitive (.string text)) = .primitive (.string text) := by decide +kernel
  refine ⟨?_, ?_, fun h => ?_⟩
  · simp [parse, parseEntries, textLeaf, bigintLeaf, hempty, howner]
  · simp [converted, LabelledTree.map, LabelledTree.rebuild, LabelledTree.rebuildFields, textLeaf, hkept]
  · have hsame := h (textLeaf "")
    simp [converted, LabelledTree.map, LabelledTree.rebuild, textLeaf, parse, hempty, hkept] at hsame

end OraidexSdk.OraiswapV3.Helpers
