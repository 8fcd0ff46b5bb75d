import OraidexSdk.Decimal.Digits

namespace Js
open DigitText

inductive JsError where
  | error (message : String)
  | thrown (message : String)
  | ex (message : String)
  | syntaxError
  | rangeError
  | typeError
deriving DecidableEq, Repr

def isWhitespace (c : Char) : Bool :=
  c.toNat ∈ [0x09, 0x0A, 0x0B, 0x0C, 0x0D, 0x20, 0xA0, 0x1680, 0x2028, 0x2029, 0x202F, 0x205F,
    0x3000, 0xFEFF] ∨ (0x2000 ≤ c.toNat ∧ c.toNat ≤ 0x200A)

def trim (cs : List Char) : List Char := (cs.dropWhile isWhitespace).rdropWhile isWhitespace

def digitVal? (c : Char) : Option Nat :=
  if '0' ≤ c ∧ c ≤ '9' then some (c.toNat - '0'.toNat)
  else if 'a' ≤ c ∧ c ≤ 'f' then some (c.toNat - 'a'.toNat + 10)
  else if 'A' ≤ c ∧ c ≤ 'F' then some (c.toNat - 'A'.toNat + 10)
  else none

def radixStep (b : Nat) (acc : Option Nat) (c : Char) : Option Nat :=
  match acc, digitVal? c with
  | some n, some v => if v < b then some (n * b + v) else none
  | _, _ => none

def radixNumeral (b : Nat) (cs : List Char) : Option Int :=
  if cs = [] then none else (cs.foldl (radixStep b) (some 0)).map Int.ofNat

def decimalNumeral (sign : Int) (cs : List Char) : Option Int :=
  if cs ≠ [] ∧ AllDigits cs then some (sign * numeral cs) else none

def radixPrefix? : Char → Option Nat
  | 'x' | 'X' => some 16
  | 'o' | 'O' => some 8
  | 'b' | 'B' => some 2
  | _ => none

-- The grammar StringToBigInt reads after trimming: empty text is 0, a sign
-- goes with decimal digits only, and the radix prefixes take no sign.
def integerLiteral : List Char → Option Int
  | [] => some 0
  | '+' :: cs => decimalNumeral 1 cs
  | '-' :: cs => decimalNumeral (-1) cs
  | '0' :: p :: cs =>
      match radixPrefix? p with
      | some b => radixNumeral b cs
      | none => decimalNumeral 1 ('0' :: p :: cs)
  | cs => decimalNumeral 1 cs

def bigInt (cs : List Char) : Except JsError Int :=
  match integerLiteral (trim cs) with
  | some n => .ok n
  | none => .error .syntaxError

def bigIntText (n : Int) : List Char := n.repr.toList

def relativeIndex (length : Nat) (i : Int) : Nat :=
  if i < 0 then (length + i).toNat else min i.toNat length

def slice (cs : List Char) (start stop : Int) : List Char :=
  (cs.take (relativeIndex cs.length stop)).drop (relativeIndex cs.length start)

def sliceFrom (cs : List Char) (start : Int) : List Char :=
  cs.drop (relativeIndex cs.length start)

def padEnd (cs : List Char) (width : Nat) (fill : Char) : List Char :=
  cs ++ List.replicate (width - cs.length) fill

def truthy (o : Option String) : Option String := o.filter (· ≠ "")

-- toLowerCase of a text without letters outside ASCII
def asciiLowerCase (text : String) : String := String.ofList (text.toList.map Char.toLower)

def startsWith (s p : String) : Bool := p.toList.isPrefixOf s.toList

-- s.split(sep)[i]
def splitAt (s : String) (sep : Char) (i : Nat) : Option String :=
  ((s.toList.splitOn sep)[i]?).map String.ofList

theorem bigIntText_natCast (n : Nat) : bigIntText n = Nat.toDigits 10 n := by
  simp [bigIntText, Int.repr]

theorem bigIntText_ne_nil (n : Int) : bigIntText n ≠ [] := by
  cases n with
  | ofNat n => simp [bigIntText, Int.repr]
  | negSucc n => simp [bigIntText, Int.repr]

theorem relativeIndex_neg {length d : Nat} (hd : 0 < d) :
    relativeIndex length (-(d : Int)) = length - d := by
  rw [relativeIndex, if_pos (by omega)]
  omega

theorem isDigit_not_whitespace {c : Char} (h : c.isDigit = true) : isWhitespace c = false := by
  have hc := Char.isDigit_iff_toNat.mp h
  have h0 : '0'.toNat = 48 := rfl
  have h9 : '9'.toNat = 57 := rfl
  simp only [isWhitespace, decide_eq_false_iff_not, List.mem_cons, List.not_mem_nil, or_false]
  omega

theorem trim_eq_self {cs : List Char} (h : ∀ c ∈ cs, isWhitespace c = false) : trim cs = cs := by
  have hd : cs.dropWhile isWhitespace = cs := by
    rw [List.dropWhile_eq_self_iff]
    intro hl
    simp [h _ (List.getElem_mem _)]
  rw [trim, hd, List.rdropWhile_eq_self_iff]
  intro hl
  simp [h _ (List.getLast_mem hl)]

theorem decimalNumeral_digits {cs : List Char} (sign : Int) (hne : cs ≠ []) (h : AllDigits cs) :
    decimalNumeral sign cs = some (sign * numeral cs) := if_pos ⟨hne, h⟩

theorem radixPrefix_digit {c : Char} (h : c.isDigit = true) : radixPrefix? c = none := by
  rw [radixPrefix?.eq_def]
  split
  all_goals first | rfl | simp at h

theorem integerLiteral_digits {cs : List Char} (h : AllDigits cs) :
    integerLiteral cs = some (numeral cs : Int) := by
  rw [integerLiteral.eq_def]
  split
  · rfl
  · simp at h
  · simp at h
  · rename_i p cs
    rw [radixPrefix_digit (h p (by simp))]
    simpa using decimalNumeral_digits 1 (List.cons_ne_nil _ _) h
  · rename_i hne _ _ _
    simpa using decimalNumeral_digits 1 (fun he => hne he) h

end Js
