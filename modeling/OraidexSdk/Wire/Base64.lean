import Mathlib.Data.List.TakeWhile

-- Bytes as texts: three bytes are four digits of six bits, and a last group is filled up with '='.
namespace Base64

def digit (n : Nat) : Char :=
  if n < 26 then Char.ofNat (n + 65)
  else if n < 52 then Char.ofNat (n + 71)
  else if n < 62 then Char.ofNat (n - 4)
  else if n = 62 then '+'
  else '/'

def value (c : Char) : Option Nat :=
  if 'A' ≤ c ∧ c ≤ 'Z' then some (c.toNat - 65)
  else if 'a' ≤ c ∧ c ≤ 'z' then some (c.toNat - 71)
  else if '0' ≤ c ∧ c ≤ '9' then some (c.toNat + 4)
  else if c = '+' ∨ c = '-' then some 62
  else if c = '/' ∨ c = '_' then some 63
  else none

def sextets : List UInt8 → List Nat
  | [] => []
  | [a] => [a.toNat / 4, a.toNat % 4 * 16]
  | [a, b] => [a.toNat / 4, a.toNat % 4 * 16 + b.toNat / 16, b.toNat % 16 * 4]
  | a :: b :: c :: rest =>
    a.toNat / 4 :: (a.toNat % 4 * 16 + b.toNat / 16) :: (b.toNat % 16 * 4 + c.toNat / 64) ::
      c.toNat % 64 :: sextets rest

def octets : List Nat → List UInt8
  | w :: x :: y :: z :: rest =>
    UInt8.ofNat (w * 4 + x / 16) :: UInt8.ofNat (x % 16 * 16 + y / 4) ::
      UInt8.ofNat (y % 4 * 64 + z) :: octets rest
  | [w, x, y] => [UInt8.ofNat (w * 4 + x / 16), UInt8.ofNat (x % 16 * 16 + y / 4)]
  | [w, x] => [UInt8.ofNat (w * 4 + x / 16)]
  | _ => []

def padding (bytes : List UInt8) : List Char := List.replicate ((3 - bytes.length % 3) % 3) '='

def encode (bytes : List UInt8) : List Char := (sextets bytes).map digit ++ padding bytes

-- What follows the first '=' and what is no digit is passed over.
def decode (text : List Char) : List UInt8 := octets ((text.takeWhile (· ≠ '=')).filterMap value)

theorem value_digit {n : Nat} (h : n < 64) : value (digit n) = some n := by
  have hall : ∀ n : Fin 64, value (digit n) = some n.val := by decide
  exact hall ⟨n, h⟩

theorem digit_ne_pad {n : Nat} (h : n < 64) : digit n ≠ '=' := by
  have hall : ∀ n : Fin 64, digit n ≠ '=' := by decide
  exact hall ⟨n, h⟩

theorem ofNat_toNat {a : UInt8} {n : Nat} (h : n = a.toNat) : UInt8.ofNat n = a := by
  rw [h, UInt8.ofNat_toNat]

theorem sextets_lt (bytes : List UInt8) : ∀ n ∈ sextets bytes, n < 64 := by
  fun_induction sextets bytes with
  | case1 => simp
  | case2 a =>
    have := a.toNat_lt
    simp only [List.mem_cons, List.not_mem_nil, or_false, forall_eq_or_imp, forall_eq]
    omega
  | case3 a b =>
    have := a.toNat_lt
    have := b.toNat_lt
    simp only [List.mem_cons, List.not_mem_nil, or_false, forall_eq_or_imp, forall_eq]
    omega
  | case4 a b c rest ih =>
    have := a.toNat_lt
    have := b.toNat_lt
    have := c.toNat_lt
    simp only [List.mem_cons, forall_eq_or_imp]
    exact ⟨by omega, by omega, by omega, by omega, ih⟩

theorem values_digits {ns : List Nat} (h : ∀ n ∈ ns, n < 64) :
    (ns.map digit).filterMap value = ns := by
  induction ns with
  | nil => rfl
  | cons n ns ih =>
    rw [List.map_cons, List.filterMap_cons_some (value_digit (h n List.mem_cons_self)),
      ih fun m hm => h m (List.mem_cons_of_mem _ hm)]

theorem octets_sextets (bytes : List UInt8) : octets (sextets bytes) = bytes := by
  fun_induction sextets bytes with
  | case1 => rfl
  | case2 a =>
    have := a.toNat_lt
    rw [octets, ofNat_toNat (a := a) (by omega)]
  | case3 a b =>
    have := a.toNat_lt
    have := b.toNat_lt
    rw [octets, ofNat_toNat (a := a) (by omega), ofNat_toNat (a := b) (by omega)]
  | case4 a b c rest ih =>
    have := a.toNat_lt
    have := b.toNat_lt
    have := c.toNat_lt
    rw [octets, ofNat_toNat (a := a) (by omega), ofNat_toNat (a := b) (by omega),
      ofNat_toNat (a := c) (by omega), ih]

theorem decode_encode (bytes : List UInt8) : decode (encode bytes) = bytes := by
  have hdigits : ∀ c ∈ (sextets bytes).map digit, decide (c ≠ '=') = true := by
    intro c hc
    obtain ⟨n, hn, rfl⟩ := List.mem_map.mp hc
    exact decide_eq_true (digit_ne_pad (sextets_lt bytes n hn))
  have hpadding : (padding bytes).takeWhile (· ≠ '=') = [] := by
    rw [padding, List.takeWhile_replicate]
    rfl
  rw [decode, encode, List.takeWhile_append_of_pos hdigits, hpadding, List.append_nil,
    values_digits (sextets_lt bytes),
    octets_sextets]

theorem mem_encode {bytes : List UInt8} {c : Char} (h : c ∈ encode bytes) :
    c.isAlphanum = true ∨ c = '+' ∨ c = '/' ∨ c = '=' := by
  have hdigit : ∀ n : Fin 64, (digit n).isAlphanum = true ∨ digit n = '+' ∨ digit n = '/' := by
    decide
  rcases List.mem_append.mp h with hmem | hmem
  · obtain ⟨n, hn, rfl⟩ := List.mem_map.mp hmem
    rcases hdigit ⟨n, sextets_lt bytes n hn⟩ with h | h | h
    · exact .inl h
    · exact .inr (.inl h)
    · exact .inr (.inr (.inl h))
  · exact .inr (.inr (.inr (List.eq_of_mem_replicate hmem)))

end Base64
