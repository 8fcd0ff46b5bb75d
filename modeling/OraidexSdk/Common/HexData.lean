import OraidexSdk.Common.EvmAddress

namespace OraidexSdk
open Js

def hexPair (high low : Char) : Option UInt8 := do
  return UInt8.ofNat (16 * (← digitVal? high) + (← digitVal? low))

def hexBytes : List Char → Option (List UInt8)
  | [] => some []
  | high :: low :: cs => do return (← hexPair high low) :: (← hexBytes cs)
  | [_] => none

def hexChars (bytes : List UInt8) : List Char := bytes.flatMap hexByte

-- ethers.utils.arrayify of a hex text, and ethers.utils.hexlify
def arrayify (data : String) : Option (List UInt8) :=
  match data.toList with
  | '0' :: 'x' :: cs => hexBytes cs
  | _ => none

def hexlify (bytes : List UInt8) : String := String.ofList ('0' :: 'x' :: hexChars bytes)

def hexDigits : List Char := "0123456789abcdefABCDEF".toList

section HexData

theorem toDigits_byte {n : Nat} (hn : n < 256) (hlong : 16 ≤ n) :
    Nat.toDigits 16 n = [Nat.digitChar (n / 16), Nat.digitChar (n % 16)] := by
  rw [Nat.toDigits_of_base_le (by decide) hlong, Nat.toDigits_of_lt_base (by omega)]
  rfl

theorem hexByte_eq (b : UInt8) :
    hexByte b = [Nat.digitChar (b.toNat / 16), Nat.digitChar (b.toNat % 16)] := by
  have hb : b.toNat < 256 := b.toNat_lt
  rcases Nat.lt_or_ge b.toNat 16 with hshort | hlong
  · rw [hexByte, Nat.toDigits_of_lt_base hshort, Nat.div_eq_of_lt hshort, Nat.mod_eq_of_lt hshort]
    rfl
  · rw [hexByte, toDigits_byte hb hlong]
    rfl

theorem digitChar_reads {d : Nat} (hd : d < 16) :
    digitVal? (Nat.digitChar d) = some d ∧ isHexDigit (Nat.digitChar d) = true := by
  have hall : ∀ d < 16, digitVal? (Nat.digitChar d) = some d ∧
      isHexDigit (Nat.digitChar d) = true := by decide
  exact hall d hd

theorem hexPair_eq {high low : Char} {d e : Nat} (hhigh : digitVal? high = some d)
    (hlow : digitVal? low = some e) : hexPair high low = some (UInt8.ofNat (16 * d + e)) := by
  rw [hexPair, hhigh, hlow]
  rfl

theorem hexByte_reads (b : UInt8) :
    ∃ high low, hexByte b = [high, low] ∧ hexPair high low = some b := by
  have hb : b.toNat < 256 := b.toNat_lt
  have hhigh := (digitChar_reads (show b.toNat / 16 < 16 by omega)).1
  have hlow := (digitChar_reads (Nat.mod_lt b.toNat (show 0 < 16 by decide))).1
  refine ⟨_, _, hexByte_eq b, ?_⟩
  rw [hexPair_eq hhigh hlow, Nat.div_add_mod, UInt8.ofNat_toNat]

theorem hexByte_isHexDigit (b : UInt8) : (hexByte b).all isHexDigit = true := by
  have hb : b.toNat < 256 := b.toNat_lt
  have hhigh := (digitChar_reads (show b.toNat / 16 < 16 by omega)).2
  have hlow := (digitChar_reads (Nat.mod_lt b.toNat (show 0 < 16 by decide))).2
  simp [hexByte_eq, hhigh, hlow]

theorem hexDigit_mem {c : Char} (h : isHexDigit c = true) : c ∈ hexDigits := by
  have hall : ∀ n < 103, isHexDigit (Char.ofNat n) = true → Char.ofNat n ∈ hexDigits := by decide
  have hlt : c.toNat < 103 := by
    simp only [isHexDigit, Bool.or_eq_true, Bool.and_eq_true, decide_eq_true_eq,
      Char.isDigit_iff_toNat] at h
    have hle {a b : Char} (hab : a ≤ b) : a.toNat ≤ b.toNat := hab
    have h9 : '9'.toNat = 57 := rfl
    rcases h with (⟨-, hdigit⟩ | ⟨-, hlower⟩) | ⟨-, hupper⟩
    · omega
    · exact Nat.lt_succ_of_le (hle hlower)
    · exact (Nat.lt_succ_of_le (hle hupper)).trans (by decide)
  have hc := hall c.toNat hlt
  rw [Char.ofNat_toNat] at hc
  exact hc h

theorem hexDigit_reads {c : Char} (h : c ∈ hexDigits) :
    ∃ d < 16, digitVal? c = some d ∧ Nat.digitChar d = c.toLower := by
  have hall : hexDigits.all (fun c => ((digitVal? c).getD 16 < 16 &&
      (digitVal? c).map Nat.digitChar = some c.toLower)) = true := by decide
  have hread := List.all_eq_true.mp hall c h
  rw [Bool.and_eq_true, decide_eq_true_eq, decide_eq_true_eq] at hread
  obtain ⟨hlt, hchar⟩ := hread
  obtain ⟨d, hd, hlower⟩ := Option.map_eq_some_iff.mp hchar
  rw [hd] at hlt
  exact ⟨d, hlt, hd, hlower⟩

theorem hexPair_of_mem {high low : Char} (hhigh : high ∈ hexDigits) (hlow : low ∈ hexDigits) :
    ∃ b, hexPair high low = some b ∧ hexByte b = [high.toLower, low.toLower] := by
  obtain ⟨d, hd, hhighVal, hhighChar⟩ := hexDigit_reads hhigh
  obtain ⟨e, he, hlowVal, hlowChar⟩ := hexDigit_reads hlow
  have hvalue : (UInt8.ofNat (16 * d + e)).toNat = 16 * d + e :=
    UInt8.toNat_ofNat_of_lt' (show 16 * d + e < 256 by omega)
  have hdiv : (16 * d + e) / 16 = d := by omega
  have hmod : (16 * d + e) % 16 = e := by omega
  refine ⟨_, hexPair_eq hhighVal hlowVal, ?_⟩
  rw [hexByte_eq, hvalue, hdiv, hmod, hhighChar, hlowChar]

@[simp] theorem hexChars_nil : hexChars [] = [] := rfl

@[simp] theorem hexChars_cons (b : UInt8) (bytes : List UInt8) :
    hexChars (b :: bytes) = hexByte b ++ hexChars bytes := List.flatMap_cons

theorem hexBytes_append {cs ds : List Char} {bytes : List UInt8} (h : hexBytes cs = some bytes) :
    hexBytes (cs ++ ds) = (hexBytes ds).map (bytes ++ ·) := by
  induction cs using hexBytes.induct generalizing bytes with
  | case1 =>
    obtain rfl := Option.some.inj h
    simp
  | case2 high low cs ih =>
    obtain ⟨b, hpair, hrest⟩ := Option.bind_eq_some_iff.mp h
    obtain ⟨rest, hcs, hbytes⟩ := Option.bind_eq_some_iff.mp hrest
    obtain rfl := Option.some.inj hbytes
    have htail := ih hcs
    cases hds : hexBytes ds <;> simp [hexBytes, hpair, htail, hds]
  | case3 c => cases h

theorem hexBytes_hexChars (bytes : List UInt8) : hexBytes (hexChars bytes) = some bytes := by
  induction bytes with
  | nil => rfl
  | cons b bytes ih =>
    obtain ⟨high, low, hbyte, hpair⟩ := hexByte_reads b
    simp [hbyte, hexBytes, hpair, ih]

@[simp] theorem hexChars_length (bytes : List UInt8) :
    (hexChars bytes).length = 2 * bytes.length := by
  induction bytes with
  | nil => rfl
  | cons b bytes ih =>
    obtain ⟨high, low, hbyte, -⟩ := hexByte_reads b
    simp [hbyte, ih]
    omega

theorem hexChars_isHexDigit (bytes : List UInt8) : (hexChars bytes).all isHexDigit = true := by
  induction bytes with
  | nil => rfl
  | cons b bytes ih =>
    simp only [hexChars_cons, List.all_append, hexByte_isHexDigit, ih, Bool.and_self]

theorem hexChars_take (bytes : List UInt8) (n : Nat) :
    (hexChars bytes).take (2 * n) = hexChars (bytes.take n) := by
  induction n generalizing bytes with
  | zero => rfl
  | succ n ih =>
    cases bytes with
    | nil => rfl
    | cons b bytes =>
      obtain ⟨high, low, hbyte, -⟩ := hexByte_reads b
      simp [hbyte, Nat.mul_succ, ih]

theorem exists_hexBytes (n : Nat) {cs : List Char} (hlength : cs.length = 2 * n)
    (hhex : cs.all isHexDigit = true) :
    ∃ bytes, hexBytes cs = some bytes ∧ bytes.length = n ∧
      hexChars bytes = cs.map Char.toLower := by
  induction n generalizing cs with
  | zero =>
    obtain rfl := List.length_eq_zero_iff.mp hlength
    exact ⟨[], rfl, rfl, rfl⟩
  | succ n ih =>
    match cs, hlength with
    | high :: low :: cs, hlength =>
      simp only [List.all_cons, Bool.and_eq_true] at hhex
      have hrest : cs.length = 2 * n := by
        rw [List.length_cons, List.length_cons] at hlength
        omega
      obtain ⟨bytes, hbytes, hcount, hchars⟩ := ih hrest hhex.2.2
      obtain ⟨b, hpair, hbyte⟩ :=
        hexPair_of_mem (hexDigit_mem hhex.1) (hexDigit_mem hhex.2.1)
      refine ⟨b :: bytes, ?_, by simp [hcount], by simp [hbyte, hchars]⟩
      simp [hexBytes, hpair, hbytes]

theorem arrayify_ofList (cs : List Char) :
    arrayify (String.ofList ('0' :: 'x' :: cs)) = hexBytes cs := by
  rw [arrayify, String.toList_ofList]
  rfl

theorem arrayify_hexlify (bytes : List UInt8) : arrayify (hexlify bytes) = some bytes := by
  rw [hexlify, arrayify_ofList, hexBytes_hexChars]

end HexData

end OraidexSdk
