import Mathlib.Data.Nat.Basic
import OraidexSdk.Wire.Message

-- A runtime whose numbers are groups of seven bits, the lowest first, and whose texts are UTF-8.
namespace Wire.Base128
open Outcome Read

inductive WireError where
  | indexOutOfRange
  | invalidWireType (wireType : Nat)
  | invalidText
deriving DecidableEq, Repr

variable {ε : Type} (fail : WireError → ε)

def varint : Nat → Nat → List UInt8
  | 0, _ => []
  | n + 1, v =>
    if v < 128 then [UInt8.ofNat v] else UInt8.ofNat (v % 128 + 128) :: varint n (v / 128)

def readByte : Read ε UInt8 := fun r =>
  match r.buf[r.pos]? with
  | none => .error (fail .indexOutOfRange)
  | some byte => .ok (byte, r.advance 1)

def readVarint : Nat → Read ε Nat
  | 0 => throw (fail .indexOutOfRange)
  | n + 1 => do
    let byte ← readByte fail
    if byte.toNat < 128 then return byte.toNat
    else return byte.toNat - 128 + 128 * (← readVarint n)

def readBytes (length : Nat) : Read ε (List UInt8) := fun r =>
  if length ≤ r.unread.length then .ok (r.unread.take length, r.advance length)
  else .error (fail .indexOutOfRange)

def utf8 (s : String) : List UInt8 := s.toByteArray.data.toList

def readUtf8 (bytes : List UInt8) : Except ε String :=
  match String.fromUTF8? ⟨bytes.toArray⟩ with
  | none => .error (fail .invalidText)
  | some s => .ok s

def skipType : Nat → Nat → Read ε Unit
  | 0, _ => throw (fail .indexOutOfRange)
  | n + 1, wireType =>
    match wireType with
    | 0 => do let _ ← readVarint fail 10
    | 1 => do let _ ← readBytes fail 8
    | 2 => do let _ ← readBytes fail (← readVarint fail 5)
    | 3 => do
      let tag ← readVarint fail 5
      if tag % 8 = 4 then return ()
      else
        skipType n (tag % 8)
        skipType n 3
    | 5 => do let _ ← readBytes fail 4
    | other => throw (fail (.invalidWireType other))

def base128 : Runtime ε where
  uint32 v := varint 5 v
  uint64 v := varint 10 v
  string s := varint 5 (utf8 s).length ++ utf8 s
  readUint32 := readVarint fail 5
  readUint64 := readVarint fail 10
  readString := do
    let bytes ← readBytes fail (← readVarint fail 5)
    StateT.lift (readUtf8 fail bytes)
  skipType wireType := fun r => (skipType fail (r.buf.length + 1) wireType).run r

theorem readByte_takes (byte : UInt8) : Takes (readByte fail) [byte] (.ok byte) := by
  rintro r ⟨rest, hrest⟩
  have hbyte : r.buf[r.pos]? = some byte := by
    have hhead : r.unread[0]? = some byte := by rw [← hrest]; rfl
    simpa [Reader.unread, List.getElem?_drop] using hhead
  change readByte fail r = _
  simp only [readByte, hbyte]
  rfl

theorem readByte_progress : Progress (readByte fail) := by
  intro r byte r' h
  change readByte fail r = _ at h
  unfold readByte at h
  cases hbyte : r.buf[r.pos]? with
  | none =>
    rw [hbyte] at h
    cases h
  | some found =>
    rw [hbyte] at h
    cases h
    obtain ⟨hlt, -⟩ := List.getElem?_eq_some_iff.mp hbyte
    exact ⟨rfl, Nat.lt_succ_self _, hlt⟩

theorem readVarint_progress (n : Nat) : Progress (readVarint fail n) := by
  induction n with
  | zero =>
    intro r v r' h
    cases h
  | succ n ih =>
    intro r v r' h
    rw [readVarint, run_bind] at h
    obtain ⟨⟨byte, middle⟩, hbyte, hrest⟩ := bind_eq_ok.mp h
    obtain ⟨hbuf, hlt, hle⟩ := readByte_progress fail r byte middle hbyte
    by_cases hlast : byte.toNat < 128
    · rw [if_pos hlast] at hrest
      cases hrest
      exact ⟨hbuf, hlt, hle⟩
    · rw [if_neg hlast, run_bind] at hrest
      obtain ⟨⟨high, last⟩, hhigh, heq⟩ := bind_eq_ok.mp hrest
      obtain ⟨hbuf', hlt', hle'⟩ := ih middle high last hhigh
      cases heq
      rw [hbuf] at hle'
      exact ⟨hbuf'.trans hbuf, Nat.lt_trans hlt hlt', hle'⟩

theorem readVarint_takes (n v : Nat) (h : v < 128 ^ (n + 1)) :
    Takes (readVarint fail (n + 1)) (varint (n + 1) v) (.ok v) := by
  induction n generalizing v with
  | zero =>
    have hv : v < 128 := by simpa using h
    have hbyte : (UInt8.ofNat v).toNat = v := by
      rw [UInt8.toNat_ofNat']
      omega
    rw [varint, if_pos hv, readVarint, ← List.append_nil [UInt8.ofNat v]]
    refine takes_bind (readByte_takes fail _) ?_
    rw [if_pos (hbyte.trans_lt hv), hbyte]
    exact takes_lift (.ok v)
  | succ n ih =>
    rw [readVarint]
    by_cases hv : v < 128
    · have hbyte : (UInt8.ofNat v).toNat = v := by
        rw [UInt8.toNat_ofNat']
        omega
      rw [varint, if_pos hv, ← List.append_nil [UInt8.ofNat v]]
      refine takes_bind (readByte_takes fail _) ?_
      rw [if_pos (hbyte.trans_lt hv), hbyte]
      exact takes_lift (.ok v)
    · have hbyte : (UInt8.ofNat (v % 128 + 128)).toNat = v % 128 + 128 := by
        rw [UInt8.toNat_ofNat']
        omega
      have hhigh : v / 128 < 128 ^ (n + 1) := by
        rw [Nat.div_lt_iff_lt_mul (by norm_num), ← pow_succ]
        exact h
      rw [varint, if_neg hv, ← List.singleton_append]
      refine takes_bind (readByte_takes fail _) ?_
      rw [if_neg (by omega), hbyte]
      have := takes_map (fun high => v % 128 + 128 - 128 + 128 * high) (ih (v / 128) hhigh)
      rwa [show (fun high => v % 128 + 128 - 128 + 128 * high) <$> (Except.ok (v / 128) :
        Except ε Nat) = .ok v from congrArg Except.ok (by dsimp only; omega)] at this

theorem readBytes_takes (bytes : List UInt8) :
    Takes (readBytes fail bytes.length) bytes (.ok bytes) := by
  rintro r ⟨rest, hrest⟩
  have hfits : bytes.length ≤ r.unread.length := by
    rw [← hrest, List.length_append]
    exact Nat.le_add_right _ _
  change readBytes fail bytes.length r = _
  rw [readBytes, if_pos hfits, ← hrest, List.take_left]
  rfl

theorem readBytes_forward (length : Nat) : Forward (readBytes fail length) := by
  intro r bytes r' h
  change readBytes fail length r = _ at h
  unfold readBytes at h
  split at h
  · cases h
    exact ⟨rfl, Nat.le_add_right _ _⟩
  · cases h

theorem readUtf8_utf8 (s : String) : readUtf8 fail (utf8 s) = .ok s := by
  have hvalid : String.fromUTF8? ⟨(utf8 s).toArray⟩ = some s := by
    simp only [utf8, String.fromUTF8?]
    exact dif_pos s.isValidUTF8
  rw [readUtf8, hvalid]

theorem skipType_forward (n wireType : Nat) : Forward (skipType fail n wireType) := by
  induction n generalizing wireType with
  | zero => exact forward_throw _
  | succ n ih =>
    unfold skipType
    split
    · exact (readVarint_progress fail 10).forward.bind fun _ => forward_pure _
    · exact (readBytes_forward fail 8).bind fun _ => forward_pure _
    · exact (readVarint_progress fail 5).forward.bind fun length =>
        (readBytes_forward fail length).bind fun _ => forward_pure _
    · refine (readVarint_progress fail 5).forward.bind fun tag => ?_
      split
      · exact forward_pure _
      · exact (ih (tag % 8)).bind fun _ => ih 3
    · exact (readBytes_forward fail 4).bind fun _ => forward_pure _
    · exact forward_throw _

theorem skipType_takes {wireType : Nat} {bytes : List UInt8} (h : (base128 fail).Body wireType bytes)
    (hlength : bytes.length < 2 ^ 32) (n : Nat) (hn : bytes.length < n) :
    Takes (skipType fail n wireType) bytes (.ok ()) := by
  induction h generalizing n with
  | varint v hv =>
    obtain ⟨n, rfl⟩ := Nat.exists_eq_succ_of_ne_zero (Nat.ne_zero_of_lt hn)
    exact takes_map (fun _ => ()) (readVarint_takes fail 9 v (hv.trans (by norm_num)))
  | fixed64 bytes hbytes =>
    obtain ⟨n, rfl⟩ := Nat.exists_eq_succ_of_ne_zero (Nat.ne_zero_of_lt hn)
    have := takes_map (fun _ => ()) (readBytes_takes fail bytes)
    rwa [hbytes] at this
  | delimited bytes hbytes =>
    obtain ⟨n, rfl⟩ := Nat.exists_eq_succ_of_ne_zero (Nat.ne_zero_of_lt hn)
    exact takes_bind (readVarint_takes fail 4 _ (hbytes.trans (by norm_num)))
      (takes_map (fun _ => ()) (readBytes_takes fail bytes))
  | fixed32 bytes hbytes =>
    obtain ⟨n, rfl⟩ := Nat.exists_eq_succ_of_ne_zero (Nat.ne_zero_of_lt hn)
    have := takes_map (fun _ => ()) (readBytes_takes fail bytes)
    rwa [hbytes] at this
  | groupEnd tag htag hend =>
    obtain ⟨n, rfl⟩ := Nat.exists_eq_succ_of_ne_zero (Nat.ne_zero_of_lt hn)
    have hstop : Takes (if tag % 8 = 4 then pure () else do
        skipType fail n (tag % 8)
        skipType fail n 3) [] (.ok ()) := by
      rw [if_pos hend]
      exact takes_lift (.ok ())
    have := takes_bind (f := fun tag => if tag % 8 = 4 then pure () else do
      skipType fail n (tag % 8)
      skipType fail n 3) (readVarint_takes fail 4 tag (htag.trans (by norm_num))) hstop
    rwa [List.append_nil] at this
  | groupField tag field rest htag hend _ _ ihfield ihrest =>
    obtain ⟨n, rfl⟩ := Nat.exists_eq_succ_of_ne_zero (Nat.ne_zero_of_lt hn)
    have htagged : 0 < ((base128 fail).uint32 tag).length :=
      List.length_pos_iff.mpr (ne_nil_of_takes (readVarint_progress fail 5)
        (readVarint_takes fail 4 tag (htag.trans (by norm_num))))
    rw [List.length_append, List.length_append] at hn hlength
    refine takes_bind (readVarint_takes fail 4 tag (htag.trans (by norm_num))) ?_
    rw [if_neg hend]
    exact takes_bind (ihfield (by omega) n (by omega)) (ihrest (by omega) n (by omega))

theorem base128_lawful : (base128 fail).Lawful where
  uint32_takes v hv := readVarint_takes fail 4 v (hv.trans (by norm_num))
  uint64_takes v hv := readVarint_takes fail 9 v (hv.trans (by norm_num))
  string_takes s hs := by
    have hlength : (utf8 s).length < 2 ^ 32 := by
      change (varint 5 (utf8 s).length ++ utf8 s).length < _ at hs
      rw [List.length_append] at hs
      omega
    have hread : Takes (do StateT.lift (readUtf8 fail (← readBytes fail (utf8 s).length)))
        (utf8 s) (.ok s) := by
      have := takes_bind (f := fun bytes => StateT.lift (readUtf8 fail bytes))
        (readBytes_takes fail (utf8 s)) (takes_lift (readUtf8 fail (utf8 s)))
      rwa [List.append_nil, readUtf8_utf8 fail] at this
    exact takes_bind (readVarint_takes fail 4 _ (hlength.trans (by norm_num))) hread
  skip_takes wireType bytes hlength hbody := by
    intro r h
    refine skipType_takes fail hbody hlength (r.buf.length + 1) ?_ r h
    have := h.length_le
    simp only [Reader.unread, List.length_drop] at this
    omega
  uint32_progress := readVarint_progress fail 5
  uint64_forward := (readVarint_progress fail 10).forward
  string_forward := by
    refine Forward.bind (readVarint_progress fail 5).forward fun length => ?_
    exact (readBytes_forward fail length).bind fun bytes => forward_lift (readUtf8 fail bytes)
  skip_forward wireType := fun r => skipType_forward fail (r.buf.length + 1) wireType r

end Wire.Base128
