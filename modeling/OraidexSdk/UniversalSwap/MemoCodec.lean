import OraidexSdk.UniversalSwap.MemoWire
import OraidexSdk.Wire.Base128

namespace OraidexSdk.UniversalSwap
open Js Wire

namespace Memo

def fieldBytes (rt : Runtime JsError) (memo : Memo) : List (List UInt8) :=
  (memo.chunks rt MAX_SAFE_INTEGER).map Chunk.bytes

theorem flatten_fieldBytes (rt : Runtime JsError) (memo : Memo) :
    (memo.fieldBytes rt).flatten = memo.encode rt := by
  rw [fieldBytes, ← bytesOf_chunks, Chunk.bytesOf, List.flatMap_def]

-- The wire that the examples are run on.
def exampleWire : Runtime JsError := Base128.base128 fun
  | .indexOutOfRange => .rangeError
  | .invalidWireType _ => .error "invalid wire type"
  | .invalidText => .error "invalid text"

theorem exampleWire_lawful : exampleWire.Lawful := Base128.base128_lawful _

def exampleMemo : Memo where
  userSwap := some ⟨SWAP_VENUE_NAME, none, some ⟨[⟨"10", [⟨"1", "a", "b"⟩, ⟨"2", "b", "c"⟩]⟩]⟩⟩
  minimumReceive := "9"
  timeoutTimestamp := 300
  postSwapAction := some ⟨none, some ⟨"channel-1", "0x", "d", some 7, some ""⟩, none, none⟩
  recoveryAddr := "orai"

def laterMemo : Memo := { createBase with timeoutTimestamp := 500, recoveryAddr := "cosmos" }

theorem memo_round_trip {rt : Runtime JsError} (hrt : rt.Lawful) {memo : Memo}
    (hfits : Fits memo.numbers) (hlength : (memo.encode rt).length < 2 ^ 32) :
    (decode rt (memo.encode rt) =
      if Safe memo.numbers then .ok memo
      else .error (.error "Value is larger than Number.MAX_SAFE_INTEGER")) ∧
    ∀ other : Memo, Fits other.numbers → other.encode rt = memo.encode rt → other = memo := by
  refine ⟨decode_encode hrt hfits hlength, fun other hother hsame => ?_⟩
  -- A reader whose numbers have all 64 bits tells the two apart.
  have hmemo : decodeWithin rt (2 ^ 64 - 1) (memo.encode rt) = .ok memo := by
    rw [decode_encode hrt hfits hlength, checked_safe hfits.within]
  have hagain : decodeWithin rt (2 ^ 64 - 1) (other.encode rt) = .ok other := by
    rw [decode_encode hrt hother (hsame ▸ hlength), checked_safe hother.within]
  rw [hsame, hmemo] at hagain
  exact (Except.ok.inj hagain).symm

theorem memo_round_trip_example :
    (decode exampleWire (exampleMemo.encode exampleWire) =
      if Safe exampleMemo.numbers then .ok exampleMemo
      else .error (.error "Value is larger than Number.MAX_SAFE_INTEGER")) ∧
    ∀ other : Memo, Fits other.numbers → other.encode exampleWire = exampleMemo.encode exampleWire →
      other = exampleMemo :=
  memo_round_trip exampleWire_lawful (by decide) (by decide +kernel)

theorem memo_concatenation {rt : Runtime JsError} (hrt : rt.Lawful) {earlier later : Memo}
    (hearlier : Fits earlier.numbers) (hlater : Fits later.numbers)
    (hlength : (earlier.encode rt ++ later.encode rt).length < 2 ^ 32) :
    decode rt (earlier.encode rt ++ later.encode rt) =
      if Safe (earlier.numbers ++ later.numbers) then .ok (merge earlier later)
      else .error tooLarge := by
  rw [← bytesOf_chunks rt MAX_SAFE_INTEGER, ← bytesOf_chunks rt MAX_SAFE_INTEGER,
    ← Chunk.bytesOf_append] at hlength ⊢
  rw [decode, decode_chunks hrt (Chunk.allSound_append.mpr ⟨chunks_sound hrt hearlier,
    chunks_sound hrt hlater⟩) hlength, Chunk.apply_append, apply_chunks, merge_createBase]
  change _ = checked MAX_SAFE_INTEGER (earlier.numbers ++ later.numbers) (merge earlier later)
  by_cases hsafe : Safe earlier.numbers
  · rw [checked_safe hsafe, Outcome.ok_bind, apply_chunks]
    by_cases hsafe' : Safe later.numbers
    · rw [checked_safe hsafe', checked_safe (within_append.mpr ⟨hsafe, hsafe'⟩)]
    · rw [checked_large hsafe', checked_large fun h => hsafe' (within_append.mp h).2]
  · rw [checked_large hsafe, checked_large fun h => hsafe (within_append.mp h).1]
    rfl

theorem memo_concatenation_example :
    decode exampleWire (exampleMemo.encode exampleWire ++ laterMemo.encode exampleWire) =
      if Safe (exampleMemo.numbers ++ laterMemo.numbers) then .ok (merge exampleMemo laterMemo)
      else .error tooLarge :=
  memo_concatenation exampleWire_lawful (by decide) (by decide) (by decide +kernel)

inductive Sets (memo : Memo) : (Memo → Except JsError Memo) → Prop where
  | userSwap (v : UserSwap) (h : memo.userSwap = some v) :
      Sets memo fun m => .ok { m with userSwap := some v }
  | minimumReceive : Sets memo fun m => .ok { m with minimumReceive := memo.minimumReceive }
  | timeoutTimestamp : Sets memo fun m => .ok { m with timeoutTimestamp := memo.timeoutTimestamp }
  | postSwapAction (v : PostAction) (h : memo.postSwapAction = some v) :
      Sets memo fun m => .ok { m with postSwapAction := some v }
  | recoveryAddr : Sets memo fun m => .ok { m with recoveryAddr := memo.recoveryAddr }
  | nothing : Sets memo .ok

theorem Sets.commute {memo : Memo} {first second : Memo → Except JsError Memo}
    (hfirst : Sets memo first) (hsecond : Sets memo second) (m : Memo) :
    (first m >>= second) = (second m >>= first) := by
  cases hfirst with
  | userSwap v h =>
    cases hsecond with
    | userSwap w h' =>
      obtain rfl := Option.some.inj (h.symm.trans h')
      rfl
    | _ => rfl
  | postSwapAction v h =>
    cases hsecond with
    | postSwapAction w h' =>
      obtain rfl := Option.some.inj (h.symm.trans h')
      rfl
    | _ => rfl
  | _ => cases hsecond <;> rfl

theorem sets_of_mem {rt : Runtime JsError} {memo : Memo} (hsafe : Safe memo.numbers)
    {chunk : Chunk JsError Memo} (h : chunk ∈ memo.chunks rt MAX_SAFE_INTEGER) :
    Sets memo chunk.update := by
  simp only [chunks, List.mem_append, or_assoc] at h
  rcases h with h | h | h | h | h
  · obtain ⟨v, hv, rfl⟩ := Chunk.mem_optional h
    exact .userSwap v hv
  · rw [Chunk.update_of_mem_text rt h]
    exact .minimumReceive
  · split at h
    · have hnumber := longToNumber_safe (hsafe memo.timeoutTimestamp List.mem_cons_self)
      rw [List.mem_singleton.mp h, hnumber]
      exact .timeoutTimestamp
    · cases h
  · obtain ⟨v, hv, rfl⟩ := Chunk.mem_optional h
    rw [numbers_of_mem hv] at hsafe
    rw [Chunk.message, checked_safe (within_cons.mp hsafe).2]
    exact .postSwapAction v hv
  · rw [Chunk.update_of_mem_text rt h]
    exact .recoveryAddr

theorem fits_of_safe {numbers : List Nat} (h : Safe numbers) : Fits numbers := fun number hmem =>
  Nat.lt_of_le_of_lt (h number hmem) (by decide)

variable {rt : Runtime JsError}

-- What may follow the fields: nothing, or a tag that ends the message and whatever comes then.
inductive Trailer (rt : Runtime JsError) : List UInt8 → Prop where
  | nothing : Trailer rt []
  | stop (tag : Nat) (htag : tag < 2 ^ 32) (hends : tag % 8 = 4 ∨ tag = 0) (junk : List UInt8) :
      Trailer rt (rt.uint32 tag ++ junk)

theorem lookup_of_ends {tag : Nat} (h : tag % 8 = 4 ∨ tag = 0) :
    (fields rt MAX_SAFE_INTEGER).lookup tag = none := by
  rw [List.lookup_eq_none_iff]
  simp only [fields, List.mem_cons, List.not_mem_nil, or_false]
  rintro field (rfl | rfl | rfl | rfl | rfl) <;> simp <;> omega

theorem memo_fields_in_any_order (hrt : rt.Lawful) {memo : Memo} (hsafe : Safe memo.numbers)
    {unknown layout : List (List UInt8)}
    (hunknown : ∀ field ∈ unknown, rt.Unknown (fields rt MAX_SAFE_INTEGER) field)
    (hlayout : layout.Perm (memo.fieldBytes rt ++ unknown)) (hlength : layout.flatten.length < 2 ^ 32)
    {trailer : List UInt8} (htrailer : Trailer rt trailer) :
    decode rt (layout.flatten ++ trailer) = .ok memo := by
  have hbytes : (memo.chunks rt MAX_SAFE_INTEGER ++ unknown.map Chunk.unknown).map Chunk.bytes =
      memo.fieldBytes rt ++ unknown := by
    simp [fieldBytes, Chunk.unknown, Function.comp_def]
  obtain ⟨chunks, hperm, rfl⟩ := Chunk.exists_bytes_perm (hbytes ▸ hlayout)
  rw [← List.flatMap_def] at hlength ⊢
  have hsound : Chunk.AllSound rt (fields rt MAX_SAFE_INTEGER) chunks := by
    intro chunk hchunk
    rcases List.mem_append.mp (hperm.mem_iff.mp hchunk) with h | h
    · exact chunks_sound hrt (fits_of_safe hsafe) chunk h
    · obtain ⟨bytes, hbytes, rfl⟩ := List.mem_map.mp h
      exact sound_unknown hrt (hunknown bytes hbytes)
  have hsets : ∀ chunk ∈ chunks, Sets memo chunk.update := by
    intro chunk hchunk
    rcases List.mem_append.mp (hperm.mem_iff.mp hchunk) with h | h
    · exact sets_of_mem hsafe h
    · obtain ⟨bytes, -, rfl⟩ := List.mem_map.mp h
      exact .nothing
  have hresult : Chunk.apply chunks createBase = .ok memo := by
    rw [Chunk.apply_perm hperm fun first hfirst second hsecond =>
      (hsets first hfirst).commute (hsets second hsecond), Chunk.apply_append, apply_chunks,
      merge_createBase, checked_safe hsafe, Outcome.ok_bind, Chunk.apply_unknown]
  cases htrailer with
  | nothing =>
    rw [List.append_nil]
    exact (decode_chunks hrt hsound hlength).trans hresult
  | stop tag htag hends junk =>
    exact (decodeInput_stopped hrt (fields_forward hrt) hsound hlength htag (lookup_of_ends hends)
      hends junk createBase).trans hresult

theorem memo_fields_in_any_order_example :
    decode exampleWire
        ((exampleMemo.fieldBytes exampleWire ++ [[112, 9]]).reverse.flatten ++ [4, 255]) =
      .ok exampleMemo :=
  memo_fields_in_any_order exampleWire_lawful (by decide)
    (fun field hfield => by
      rw [List.mem_singleton.mp hfield]
      exact ⟨⟨112, [9], by decide, by decide, by decide, by decide, .varint 9 (by decide), rfl⟩⟩)
    (List.reverse_perm _) (by decide +kernel)
    (.stop 4 (by decide) (by decide) [255])

end Memo

end OraidexSdk.UniversalSwap
