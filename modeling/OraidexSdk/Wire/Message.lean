import Mathlib.Tactic.NormNum
import OraidexSdk.Ordered.Keyed
import OraidexSdk.Wire.Reader

namespace Wire
open Outcome Fueled Read

structure Runtime (ε : Type) where
  uint32 : Nat → List UInt8
  uint64 : Nat → List UInt8
  string : String → List UInt8
  readUint32 : Read ε Nat
  readUint64 : Read ε Nat
  readString : Read ε String
  skipType : Nat → Read ε Unit

variable {ε σ τ : Type}

namespace Runtime

variable (rt : Runtime ε)

-- A field that a decoder can pass over, by its wire type. A group runs to its end tag.
inductive Body : Nat → List UInt8 → Prop where
  | varint (v : Nat) (h : v < 2 ^ 64) : Body 0 (rt.uint64 v)
  | fixed64 (bytes : List UInt8) (h : bytes.length = 8) : Body 1 bytes
  | delimited (bytes : List UInt8) (h : bytes.length < 2 ^ 32) :
      Body 2 (rt.uint32 bytes.length ++ bytes)
  | fixed32 (bytes : List UInt8) (h : bytes.length = 4) : Body 5 bytes
  | groupEnd (tag : Nat) (htag : tag < 2 ^ 32) (h : tag % 8 = 4) : Body 3 (rt.uint32 tag)
  | groupField (tag : Nat) (bytes rest : List UInt8) (htag : tag < 2 ^ 32) (h : tag % 8 ≠ 4)
      (hfield : Body (tag % 8) bytes) (hrest : Body 3 rest) :
      Body 3 (rt.uint32 tag ++ (bytes ++ rest))

-- What a decoder relies on: each primitive reads back what the writer wrote, a field can be
-- skipped, and no read goes back.
structure Lawful : Prop where
  uint32_takes : ∀ v < 2 ^ 32, Takes rt.readUint32 (rt.uint32 v) (.ok v)
  uint64_takes : ∀ v < 2 ^ 64, Takes rt.readUint64 (rt.uint64 v) (.ok v)
  string_takes : ∀ s, (rt.string s).length < 2 ^ 32 → Takes rt.readString (rt.string s) (.ok s)
  skip_takes : ∀ wireType bytes, bytes.length < 2 ^ 32 → rt.Body wireType bytes →
    Takes (rt.skipType wireType) bytes (.ok ())
  uint32_progress : Progress rt.readUint32
  uint64_forward : Forward rt.readUint64
  string_forward : Forward rt.readString
  skip_forward : ∀ wireType, Forward (rt.skipType wireType)

theorem Lawful.uint32_ne_nil {rt : Runtime ε} (hrt : rt.Lawful) {v : Nat} (h : v < 2 ^ 32) :
    rt.uint32 v ≠ [] :=
  ne_nil_of_takes hrt.uint32_progress (hrt.uint32_takes v h)

end Runtime

abbrev Fields (ε σ : Type) := List (Nat × (σ → Read ε σ))

def Fields.Forward (fields : Fields ε σ) : Prop :=
  ∀ field ∈ fields, ∀ message, Read.Forward (field.2 message)

section Decode

variable (rt : Runtime ε) (fields : Fields ε σ)

-- A turn takes one field, or stops at a tag that ends the message.
def takeField (message : σ) (tag : Nat) : Read ε (σ ⊕ σ) :=
  match fields.lookup tag with
  | some field => do return .inl (← field message)
  | none =>
    if tag % 8 = 4 ∨ tag = 0 then pure (.inr message)
    else do
      rt.skipType (tag % 8)
      return .inl message

def turn (message : σ) : Read ε (σ ⊕ σ) := do takeField rt fields message (← rt.readUint32)

def round (stop : Nat) (state : σ × Reader) : Except ε ((σ × Reader) ⊕ (σ × Reader)) :=
  if state.2.pos < stop then do
    let (next, reader) ← (turn rt fields state.1).run state.2
    return next.map (·, reader) (·, reader)
  else .ok (.inr state)

def rounds (stop : Nat) (state : σ × Reader) : Fueled ε (σ × Reader) :=
  loop (round rt fields stop) state

-- while (reader.pos < end): no message has more fields than bytes.
def decode (base : σ) (length : Nat) : Read ε σ := fun reader =>
  ((rounds rt fields (reader.pos + length) (base, reader)).run (reader.buf.length + 1)).getD
    (.ok (base, reader))

def decodeInput (base : σ) (input : List UInt8) : Except ε σ :=
  Prod.fst <$> (decode rt fields base input.length).run ⟨input, 0⟩

end Decode

section Rounds

variable {rt : Runtime ε} {fields : Fields ε σ} {stop : Nat} {message : σ} {r : Reader}

theorem round_error (hpos : r.pos < stop) {e : ε} (h : (turn rt fields message).run r = .error e) :
    round rt fields stop (message, r) = .error e := by
  simp [round, hpos, h, Except.bind, bind]

theorem round_ok (hpos : r.pos < stop) {next : σ ⊕ σ} {r' : Reader}
    (h : (turn rt fields message).run r = .ok (next, r')) :
    round rt fields stop (message, r) = .ok (next.map (·, r') (·, r')) := by
  simp [round, hpos, h, ok_bind, pure, Except.pure]

theorem round_stop (hpos : stop ≤ r.pos) :
    round rt fields stop (message, r) = .ok (.inr (message, r)) :=
  if_neg (Nat.not_lt.mpr hpos)

theorem round_cases {moved : (σ × Reader) ⊕ (σ × Reader)}
    (h : round rt fields stop (message, r) = .ok moved) :
    moved = .inr (message, r) ∨
      ∃ next r', (turn rt fields message).run r = .ok (next, r') ∧
        moved = next.map (·, r') (·, r') := by
  by_cases hpos : r.pos < stop
  · cases hturn : (turn rt fields message).run r with
    | error e =>
      rw [round_error hpos hturn] at h
      cases h
    | ok taken =>
      rw [round_ok hpos hturn] at h
      exact .inr ⟨taken.1, taken.2, rfl, (Except.ok.inj h).symm⟩
  · rw [round_stop (Nat.le_of_not_lt hpos)] at h
    exact .inl (Except.ok.inj h).symm

end Rounds

section Termination

variable {rt : Runtime ε} {fields : Fields ε σ} (hrt : rt.Lawful) (hfields : fields.Forward)

include hrt hfields

theorem takeField_forward (message : σ) (tag : Nat) : Forward (takeField rt fields message tag) := by
  unfold takeField
  cases hfield : fields.lookup tag with
  | some field =>
    exact (hfields _ (Keyed.mem_of_lookup hfield) message).bind fun _ => forward_pure _
  | none =>
    simp only
    split
    · exact forward_pure _
    · exact (hrt.skip_forward _).bind fun _ => forward_pure _

theorem turn_progress {message : σ} {next : σ ⊕ σ} {r r' : Reader}
    (h : (turn rt fields message).run r = .ok (next, r')) :
    r'.buf = r.buf ∧ r.pos < r'.pos ∧ r.pos < r.buf.length := by
  obtain ⟨⟨tag, middle⟩, htag, hrest⟩ := bind_eq_ok.mp h
  obtain ⟨hbuf, hlt, hle⟩ := hrt.uint32_progress r tag middle htag
  obtain ⟨hbuf', hle'⟩ := takeField_forward hrt hfields message tag middle next r' hrest
  exact ⟨hbuf'.trans hbuf, by omega, by omega⟩

-- The turns that go on are at most the bytes that are left, and none goes back.
theorem rounds_run (stop n : Nat) (state : σ × Reader)
    (h : state.2.buf.length - state.2.pos < n) :
    ∃ result, (rounds rt fields stop state).run n = some result ∧
      ∀ done, result = .ok done → done.2.buf = state.2.buf ∧ state.2.pos ≤ done.2.pos := by
  induction n generalizing state with
  | zero => exact absurd h (Nat.not_lt_zero _)
  | succ n ih =>
    obtain ⟨message, r⟩ := state
    cases hround : round rt fields stop (message, r) with
    | error e => exact ⟨_, loopRun_error hround n, fun done hdone => by cases hdone⟩
    | ok moved =>
      rcases round_cases hround with rfl | ⟨next, r', hturn, rfl⟩
      · refine ⟨_, loopRun_done hround n, ?_⟩
        rintro done ⟨⟩
        exact ⟨rfl, Nat.le_refl _⟩
      · obtain ⟨hbuf, hlt, hle⟩ := turn_progress hrt hfields hturn
        cases next with
        | inr m =>
          refine ⟨_, loopRun_done hround n, ?_⟩
          rintro done ⟨⟩
          exact ⟨hbuf, Nat.le_of_lt hlt⟩
        | inl m =>
          have hnext : r'.buf.length - r'.pos < n := by
            rw [hbuf]
            change r.buf.length - r.pos < n + 1 at h
            omega
          obtain ⟨result, hresult, hforward⟩ := ih (m, r') hnext
          refine ⟨result, (loopRun_next hround n).trans hresult, fun done hdone => ?_⟩
          obtain ⟨hbuf', hle'⟩ := hforward done hdone
          exact ⟨hbuf'.trans hbuf, Nat.le_trans (Nat.le_of_lt hlt) hle'⟩

theorem decode_of_ends {base : σ} {length : Nat} {r : Reader} {result : Except ε (σ × Reader)}
    (h : Ends (rounds rt fields (r.pos + length) (base, r)) result) :
    (decode rt fields base length).run r = result := by
  obtain ⟨found, hfound, -⟩ := rounds_run hrt hfields (r.pos + length) (r.buf.length + 1) (base, r)
    (Nat.lt_succ_of_le (Nat.sub_le _ _))
  obtain ⟨n, hn⟩ := h
  have hsame : found = result := by
    have hleft := run_of_le (Nat.le_max_left (r.buf.length + 1) n) hfound
    have hright := run_of_le (Nat.le_max_right (r.buf.length + 1) n) hn
    exact Option.some.inj (hleft.symm.trans hright)
  change ((rounds rt fields (r.pos + length) (base, r)).run (r.buf.length + 1)).getD _ = result
  rw [hfound, hsame]
  rfl

theorem decode_forward (base : σ) (length : Nat) : Forward (decode rt fields base length) := by
  intro r message r' h
  obtain ⟨result, hresult, hforward⟩ := rounds_run hrt hfields (r.pos + length)
    (r.buf.length + 1) (base, r) (Nat.lt_succ_of_le (Nat.sub_le _ _))
  change ((rounds rt fields (r.pos + length) (base, r)).run (r.buf.length + 1)).getD _ = _ at h
  rw [hresult, Option.getD_some] at h
  exact hforward (message, r') h

end Termination

structure Chunk (ε σ : Type) where
  bytes : List UInt8
  update : σ → Except ε σ

namespace Chunk

def bytesOf (chunks : List (Chunk ε σ)) : List UInt8 := chunks.flatMap bytes

def apply (chunks : List (Chunk ε σ)) (message : σ) : Except ε σ :=
  chunks.foldlM (fun message chunk => chunk.update message) message

@[simp] theorem bytesOf_nil : bytesOf ([] : List (Chunk ε σ)) = [] := rfl

@[simp] theorem bytesOf_cons (chunk : Chunk ε σ) (chunks : List (Chunk ε σ)) :
    bytesOf (chunk :: chunks) = chunk.bytes ++ bytesOf chunks := rfl

@[simp] theorem bytesOf_append (front rest : List (Chunk ε σ)) :
    bytesOf (front ++ rest) = bytesOf front ++ bytesOf rest := by
  simp [bytesOf]

@[simp] theorem apply_cons (chunk : Chunk ε σ) (chunks : List (Chunk ε σ)) (message : σ) :
    apply (chunk :: chunks) message = chunk.update message >>= apply chunks := rfl

theorem apply_append (front rest : List (Chunk ε σ)) (message : σ) :
    apply (front ++ rest) message = apply front message >>= apply rest :=
  List.foldlM_append

def Sound (rt : Runtime ε) (fields : Fields ε σ) (chunk : Chunk ε σ) : Prop :=
  chunk.bytes ≠ [] ∧ (chunk.bytes.length < 2 ^ 32 →
    ∀ message, Takes (turn rt fields message) chunk.bytes (.inl <$> chunk.update message))

def AllSound (rt : Runtime ε) (fields : Fields ε σ) (chunks : List (Chunk ε σ)) : Prop :=
  ∀ chunk ∈ chunks, chunk.Sound rt fields

variable {rt : Runtime ε} {fields : Fields ε σ}

theorem allSound_nil : AllSound rt fields [] := fun _ h => absurd h List.not_mem_nil

theorem allSound_cons {chunk : Chunk ε σ} {chunks : List (Chunk ε σ)} :
    AllSound rt fields (chunk :: chunks) ↔ chunk.Sound rt fields ∧ AllSound rt fields chunks :=
  List.forall_mem_cons

theorem allSound_append {front rest : List (Chunk ε σ)} :
    AllSound rt fields (front ++ rest) ↔ AllSound rt fields front ∧ AllSound rt fields rest :=
  List.forall_mem_append

end Chunk

section Decoding

variable {rt : Runtime ε} {fields : Fields ε σ}

theorem ends_of_chunks {chunks : List (Chunk ε σ)} (hchunks : Chunk.AllSound rt fields chunks)
    (hlength : (Chunk.bytesOf chunks).length < 2 ^ 32) {message : σ} {r : Reader}
    (h : Chunk.bytesOf chunks <+: r.unread) {stop : Nat}
    (hstop : r.pos + (Chunk.bytesOf chunks).length ≤ stop) {result : Except ε (σ × Reader)}
    (hrest : ∀ m, Chunk.apply chunks message = .ok m → Ends (rounds rt fields stop
      (m, r.advance (Chunk.bytesOf chunks).length)) result)
    (herror : ∀ e, Chunk.apply chunks message = .error e → result = .error e) :
    Ends (rounds rt fields stop (message, r)) result := by
  induction chunks generalizing message r with
  | nil => exact hrest message rfl
  | cons chunk chunks ih =>
    obtain ⟨⟨hne, htakes⟩, hchunks⟩ := Chunk.allSound_cons.mp hchunks
    rw [Chunk.bytesOf_cons] at h hlength hstop
    rw [List.length_append] at hlength hstop
    have hpos : r.pos < stop := by
      have := List.length_pos_iff.mpr hne
      omega
    have hturn := htakes (by omega) message r ((List.prefix_append _ _).trans h)
    cases hupdate : chunk.update message with
    | error e =>
      rw [hupdate] at hturn
      rw [herror e (by rw [Chunk.apply_cons, hupdate]; rfl)]
      exact ends_of_error (round_error hpos hturn)
    | ok next =>
      rw [hupdate] at hturn
      refine ends_of_next (round_ok hpos hturn) ?_
      refine ih hchunks (by omega) (Reader.prefix_advance h)
        (by simp only [Reader.advance_pos]; omega) ?_ ?_
      · intro m hm
        have := hrest m (by rw [Chunk.apply_cons, hupdate]; exact hm)
        rwa [Chunk.bytesOf_cons, List.length_append, ← Reader.advance_advance] at this
      · intro e he
        exact herror e (by rw [Chunk.apply_cons, hupdate]; exact he)

variable (hrt : rt.Lawful)

include hrt

theorem turn_stopped {tag : Nat} (htag : tag < 2 ^ 32) (hunknown : fields.lookup tag = none)
    (hends : tag % 8 = 4 ∨ tag = 0) (message : σ) :
    Takes (turn rt fields message) (rt.uint32 tag) (.ok (Sum.inr message)) := by
  have hstop : Takes (takeField rt fields message tag) [] (.ok (Sum.inr message)) := by
    rw [takeField, hunknown]
    simp only [if_pos hends]
    exact takes_lift (.ok (Sum.inr message))
  have := takes_bind (f := takeField rt fields message) (hrt.uint32_takes tag htag) hstop
  rwa [List.append_nil] at this

variable (hfields : fields.Forward)

include hfields

theorem decode_chunks {chunks : List (Chunk ε σ)} (hchunks : Chunk.AllSound rt fields chunks)
    (hlength : (Chunk.bytesOf chunks).length < 2 ^ 32) (base : σ) :
    Takes (decode rt fields base (Chunk.bytesOf chunks).length) (Chunk.bytesOf chunks)
      (Chunk.apply chunks base) := by
  intro r h
  refine decode_of_ends hrt hfields (ends_of_chunks hchunks hlength h (Nat.le_refl _) ?_ ?_)
  · intro m hm
    rw [hm]
    exact ends_of_done (round_stop (Nat.le_refl _))
  · intro e he
    rw [he]
    rfl

theorem decodeInput_chunks {chunks : List (Chunk ε σ)} (hchunks : Chunk.AllSound rt fields chunks)
    (hlength : (Chunk.bytesOf chunks).length < 2 ^ 32) (base : σ) :
    decodeInput rt fields base (Chunk.bytesOf chunks) = Chunk.apply chunks base := by
  rw [decodeInput, decode_chunks hrt hfields hchunks hlength base _ (List.prefix_refl _)]
  cases Chunk.apply chunks base with
  | error e => rfl
  | ok m => rfl

theorem decode_stopped {chunks : List (Chunk ε σ)} (hchunks : Chunk.AllSound rt fields chunks)
    (hlength : (Chunk.bytesOf chunks).length < 2 ^ 32) {tag : Nat} (htag : tag < 2 ^ 32)
    (hunknown : fields.lookup tag = none) (hends : tag % 8 = 4 ∨ tag = 0) (base : σ) {r : Reader}
    (h : Chunk.bytesOf chunks ++ rt.uint32 tag <+: r.unread) {length : Nat}
    (hlong : (Chunk.bytesOf chunks).length < length) :
    (decode rt fields base length).run r =
      (fun m => (m, r.advance ((Chunk.bytesOf chunks).length + (rt.uint32 tag).length))) <$>
        Chunk.apply chunks base := by
  refine decode_of_ends hrt hfields (ends_of_chunks hchunks hlength
    ((List.prefix_append _ _).trans h) (by omega) (fun m hm => ?_) (fun e he => ?_))
  · rw [hm, ← Reader.advance_advance]
    have hpos : (r.advance (Chunk.bytesOf chunks).length).pos < r.pos + length :=
      Nat.add_lt_add_left hlong _
    exact ends_of_done (round_ok hpos
      (turn_stopped hrt htag hunknown hends m _ (Reader.prefix_advance h)))
  · rw [he]
    rfl

theorem decodeInput_stopped {chunks : List (Chunk ε σ)} (hchunks : Chunk.AllSound rt fields chunks)
    (hlength : (Chunk.bytesOf chunks).length < 2 ^ 32) {tag : Nat} (htag : tag < 2 ^ 32)
    (hunknown : fields.lookup tag = none) (hends : tag % 8 = 4 ∨ tag = 0) (junk : List UInt8)
    (base : σ) :
    decodeInput rt fields base (Chunk.bytesOf chunks ++ (rt.uint32 tag ++ junk)) =
      Chunk.apply chunks base := by
  have hne := List.length_pos_iff.mpr (hrt.uint32_ne_nil htag)
  rw [decodeInput, decode_stopped hrt hfields hchunks hlength htag hunknown hends base
    ⟨junk, List.append_assoc _ _ _⟩ (by simp only [List.length_append]; omega)]
  cases Chunk.apply chunks base with
  | error e => rfl
  | ok m => rfl

end Decoding

end Wire
