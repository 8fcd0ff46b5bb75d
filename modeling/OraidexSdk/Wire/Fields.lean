import Mathlib.Data.List.Perm.Basic
import OraidexSdk.Wire.Message

namespace Wire
open Outcome Read

variable {ε σ τ : Type}

namespace Runtime

variable (rt : Runtime ε)

-- writer.uint32(tag).fork() … ldelim()
def message (tag : Nat) (content : List UInt8) : List UInt8 :=
  rt.uint32 tag ++ (rt.uint32 content.length ++ content)

-- if (value !== "") writer.uint32(tag).string(value)
def text (tag : Nat) (value : String) : List UInt8 :=
  if value ≠ "" then rt.uint32 tag ++ rt.string value else []

def readText (set : σ → String → σ) (message : σ) : Read ε σ := do
  return set message (← rt.readString)

def readMessage (decode : Nat → Read ε τ) (set : σ → τ → σ) (message : σ) : Read ε σ := do
  return set message (← decode (← rt.readUint32))

-- The number is checked before the message takes it.
def readNumber (check : Nat → Except ε τ) (set : σ → τ → σ) (message : σ) : Read ε σ := do
  return set message (← StateT.lift (check (← rt.readUint64)))

-- if (value !== undefined) …
def optional (write : τ → List UInt8) (value : Option τ) : List UInt8 := (value.map write).getD []

structure Unknown (fields : Fields ε σ) (bytes : List UInt8) : Prop where
  is_field : ∃ tag body, tag < 2 ^ 32 ∧ fields.lookup tag = none ∧ tag % 8 ≠ 4 ∧ tag ≠ 0 ∧
    rt.Body (tag % 8) body ∧ bytes = rt.uint32 tag ++ body

end Runtime

namespace Chunk

variable (rt : Runtime ε)

def text (tag : Nat) (set : σ → String → σ) (value : String) : List (Chunk ε σ) :=
  if value ≠ "" then [⟨rt.uint32 tag ++ rt.string value, fun message => .ok (set message value)⟩]
  else []

def message (tag : Nat) (set : σ → τ → σ) (content : List UInt8) (result : Except ε τ) : Chunk ε σ :=
  ⟨rt.message tag content, fun message => set message <$> result⟩

def optional (chunk : τ → Chunk ε σ) (value : Option τ) : List (Chunk ε σ) :=
  (value.map chunk).toList

def unknown (bytes : List UInt8) : Chunk ε σ := ⟨bytes, .ok⟩

@[simp] theorem bytesOf_text (tag : Nat) (set : σ → String → σ) (value : String) :
    bytesOf (text rt tag set value) = rt.text tag value := by
  unfold text Runtime.text
  split <;> simp

@[simp] theorem bytesOf_optional (chunk : τ → Chunk ε σ) (value : Option τ) :
    bytesOf (optional chunk value) = Runtime.optional (fun v => (chunk v).bytes) value := by
  cases value <;> simp [optional, Runtime.optional]

@[simp] theorem bytesOf_map (chunk : τ → Chunk ε σ) (values : List τ) :
    bytesOf (values.map chunk) = values.flatMap fun v => (chunk v).bytes := by
  simp [bytesOf, List.flatMap_map]

theorem mem_optional {chunk : τ → Chunk ε σ} {value : Option τ} {c : Chunk ε σ}
    (h : c ∈ optional chunk value) : ∃ v, value = some v ∧ c = chunk v := by
  cases value with
  | none => cases h
  | some v => exact ⟨v, rfl, List.mem_singleton.mp h⟩

theorem update_of_mem_text {tag : Nat} {set : σ → String → σ} {value : String} {c : Chunk ε σ}
    (h : c ∈ text rt tag set value) : c.update = fun message => .ok (set message value) := by
  unfold text at h
  split at h
  · rw [List.mem_singleton.mp h]
  · cases h

theorem apply_text_eq (tag : Nat) (set : σ → String → σ) (value : String) (message : σ) :
    apply (text rt tag set value) message =
      .ok (if value ≠ "" then set message value else message) := by
  unfold text
  split <;> rfl

theorem apply_text {tag : Nat} {set : σ → String → σ} {message : σ} (h : set message "" = message)
    (value : String) : apply (text rt tag set value) message = .ok (set message value) := by
  rw [apply_text_eq]
  split
  · rfl
  · next hvalue => rw [not_not.mp hvalue, h]

theorem apply_optional (chunk : τ → Chunk ε σ) (value : Option τ) (message : σ) :
    apply (optional chunk value) message =
      (value.map fun v => (chunk v).update message).getD (.ok message) := by
  cases value with
  | none => rfl
  | some v => exact bind_pure ((chunk v).update message)

theorem apply_optional_message (tag : Nat) (set : σ → τ → σ) (write : τ → List UInt8)
    (value : Option τ) (message : σ) :
    apply (optional (fun v => Chunk.message rt tag set (write v) (.ok v)) value) message =
      .ok (value.elim message (set message)) := by
  cases value <;> rfl

theorem apply_map {chunk : τ → Chunk ε σ} {push : σ → τ → σ}
    (h : ∀ v message, (chunk v).update message = .ok (push message v)) (values : List τ)
    (message : σ) : apply (values.map chunk) message = .ok (values.foldl push message) := by
  induction values generalizing message with
  | nil => rfl
  | cons v values ih =>
    rw [List.map_cons, apply_cons, h v message]
    exact ih (push message v)

theorem apply_unknown (fields : List (List UInt8)) (message : σ) :
    apply (fields.map (unknown : List UInt8 → Chunk ε σ)) message = .ok message := by
  induction fields with
  | nil => rfl
  | cons bytes fields ih => exact ih

theorem exists_bytes_perm {chunks : List (Chunk ε σ)} {layout : List (List UInt8)}
    (h : layout.Perm (chunks.map bytes)) :
    ∃ ordered : List (Chunk ε σ), ordered.Perm chunks ∧ ordered.map bytes = layout := by
  have hforall : List.Forall₂ (fun bytes (chunk : Chunk ε σ) => chunk.bytes = bytes)
      (chunks.map bytes) chunks :=
    List.forall₂_map_left_iff.mpr (List.forall₂_same.mpr fun _ _ => rfl)
  obtain ⟨ordered, hordered, hperm⟩ := List.perm_comp_forall₂ h hforall
  refine ⟨ordered, hperm, ?_⟩
  clear h hforall hperm
  induction hordered with
  | nil => rfl
  | cons hbytes _ ih => rw [List.map_cons, hbytes, ih]

theorem foldl_push (get : σ → List τ) (set : σ → List τ → σ) (hself : ∀ m, set m (get m) = m)
    (hget : ∀ m values, get (set m values) = values)
    (hset : ∀ m values more, set (set m values) more = set m more) (values : List τ) (message : σ) :
    values.foldl (fun m v => set m (get m ++ [v])) message = set message (get message ++ values) := by
  induction values generalizing message with
  | nil => simp [hself]
  | cons v values ih =>
    rw [List.foldl_cons, ih, hget, hset, List.append_assoc, List.singleton_append]

theorem apply_perm {front rest : List (Chunk ε σ)} (hperm : front.Perm rest)
    (hcommute : ∀ first ∈ front, ∀ second ∈ front, ∀ message,
      (first.update message >>= second.update) = (second.update message >>= first.update))
    (message : σ) : apply front message = apply rest message := by
  induction hperm generalizing message with
  | nil => rfl
  | cons chunk _ ih =>
    rw [apply_cons, apply_cons]
    refine bind_congr fun next => ih (fun first hfirst second hsecond => ?_) next
    exact hcommute first (List.mem_cons_of_mem _ hfirst) second (List.mem_cons_of_mem _ hsecond)
  | swap first second chunks =>
    have hpair : ∀ a b : Chunk ε σ, apply (a :: b :: chunks) message =
        (a.update message >>= b.update) >>= apply chunks := fun a b => (bind_assoc _ _ _).symm
    rw [hpair, hpair, hcommute second List.mem_cons_self first
      (List.mem_cons_of_mem _ List.mem_cons_self)]
  | trans hleft _ ihleft ihright =>
    rw [ihleft hcommute, ihright fun first hfirst second hsecond =>
      hcommute first (hleft.mem_iff.mpr hfirst) second (hleft.mem_iff.mpr hsecond)]

end Chunk

section Forward

variable {rt : Runtime ε} (hrt : rt.Lawful)

include hrt

theorem readText_forward (set : σ → String → σ) (message : σ) :
    Forward (rt.readText set message) :=
  hrt.string_forward.bind fun _ => forward_pure _

theorem readMessage_forward {decode : Nat → Read ε τ} (hdecode : ∀ length, Forward (decode length))
    (set : σ → τ → σ) (message : σ) : Forward (rt.readMessage decode set message) :=
  hrt.uint32_progress.forward.bind fun length => (hdecode length).bind fun _ => forward_pure _

theorem readNumber_forward (check : Nat → Except ε τ) (set : σ → τ → σ) (message : σ) :
    Forward (rt.readNumber check set message) :=
  hrt.uint64_forward.bind fun v => (forward_lift (check v)).bind fun _ => forward_pure _

end Forward

section Several

variable {rt : Runtime ε} {fields : Fields ε σ}

theorem sound_optional {chunk : τ → Chunk ε σ} {value : Option τ}
    (h : ∀ v ∈ value, (chunk v).Sound rt fields) :
    Chunk.AllSound rt fields (Chunk.optional chunk value) := by
  cases value with
  | none => exact Chunk.allSound_nil
  | some v => exact Chunk.allSound_cons.mpr ⟨h v rfl, Chunk.allSound_nil⟩

theorem sound_map {chunk : τ → Chunk ε σ} {values : List τ}
    (h : ∀ v ∈ values, (chunk v).Sound rt fields) :
    Chunk.AllSound rt fields (values.map chunk) :=
  List.forall_mem_map.mpr h

end Several

section Sound

variable {rt : Runtime ε} (hrt : rt.Lawful) {fields : Fields ε σ}

include hrt

theorem sound_of_field {tag : Nat} (htag : tag < 2 ^ 32) {field : σ → Read ε σ}
    (hfield : fields.lookup tag = some field) {body : List UInt8} {update : σ → Except ε σ}
    (hbody : body.length < 2 ^ 32 → ∀ message, Takes (field message) body (update message)) :
    Chunk.Sound rt fields ⟨rt.uint32 tag ++ body, update⟩ := by
  refine ⟨fun h => hrt.uint32_ne_nil htag (List.append_eq_nil_iff.mp h).1, fun hlength message => ?_⟩
  rw [List.length_append] at hlength
  have hturn : takeField rt fields message tag = do return .inl (← field message) := by
    rw [takeField, hfield]
  refine takes_bind (hrt.uint32_takes tag htag) ?_
  rw [hturn]
  exact takes_map Sum.inl (hbody (by omega) message)

theorem sound_string {tag : Nat} (htag : tag < 2 ^ 32) {set : σ → String → σ}
    (hfield : fields.lookup tag = some (rt.readText set)) (value : String) :
    Chunk.Sound rt fields ⟨rt.uint32 tag ++ rt.string value, fun message => .ok (set message value)⟩ :=
  sound_of_field hrt htag hfield fun hlength message =>
    takes_map (set message) (hrt.string_takes value hlength)

theorem sound_text {tag : Nat} (htag : tag < 2 ^ 32) {set : σ → String → σ}
    (hfield : fields.lookup tag = some (rt.readText set)) (value : String) :
    Chunk.AllSound rt fields (Chunk.text rt tag set value) := by
  unfold Chunk.text
  split
  · exact Chunk.allSound_cons.mpr ⟨sound_string hrt htag hfield value, Chunk.allSound_nil⟩
  · exact Chunk.allSound_nil

theorem sound_message {tag : Nat} (htag : tag < 2 ^ 32) {decode : Nat → Read ε τ} {set : σ → τ → σ}
    (hfield : fields.lookup tag = some (rt.readMessage decode set)) {content : List UInt8}
    {result : Except ε τ}
    (hcontent : content.length < 2 ^ 32 → Takes (decode content.length) content result) :
    Chunk.Sound rt fields (Chunk.message rt tag set content result) := by
  refine sound_of_field hrt htag hfield fun hlength message => ?_
  rw [List.length_append] at hlength
  have hshort : content.length < 2 ^ 32 := by omega
  exact takes_bind (hrt.uint32_takes _ hshort) (takes_map (set message) (hcontent hshort))

theorem sound_number {tag : Nat} (htag : tag < 2 ^ 32) {check : Nat → Except ε τ} {set : σ → τ → σ}
    (hfield : fields.lookup tag = some (rt.readNumber check set)) {v : Nat} (hv : v < 2 ^ 64) :
    Chunk.Sound rt fields ⟨rt.uint32 tag ++ rt.uint64 v, fun message => set message <$> check v⟩ := by
  refine sound_of_field hrt htag hfield fun _ message => ?_
  rw [← List.append_nil (rt.uint64 v)]
  exact takes_bind (hrt.uint64_takes v hv) (takes_map (set message) (takes_lift (check v)))

theorem sound_unknown {bytes : List UInt8} (h : rt.Unknown fields bytes) :
    Chunk.Sound rt fields (Chunk.unknown bytes) := by
  obtain ⟨tag, body, htag, hnone, hend, hzero, hbody, rfl⟩ := h.is_field
  refine ⟨fun h => hrt.uint32_ne_nil htag (List.append_eq_nil_iff.mp h).1, fun hlength message => ?_⟩
  rw [Chunk.unknown, List.length_append] at hlength
  have hturn : takeField rt fields message tag = do
      rt.skipType (tag % 8)
      return .inl message := by
    rw [takeField, hnone]
    simp [hend, hzero]
  refine takes_bind (hrt.uint32_takes tag htag) ?_
  rw [hturn]
  exact takes_map (fun _ => Sum.inl message) (hrt.skip_takes _ _ (by omega) hbody)

def Carries (decode : Nat → Read ε σ) (bytes : List UInt8) (result : Except ε σ) : Prop :=
  bytes.length < 2 ^ 32 → Takes (decode bytes.length) bytes result

theorem carries_of_chunks (hfields : fields.Forward) {base : σ} (chunks : List (Chunk ε σ))
    (hchunks : Chunk.AllSound rt fields chunks) {bytes : List UInt8}
    (hbytes : Chunk.bytesOf chunks = bytes) {result : Except ε σ}
    (hresult : Chunk.apply chunks base = result) :
    Carries (decode rt fields base) bytes result := by
  subst hbytes
  subst hresult
  exact fun hlength => decode_chunks hrt hfields hchunks hlength base

end Sound

end Wire
