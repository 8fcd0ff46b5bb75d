import Mathlib.Data.Rat.Defs
import OraidexSdk.Js.Text
import OraidexSdk.Loops.Outcome
import OraidexSdk.Ordered.Keyed

namespace OraidexSdk.Common
open Js Outcome

-- A JSON tree, in which a decoded message may also hold Uint8Arrays.
inductive Json where
  | null
  | boolean (b : Bool)
  | number (x : ℚ)
  | string (s : String)
  | bytes (data : List UInt8)
  | array (elements : List Json)
  | object (fields : List (String × Json))

namespace Json

def truthy : Json → Bool
  | null => false
  | boolean b => b
  | number x => x ≠ 0
  | string s => s ≠ ""
  | _ => true

-- typeof value === "object"
def isObject : Json → Bool
  | null | bytes _ | array _ | object _ => true
  | _ => false

def children : Json → List Json
  | array elements => elements
  | object fields => fields.map Prod.snd
  | _ => []

mutual

def size : Json → Nat
  | string s => s.length + 1
  | array elements => elementsSize elements + 1
  | object fields => fieldsSize fields + 1
  | _ => 1

def elementsSize : List Json → Nat
  | [] => 0
  | value :: elements => value.size + elementsSize elements

def fieldsSize : List (String × Json) → Nat
  | [] => 0
  | (_, value) :: fields => value.size + fieldsSize fields

end

theorem size_pos (value : Json) : 0 < value.size := by
  cases value <;> simp [size]

theorem size_le_elementsSize {value : Json} {elements : List Json} (h : value ∈ elements) :
    value.size ≤ elementsSize elements := by
  induction elements with
  | nil => exact absurd h List.not_mem_nil
  | cons first elements ih =>
    rw [elementsSize]
    rcases List.mem_cons.mp h with rfl | hmem
    · exact Nat.le_add_right _ _
    · exact (ih hmem).trans (Nat.le_add_left _ _)

theorem size_le_fieldsSize {value : Json} {fields : List (String × Json)}
    (h : value ∈ fields.map Prod.snd) : value.size ≤ fieldsSize fields := by
  induction fields with
  | nil => exact absurd h List.not_mem_nil
  | cons first fields ih =>
    rw [fieldsSize]
    rcases List.mem_cons.mp h with rfl | hmem
    · exact Nat.le_add_right _ _
    · exact (ih hmem).trans (Nat.le_add_left _ _)

theorem size_child_lt {value child : Json} (h : child ∈ value.children) :
    child.size < value.size := by
  cases value with
  | array elements => exact Nat.lt_succ_of_le (size_le_elementsSize h)
  | object fields => exact Nat.lt_succ_of_le (size_le_fieldsSize h)
  | _ => exact absurd h List.not_mem_nil

end Json

-- A base64 text is longer than the JSON text it stands for, and that has a character for every
-- leaf, for every array and object and for every character of a text.
structure Decoders where
  fromBinary : String → Option Json
  fromBinary_shrinks : ∀ s value, fromBinary s = some value → value.size < s.length
  registryDecode : (typeUrl : Json) → (value : Option Json) → Except JsError Json
  parseAscii : List UInt8 → Except JsError Json

inductive Stop where
  | outOfFuel
  | thrown (e : JsError)
deriving DecidableEq

section Decode

variable (decoders : Decoders)

def typeUrl (fields : List (String × Json)) : Option Json :=
  (fields.lookup "type_url").filter Json.truthy <|> (fields.lookup "typeUrl").filter Json.truthy

def readBinary : Json → Json
  | .string s => (decoders.fromBinary s).getD (.string s)
  | value => value

def decodeChild (decode : Json → Except Stop Json) (child : Json) : Except Stop Json :=
  let value := readBinary decoders child
  if value.isObject then decode value else .ok value

def decodeField (decode : Json → Except Stop Json) (field : String × Json) :
    Except Stop (String × Json) := do
  return (field.1, ← decodeChild decoders decode field.2)

def parseMsg (fields : List (String × Json)) : Except Stop Json :=
  match fields.lookup "msg" with
  | some (.bytes data) => do
    let msg ← (decoders.parseAscii data).mapError .thrown
    return .object (fields.map fun field => if field.1 = "msg" then (field.1, msg) else field)
  | _ => .ok (.object fields)

-- The assignments to the characters of a text fail inside the try.
def decodeProto : Nat → Json → Except Stop Json
  | 0, _ => .error .outOfFuel
  | fuel + 1, value =>
    if value.truthy = false then .error (.thrown (.thrown "value is not defined"))
    else match value with
      | .array elements => .array <$> elements.mapM (decodeChild decoders (decodeProto fuel))
      | .object fields =>
        match typeUrl fields with
        | some url => do
          let message ← (decoders.registryDecode url (fields.lookup "value")).mapError .thrown
          decodeProto fuel message
        | none => do
          let decoded ← fields.mapM (decodeField decoders (decodeProto fuel))
          parseMsg decoders decoded
      | leaf => .ok leaf

end Decode

-- The tree with every text that is base64 of JSON decoded, and what it decodes to decoded in turn;
-- a tree with a type_url or with bytes has no such tree.
inductive Decoded (decoders : Decoders) : Json → Json → Prop
  | null : Decoded decoders .null .null
  | boolean (b : Bool) : Decoded decoders (.boolean b) (.boolean b)
  | number (x : ℚ) : Decoded decoders (.number x) (.number x)
  | text {s : String} : decoders.fromBinary s = none → Decoded decoders (.string s) (.string s)
  | binary {s : String} {value decoded : Json} : decoders.fromBinary s = some value →
      Decoded decoders value decoded → Decoded decoders (.string s) decoded
  | array {elements decoded : List Json} : List.Forall₂ (Decoded decoders) elements decoded →
      Decoded decoders (.array elements) (.array decoded)
  | object {fields decoded : List (String × Json)} : typeUrl fields = none →
      fields.map Prod.fst = decoded.map Prod.fst →
      List.Forall₂ (Decoded decoders) (fields.map Prod.snd) (decoded.map Prod.snd) →
      Decoded decoders (.object fields) (.object decoded)

def ReturnsDecoded (decoders : Decoders) (value : Json) : Prop :=
  ∃ decoded, Decoded decoders value decoded ∧
    ∃ fuel, ∀ more, fuel ≤ more → decodeProto decoders more value = .ok decoded

inductive Reached (decoders : Decoders) : Json → Json → Prop
  | self (value : Json) : Reached decoders value value
  | child {value child met : Json} : child ∈ value.children →
      Reached decoders (readBinary decoders child) met → Reached decoders value met

structure Settles (decoders : Decoders) (value : Json) : Prop where
  not_null : value ≠ .null
  not_bytes : ∀ data, value ≠ .bytes data
  untyped : ∀ fields, value = .object fields → typeUrl fields = none
  plain : ∀ s, value = .string s → decoders.fromBinary s = none

def AllSettle (decoders : Decoders) (value : Json) : Prop :=
  ∀ met, Reached decoders value met → Settles decoders met

section Decoded

variable {decoders : Decoders} {value decoded : Json}

theorem Decoded.plain {s : String} (h : Decoded decoders value (.string s)) :
    decoders.fromBinary s = none := by
  induction hsize : value.size using Nat.strongRecOn generalizing value with
  | _ n ih =>
    cases h with
    | text hnone => exact hnone
    | binary hread hdecoded =>
      have hlt := decoders.fromBinary_shrinks _ _ hread
      refine ih _ ?_ hdecoded rfl
      rw [← hsize, Json.size]
      omega

theorem Decoded.not_bytes (h : Decoded decoders value decoded) :
    ∀ data, decoded ≠ .bytes data := by
  induction hsize : value.size using Nat.strongRecOn generalizing value with
  | _ n ih =>
    cases h with
    | binary hread hdecoded =>
      have hlt := decoders.fromBinary_shrinks _ _ hread
      refine ih _ ?_ hdecoded rfl
      rw [← hsize, Json.size]
      omega
    | _ => exact nofun

theorem decoded_readBinary_iff :
    Decoded decoders (readBinary decoders value) decoded ↔ Decoded decoders value decoded := by
  cases value with
  | string s =>
    cases hread : decoders.fromBinary s with
    | none => simp [readBinary, hread]
    | some read =>
      have hvalue : readBinary decoders (.string s) = read := by simp [readBinary, hread]
      rw [hvalue]
      constructor
      · exact .binary hread
      · rintro (_ | _ | _ | hnone | ⟨hsome, hdecoded⟩)
        · rw [hread] at hnone
          cases hnone
        · rw [hread] at hsome
          cases hsome
          exact hdecoded
  | _ => rfl

theorem size_readBinary_le (value : Json) : (readBinary decoders value).size ≤ value.size := by
  cases value with
  | string s =>
    cases hread : decoders.fromBinary s with
    | none => simp [readBinary, hread]
    | some read =>
      have hlt := decoders.fromBinary_shrinks _ _ hread
      have hvalue : readBinary decoders (.string s) = read := by simp [readBinary, hread]
      rw [hvalue, Json.size]
      omega
  | _ => exact le_rfl

end Decoded

section Settle

variable {decoders : Decoders} {value decoded : Json}

theorem allSettle_iff : AllSettle decoders value ↔ Settles decoders value ∧
    ∀ child ∈ value.children, AllSettle decoders (readBinary decoders child) := by
  constructor
  · intro h
    exact ⟨h value (.self value), fun child hchild met hmet => h met (.child hchild hmet)⟩
  · rintro ⟨hself, hchildren⟩ met hmet
    cases hmet with
    | self => exact hself
    | child hchild hmet => exact hchildren _ hchild met hmet

theorem allSettle_leaf (h : value.children = []) :
    AllSettle decoders value ↔ Settles decoders value := by
  rw [allSettle_iff, h]
  exact and_iff_left fun child hchild => absurd hchild List.not_mem_nil

theorem decoded_self_iff (hobject : value.isObject = false) :
    Decoded decoders value value ↔ AllSettle decoders value := by
  cases value with
  | boolean b =>
    rw [allSettle_leaf rfl]
    exact iff_of_true (.boolean b) ⟨nofun, nofun, nofun, nofun⟩
  | number x =>
    rw [allSettle_leaf rfl]
    exact iff_of_true (.number x) ⟨nofun, nofun, nofun, nofun⟩
  | string s =>
    rw [allSettle_leaf rfl]
    constructor
    · intro h
      refine ⟨nofun, nofun, nofun, fun s' hs => ?_⟩
      cases hs
      exact h.plain
    · exact fun h => .text (h.plain s rfl)
  | _ => cases hobject

end Settle

section Fields

variable {decoders : Decoders} {decode : Json → Except Stop Json}
  {fields decoded : List (String × Json)} {R : Json → Json → Prop}

theorem forall₂_fields
    (h : List.Forall₂ (fun before after => before.1 = after.1 ∧ R before.2 after.2) fields decoded) :
    fields.map Prod.fst = decoded.map Prod.fst ∧
      List.Forall₂ R (fields.map Prod.snd) (decoded.map Prod.snd) := by
  induction h with
  | nil => exact ⟨rfl, .nil⟩
  | cons hfield _ ih =>
    simp only [List.map_cons, hfield.1, ih.1]
    exact ⟨trivial, .cons hfield.2 ih.2⟩

theorem decodeField_eq_ok {field after : String × Json} :
    decodeField decoders decode field = .ok after ↔
      field.1 = after.1 ∧ decodeChild decoders decode field.2 = .ok after.2 := by
  obtain ⟨key, value⟩ := after
  simp only [decodeField, bind_eq_ok]
  constructor
  · rintro ⟨value, hvalue, hafter⟩
    cases hafter
    exact ⟨rfl, hvalue⟩
  · rintro ⟨rfl, hvalue⟩
    exact ⟨value, hvalue, rfl⟩

theorem parseMsg_eq (h : ∀ value ∈ fields.map Prod.snd, ∀ data, value ≠ .bytes data) :
    parseMsg decoders fields = .ok (.object fields) := by
  unfold parseMsg
  split
  · rename_i data hlookup
    have hmem := List.mem_map_of_mem (f := Prod.snd) (Keyed.mem_of_lookup hlookup)
    exact absurd rfl (h _ hmem data)
  · rfl

end Fields

section Returns

variable {decoders : Decoders} {value decoded : Json} {fuel : Nat}

theorem truthy_of_isObject (hobject : value.isObject = true) (hnull : value ≠ .null) :
    value.truthy = true := by
  cases value with
  | null => exact absurd rfl hnull
  | bytes _ | array _ | object _ => rfl
  | _ => cases hobject

theorem decodeProto_object {fields : List (String × Json)} (huntyped : typeUrl fields = none) :
    decodeProto decoders (fuel + 1) (.object fields) =
      fields.mapM (decodeField decoders (decodeProto decoders fuel)) >>= parseMsg decoders := by
  simp [decodeProto, Json.truthy, huntyped]

theorem decodeProto_typed {fields : List (String × Json)} {url : Json}
    (htype : typeUrl fields = some url) :
    decodeProto decoders (fuel + 1) (.object fields) =
      (decoders.registryDecode url (fields.lookup "value")).mapError .thrown >>=
        decodeProto decoders fuel := by
  simp [decodeProto, Json.truthy, htype]

theorem decodeProto_leaf (htruthy : value.truthy = true)
    (hobject : value.isObject = false ∨ ∃ data, value = .bytes data) :
    decodeProto decoders (fuel + 1) value = .ok value := by
  rcases hobject with hobject | ⟨data, rfl⟩
  · cases value with
    | null | bytes _ | array _ | object _ => cases hobject
    | _ => simp [decodeProto, htruthy]
  · rfl

theorem decodeChild_mono {decode decode' : Json → Except Stop Json}
    (h : ∀ value decoded, decode value = .ok decoded → decode' value = .ok decoded)
    {child result : Json} (hrun : decodeChild decoders decode child = .ok result) :
    decodeChild decoders decode' child = .ok result := by
  simp only [decodeChild] at hrun ⊢
  cases hobject : (readBinary decoders child).isObject with
  | true =>
    rw [hobject] at hrun
    exact h _ _ hrun
  | false =>
    rw [hobject] at hrun
    exact hrun

theorem decodeProto_mono {more : Nat} (hmore : fuel ≤ more)
    (hrun : decodeProto decoders fuel value = .ok decoded) :
    decodeProto decoders more value = .ok decoded := by
  induction fuel generalizing more value decoded with
  | zero => cases hrun
  | succ fuel ih =>
    obtain ⟨more, rfl⟩ := Nat.exists_eq_add_of_lt hmore
    have hchild : ∀ child result,
        decodeChild decoders (decodeProto decoders fuel) child = .ok result →
          decodeChild decoders (decodeProto decoders (fuel + more)) child = .ok result :=
      fun _ _ => decodeChild_mono fun _ _ => ih (Nat.le_add_right fuel more)
    cases value with
    | array elements =>
      obtain ⟨results, hresults, rfl⟩ := map_eq_ok.mp hrun
      exact map_eq_ok.mpr ⟨results, mapM_mono hchild hresults, rfl⟩
    | object fields =>
      cases htype : typeUrl fields with
      | none =>
        rw [decodeProto_object htype] at hrun ⊢
        obtain ⟨results, hresults, hparse⟩ := bind_eq_ok.mp hrun
        refine bind_eq_ok.mpr ⟨results, mapM_mono (fun field after hfield => ?_) hresults, hparse⟩
        obtain ⟨hkey, hvalue⟩ := decodeField_eq_ok.mp hfield
        exact decodeField_eq_ok.mpr ⟨hkey, hchild _ _ hvalue⟩
      | some url =>
        rw [decodeProto_typed htype] at hrun ⊢
        obtain ⟨message, hmessage, hrest⟩ := bind_eq_ok.mp hrun
        exact bind_eq_ok.mpr ⟨message, hmessage, ih (Nat.le_add_right fuel more) hrest⟩
    | _ => exact hrun

theorem decodeChild_returns {decode : Json → Except Stop Json} {child : Json}
    (hdecode : (readBinary decoders child).truthy = true →
      ∃ decoded, decode (readBinary decoders child) = .ok decoded ∧
        Decoded decoders (readBinary decoders child) decoded)
    (hsettles : AllSettle decoders (readBinary decoders child)) :
    ∃ decoded, decodeChild decoders decode child = .ok decoded ∧ Decoded decoders child decoded := by
  have hread : ∀ decoded, Decoded decoders child decoded ↔
      Decoded decoders (readBinary decoders child) decoded := fun _ => decoded_readBinary_iff.symm
  simp only [hread, decodeChild]
  cases hobject : (readBinary decoders child).isObject with
  | true =>
    obtain ⟨hself, -⟩ := allSettle_iff.mp hsettles
    exact hdecode (truthy_of_isObject hobject hself.not_null)
  | false => exact ⟨_, rfl, (decoded_self_iff hobject).mpr hsettles⟩

theorem decodeProto_object_returns {fields : List (String × Json)}
    (huntyped : typeUrl fields = none)
    (hchild : ∀ child ∈ fields.map Prod.snd, ∃ decoded,
      decodeChild decoders (decodeProto decoders fuel) child = .ok decoded ∧
        Decoded decoders child decoded) :
    ∃ decoded, decodeProto decoders (fuel + 1) (.object fields) = .ok decoded ∧
      Decoded decoders (.object fields) decoded := by
  have hfields : ∀ field ∈ fields, ∃ after,
      decodeField decoders (decodeProto decoders fuel) field = .ok after ∧
        (field.1 = after.1 ∧ Decoded decoders field.2 after.2) := by
    intro field hmem
    obtain ⟨decoded, hrun, hdecoded⟩ := hchild field.2 (List.mem_map_of_mem hmem)
    exact ⟨(field.1, decoded), decodeField_eq_ok.mpr ⟨rfl, hrun⟩, rfl, hdecoded⟩
  obtain ⟨decoded, hrun, hpairs⟩ := exists_mapM hfields
  obtain ⟨hkeys, hvalues⟩ := forall₂_fields hpairs
  have hbytes : ∀ value ∈ decoded.map Prod.snd, ∀ data, value ≠ .bytes data := by
    intro value hmem
    obtain ⟨child, -, hchild⟩ := exists_of_forall₂ hvalues.flip value hmem
    exact Decoded.not_bytes hchild
  refine ⟨.object decoded, ?_, .object huntyped hkeys hvalues⟩
  rw [decodeProto_object huntyped, hrun, ok_bind, parseMsg_eq hbytes]

theorem decodeProto_returns (htruthy : value.truthy = true) (hsettles : AllSettle decoders value)
    (hfuel : value.size ≤ fuel) :
    ∃ decoded, decodeProto decoders fuel value = .ok decoded ∧ Decoded decoders value decoded := by
  induction fuel generalizing value with
  | zero => exact absurd hfuel (Nat.not_le_of_lt value.size_pos)
  | succ fuel ih =>
    obtain ⟨hself, hchildren⟩ := allSettle_iff.mp hsettles
    have hchild : ∀ child ∈ value.children, ∃ decoded,
        decodeChild decoders (decodeProto decoders fuel) child = .ok decoded ∧
          Decoded decoders child decoded := by
      intro child hmem
      refine decodeChild_returns (fun hread => ih hread (hchildren child hmem) ?_)
        (hchildren child hmem)
      have hsize := Json.size_child_lt hmem
      have hread : (readBinary decoders child).size ≤ child.size := size_readBinary_le child
      omega
    cases value with
    | array elements =>
      obtain ⟨decoded, hrun, hdecoded⟩ := exists_mapM hchild
      exact ⟨.array decoded, map_eq_ok.mpr ⟨decoded, hrun, rfl⟩, .array hdecoded⟩
    | object fields => exact decodeProto_object_returns (hself.untyped fields rfl) hchild
    | null => exact absurd rfl hself.not_null
    | bytes data => exact absurd rfl (hself.not_bytes data)
    | boolean b => exact ⟨_, decodeProto_leaf htruthy (.inl rfl), .boolean b⟩
    | number x => exact ⟨_, decodeProto_leaf htruthy (.inl rfl), .number x⟩
    | string s => exact ⟨_, decodeProto_leaf htruthy (.inl rfl), .text (hself.plain s rfl)⟩

theorem parseMsg_object {fields : List (String × Json)} (h : parseMsg decoders fields = .ok decoded) :
    ∃ parsed, decoded = .object parsed := by
  unfold parseMsg at h
  split at h
  · obtain ⟨msg, -, hmsg⟩ := bind_eq_ok.mp h
    cases hmsg
    exact ⟨_, rfl⟩
  · cases h
    exact ⟨_, rfl⟩

theorem decodeProto_cases (hrun : decodeProto decoders (fuel + 1) value = .ok decoded) :
    (∃ elements results, value = .array elements ∧ decoded = .array results ∧
      elements.mapM (decodeChild decoders (decodeProto decoders fuel)) = .ok results) ∨
    (∃ fields results, value = .object fields ∧ typeUrl fields = none ∧
      fields.mapM (decodeField decoders (decodeProto decoders fuel)) = .ok results ∧
      parseMsg decoders results = .ok decoded) ∨
    (∃ fields url, value = .object fields ∧ typeUrl fields = some url) ∨
    (∃ data, value = .bytes data) ∨ (decoded = value ∧ value.isObject = false) := by
  cases htruthy : value.truthy with
  | false => simp [decodeProto, htruthy] at hrun
  | true =>
    cases value with
    | null => cases htruthy
    | array elements =>
      obtain ⟨results, hresults, rfl⟩ := map_eq_ok.mp hrun
      exact .inl ⟨elements, results, rfl, rfl, hresults⟩
    | object fields =>
      cases htype : typeUrl fields with
      | none =>
        rw [decodeProto_object htype] at hrun
        obtain ⟨results, hresults, hparse⟩ := bind_eq_ok.mp hrun
        exact .inr (.inl ⟨fields, results, rfl, htype, hresults, hparse⟩)
      | some url => exact .inr (.inr (.inl ⟨fields, url, rfl, htype⟩))
    | bytes data => exact .inr (.inr (.inr (.inl ⟨data, rfl⟩)))
    | _ =>
      rw [decodeProto_leaf htruthy (.inl rfl)] at hrun
      cases hrun
      exact .inr (.inr (.inr (.inr ⟨rfl, rfl⟩)))

theorem decodeChild_not_bytes {child result : Json}
    (hrun : decodeChild decoders (decodeProto decoders fuel) child = .ok result)
    (hdecoded : Decoded decoders child decoded) : ∀ data, result ≠ .bytes data := by
  rw [← decoded_readBinary_iff] at hdecoded
  simp only [decodeChild] at hrun
  generalize readBinary decoders child = value at hrun hdecoded
  cases hobject : value.isObject with
  | false =>
    rw [hobject] at hrun
    cases hrun
    rintro data rfl
    cases hobject
  | true =>
    rw [hobject] at hrun
    cases fuel with
    | zero => cases hrun
    | succ fuel =>
      rcases decodeProto_cases hrun with ⟨_, _, -, rfl, -⟩ | ⟨_, _, -, -, -, hparse⟩ |
        ⟨_, _, rfl, htype⟩ | ⟨_, rfl⟩ | ⟨-, hleaf⟩
      · exact nofun
      · obtain ⟨parsed, rfl⟩ := parseMsg_object hparse
        exact nofun
      · cases hdecoded with
        | object huntyped => simp [htype] at huntyped
      · cases hdecoded
      · simp [hobject] at hleaf

theorem allSettle_child {decode : Json → Except Stop Json} {child : Json}
    (hdecode : decode (readBinary decoders child) = .ok decoded →
      Decoded decoders (readBinary decoders child) decoded →
      AllSettle decoders (readBinary decoders child))
    (hrun : decodeChild decoders decode child = .ok decoded)
    (hdecoded : Decoded decoders child decoded) : AllSettle decoders (readBinary decoders child) := by
  rw [← decoded_readBinary_iff] at hdecoded
  simp only [decodeChild] at hrun
  cases hobject : (readBinary decoders child).isObject with
  | true =>
    rw [hobject] at hrun
    exact hdecode hrun hdecoded
  | false =>
    rw [hobject] at hrun
    cases hrun
    exact (decoded_self_iff hobject).mp hdecoded

theorem allSettle_children {children results : List Json}
    (hdecode : ∀ {value decoded}, decodeProto decoders fuel value = .ok decoded →
      Decoded decoders value decoded → AllSettle decoders value)
    (hrun : List.Forall₂ (fun child result =>
      decodeChild decoders (decodeProto decoders fuel) child = .ok result) children results)
    (hdecoded : List.Forall₂ (Decoded decoders) children results) :
    ∀ child ∈ children, AllSettle decoders (readBinary decoders child) := by
  intro child hmem
  have hboth := hdecoded.mp (fun _ _ hdecoded hrun => And.intro hdecoded hrun) hrun
  obtain ⟨result, -, hresult, hchild⟩ := exists_of_forall₂ hboth child hmem
  exact allSettle_child hdecode hchild hresult

theorem parseMsg_results {fields results : List (String × Json)} {values : List Json}
    (hrun : List.Forall₂ (fun child result =>
      decodeChild decoders (decodeProto decoders fuel) child = .ok result)
        (fields.map Prod.snd) (results.map Prod.snd))
    (hdecoded : List.Forall₂ (Decoded decoders) (fields.map Prod.snd) values) :
    parseMsg decoders results = .ok (.object results) := by
  refine parseMsg_eq fun value hmem => ?_
  obtain ⟨child, hchild, hvalue⟩ := exists_of_forall₂ hrun.flip value hmem
  obtain ⟨_, -, hstands⟩ := exists_of_forall₂ hdecoded child hchild
  exact decodeChild_not_bytes hvalue hstands

theorem allSettle_of_decodeProto (hrun : decodeProto decoders fuel value = .ok decoded)
    (hdecoded : Decoded decoders value decoded) : AllSettle decoders value := by
  induction fuel generalizing value decoded with
  | zero => cases hrun
  | succ fuel ih =>
    rcases decodeProto_cases hrun with ⟨elements, results, rfl, rfl, hresults⟩ |
      ⟨fields, results, rfl, huntyped, hresults, hparse⟩ | ⟨fields, url, rfl, htype⟩ |
      ⟨data, rfl⟩ | ⟨rfl, hleaf⟩
    · cases hdecoded with
      | array helements =>
        refine allSettle_iff.mpr ⟨⟨nofun, nofun, nofun, nofun⟩, ?_⟩
        exact allSettle_children ih (forall₂_of_mapM hresults) helements
    · obtain ⟨-, hchildren⟩ := forall₂_fields
        (R := fun child result => decodeChild decoders (decodeProto decoders fuel) child = .ok result)
        ((forall₂_of_mapM hresults).imp fun _ _ hfield => decodeField_eq_ok.mp hfield)
      cases hdecoded with
      | object _ _ hvalues =>
        rw [parseMsg_results hchildren hvalues] at hparse
        cases hparse
        refine allSettle_iff.mpr ⟨⟨nofun, nofun, ?_, nofun⟩,
          allSettle_children ih hchildren hvalues⟩
        rintro _ ⟨⟩
        exact huntyped
    · cases hdecoded with
      | object huntyped => simp [htype] at huntyped
    · cases hdecoded
    · exact (decoded_self_iff hleaf).mp hdecoded

theorem truthy_of_decodeProto (hrun : decodeProto decoders fuel value = .ok decoded) :
    value.truthy = true := by
  cases fuel with
  | zero => cases hrun
  | succ fuel =>
    cases htruthy : value.truthy with
    | false => simp [decodeProto, htruthy] at hrun
    | true => rfl

theorem decodeProto_returnsDecoded_iff (decoders : Decoders) (value : Json) :
    ReturnsDecoded decoders value ↔ value.truthy = true ∧ AllSettle decoders value := by
  constructor
  · rintro ⟨decoded, hdecoded, fuel, hrun⟩
    exact ⟨truthy_of_decodeProto (hrun fuel le_rfl),
      allSettle_of_decodeProto (hrun fuel le_rfl) hdecoded⟩
  · rintro ⟨htruthy, hsettles⟩
    obtain ⟨decoded, hrun, hdecoded⟩ := decodeProto_returns htruthy hsettles le_rfl
    exact ⟨decoded, hdecoded, value.size, fun _ hmore => decodeProto_mono hmore hrun⟩

def withoutBinary : Decoders where
  fromBinary _ := none
  fromBinary_shrinks := nofun
  registryDecode _ _ := .error (.thrown "Unregistered type url")
  parseAscii _ := .error (.thrown "Unexpected token")

-- Of all texts only the one of {"a":1} decodes.
def oneBinary : Decoders where
  fromBinary s := if s = "eyJhIjoxfQ==" then some (.object [("a", .number 1)]) else none
  fromBinary_shrinks s value h := by
    obtain ⟨rfl, hvalue⟩ := Option.ite_none_right_eq_some.mp h
    cases hvalue
    decide
  registryDecode _ _ := .error (.thrown "Unregistered type url")
  parseAscii _ := .error (.thrown "Unexpected token")

example :
    decodeProto oneBinary 3 (.object [("msg", .string "eyJhIjoxfQ=="), ("to", .string "b")]) =
      .ok (.object [("msg", .object [("a", .number 1)]), ("to", .string "b")]) := rfl

theorem decodeProto_null_field :
    Decoded withoutBinary (.object [("a", .null)]) (.object [("a", .null)]) ∧
    (∀ fuel, decodeProto withoutBinary (fuel + 2) (.object [("a", .null)]) =
      .error (.thrown (.thrown "value is not defined"))) ∧
    ¬ ReturnsDecoded withoutBinary (.object [("a", .null)]) := by
  refine ⟨.object rfl rfl (.cons .null .nil), fun _ => rfl, ?_⟩
  rintro ⟨decoded, -, fuel, hrun⟩
  cases hrun (fuel + 2) (Nat.le_add_right fuel 2)

end Returns

end OraidexSdk.Common
