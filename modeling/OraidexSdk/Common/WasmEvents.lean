import Mathlib.Logic.Function.Basic
import OraidexSdk.Js.Text
import OraidexSdk.Loops.Outcome
import OraidexSdk.Loops.Segments

namespace OraidexSdk.Common
open Js Outcome Segments

structure Attribute where
  key : String
  value : String
deriving DecidableEq

structure Event where
  type : String
  attributes : List Attribute
deriving DecidableEq

abbrev Properties := String → Option String

def noProperties : Properties := fun _ => none

-- The setter that every object inherits under __proto__ ignores a text.
def Properties.assign (attr : Properties) (entry : Attribute) : Properties :=
  if entry.key = "__proto__" then attr
  else Function.update attr entry.key (some entry.value)

def isWasmEvent (event : Event) : Bool := startsWith event.type "wasm"

def isContractAddress (entry : Attribute) : Bool := entry.key = "_contract_address"

def pushDefined (attrs : List (Option Properties)) (attr : Option Properties) :
    List (Option Properties) :=
  match attr with
  | some attr => attrs ++ [some attr]
  | none => attrs

def readAttribute (state : List (Option Properties) × Option Properties) (entry : Attribute) :
    Except JsError (List (Option Properties) × Option Properties) :=
  let (attrs, attr) :=
    if isContractAddress entry then (pushDefined state.1 state.2, some noProperties) else state
  match attr with
  | none => .error .typeError
  | some attr => .ok (attrs, some (attr.assign entry))

def readWasmEvent (attrs : List (Option Properties)) (wasmEvent : Event) :
    Except JsError (List (Option Properties)) := do
  let (attrs, attr) ← wasmEvent.attributes.foldlM readAttribute (attrs, none)
  return attrs ++ [attr]

def parseWasmEvents (events : List Event) : Except JsError (List (Option Properties)) :=
  (events.filter isWasmEvent).foldlM readWasmEvent []

def lastValue (attributes : List Attribute) (key : String) : Option String :=
  (attributes.reverse.find? (·.key = key)).map (·.value)

def calls (events : List Event) : List (Attribute × List Attribute) :=
  (events.filter isWasmEvent).flatMap fun event => segments isContractAddress event.attributes

def callRecord (call : Attribute × List Attribute) : Properties := fun key =>
  if key = "_contract_address" then some call.1.value else lastValue call.2 key

def ReturnsCallRecords (events : List Event) : Prop :=
  parseWasmEvents events = .ok ((calls events).map fun call => some (callRecord call))

def StartsWithContractAddress (event : Event) : Prop :=
  event.attributes = [] ∨
    ∃ entry rest, event.attributes = entry :: rest ∧ entry.key = "_contract_address"

section Record

theorem lastValue_concat (attributes : List Attribute) (entry : Attribute) (key : String) :
    lastValue (attributes ++ [entry]) key =
      if entry.key = key then some entry.value else lastValue attributes key := by
  rw [lastValue, List.reverse_append, List.reverse_singleton, List.singleton_append,
    List.find?_cons]
  split_ifs with h <;> simp [h, lastValue]

theorem lastValue_eq_none_iff {attributes : List Attribute} {key : String} :
    lastValue attributes key = none ↔ ∀ entry ∈ attributes, entry.key ≠ key := by
  simp [lastValue]

theorem assign_apply (attr : Properties) (entry : Attribute) (key : String) :
    attr.assign entry key =
      if entry.key = key ∧ key ≠ "__proto__" then some entry.value else attr key := by
  unfold Properties.assign
  split_ifs with hproto hboth hboth
  · exact absurd (hboth.1.symm.trans hproto) hboth.2
  · rfl
  · rw [← hboth.1, Function.update_self]
  · refine Function.update_of_ne ?_ _ _
    rintro rfl
    exact hboth ⟨rfl, hproto⟩

theorem foldl_assign_apply (attr : Properties) (attributes : List Attribute) {key : String}
    (hkey : key ≠ "__proto__") :
    attributes.foldl Properties.assign attr key = (lastValue attributes key).or (attr key) := by
  induction attributes using List.reverseRecOn with
  | nil => rfl
  | append_singleton attributes entry ih =>
    rw [List.foldl_append, List.foldl_cons, List.foldl_nil, assign_apply, lastValue_concat, ih]
    split_ifs with hboth hname hname
    · rfl
    · exact absurd hboth.1 hname
    · exact absurd ⟨hname, hkey⟩ hboth
    · rfl

theorem foldl_assign_proto (attr : Properties) (attributes : List Attribute) :
    attributes.foldl Properties.assign attr "__proto__" = attr "__proto__" := by
  induction attributes generalizing attr with
  | nil => rfl
  | cons entry attributes ih => rw [List.foldl_cons, ih, assign_apply, if_neg (by simp)]

-- The record as the loop builds it.
def builtRecord (call : Attribute × List Attribute) : Properties :=
  call.2.foldl Properties.assign (noProperties.assign call.1)

variable {call : Attribute × List Attribute}
variable (hfirst : call.1.key = "_contract_address")
variable (hrest : ∀ entry ∈ call.2, entry.key ≠ "_contract_address")

theorem builtRecord_proto (call : Attribute × List Attribute) :
    builtRecord call "__proto__" = none := by
  rw [builtRecord, foldl_assign_proto, assign_apply, if_neg (by simp)]
  rfl

include hfirst hrest

theorem builtRecord_apply {key : String} (hkey : key ≠ "__proto__") :
    builtRecord call key = callRecord call key := by
  rw [builtRecord, foldl_assign_apply _ _ hkey, assign_apply, hfirst, callRecord]
  by_cases hname : key = "_contract_address"
  · subst hname
    rw [lastValue_eq_none_iff.mpr hrest, if_pos ⟨rfl, hkey⟩, if_pos rfl]
    rfl
  · rw [if_neg fun h => hname h.1.symm, if_neg hname]
    exact Option.or_none

theorem builtRecord_eq_iff :
    builtRecord call = callRecord call ↔ ∀ entry ∈ call.2, entry.key ≠ "__proto__" := by
  have hproto : callRecord call "__proto__" = lastValue call.2 "__proto__" := if_neg (by decide)
  constructor
  · intro heq
    rw [← lastValue_eq_none_iff, ← hproto, ← heq]
    exact builtRecord_proto call
  · intro hnone
    funext key
    by_cases hkey : key = "__proto__"
    · rw [hkey, builtRecord_proto, hproto, lastValue_eq_none_iff.mpr hnone]
    · exact builtRecord_apply hfirst hrest hkey

end Record

section Scan

def flushed (state : List (Option Properties) × Option Properties) : List (Option Properties) :=
  state.1 ++ [state.2]

theorem readAttribute_call (state : List (Option Properties) × Option Properties) {entry : Attribute}
    (h : isContractAddress entry = true) :
    readAttribute state entry =
      .ok (pushDefined state.1 state.2, some (noProperties.assign entry)) := by
  rw [readAttribute, if_pos h]

theorem readAttribute_inner (attrs : List (Option Properties)) (attr : Properties)
    {entry : Attribute} (h : isContractAddress entry = false) :
    readAttribute (attrs, some attr) entry = .ok (attrs, some (attr.assign entry)) := by
  rw [readAttribute, if_neg (Bool.eq_false_iff.mp h)]

theorem flushed_foldlM (attrs : List (Option Properties)) (attr : Properties)
    (entries : List Attribute) :
    flushed <$> entries.foldlM readAttribute (attrs, some attr) =
      .ok (attrs ++ some ((entries.takeWhile (!isContractAddress ·)).foldl Properties.assign attr) ::
        (segments isContractAddress entries).map fun call => some (builtRecord call)) := by
  induction entries generalizing attrs attr with
  | nil => rfl
  | cons entry entries ih =>
    rw [List.foldlM_cons]
    cases h : isContractAddress entry with
    | true =>
      rw [readAttribute_call _ h, ok_bind, ih, segments_cons_open h, takeWhile_cons_open h,
        pushDefined, List.append_assoc]
      rfl
    | false =>
      rw [readAttribute_inner _ _ h, ok_bind, ih, segments_cons_inner h, takeWhile_cons_inner h]
      rfl

-- An event without attributes leaves an undefined behind.
def eventRecords (event : Event) : List (Option Properties) :=
  if event.attributes = [] then [none]
  else (segments isContractAddress event.attributes).map fun call => some (builtRecord call)

theorem readWasmEvent_eq (attrs : List (Option Properties)) {event : Event}
    (h : StartsWithContractAddress event) :
    readWasmEvent attrs event = .ok (attrs ++ eventRecords event) := by
  change flushed <$> event.attributes.foldlM readAttribute (attrs, none) = _
  rcases h with hnil | ⟨entry, entries, hcons, hkey⟩
  · rw [eventRecords, if_pos hnil, hnil]
    rfl
  · have hopens : isContractAddress entry = true := decide_eq_true hkey
    rw [eventRecords, hcons, if_neg (List.cons_ne_nil _ _), List.foldlM_cons,
      readAttribute_call _ hopens, ok_bind, flushed_foldlM, segments_cons_open hopens]
    rfl

theorem foldlM_readWasmEvent (events : List Event)
    (h : ∀ event ∈ events, StartsWithContractAddress event) (attrs : List (Option Properties)) :
    events.foldlM readWasmEvent attrs = .ok (attrs ++ events.flatMap eventRecords) := by
  induction events generalizing attrs with
  | nil => rw [List.flatMap_nil, List.append_nil, List.foldlM_nil]; rfl
  | cons event events ih =>
    obtain ⟨hevent, hevents⟩ := List.forall_mem_cons.mp h
    rw [List.foldlM_cons, readWasmEvent_eq attrs hevent, ok_bind, ih hevents, List.flatMap_cons,
      List.append_assoc]

end Scan

section Calls

theorem mem_calls {events : List Event} {call : Attribute × List Attribute} :
    call ∈ calls events ↔ ∃ event ∈ events, isWasmEvent event = true ∧
      call ∈ segments isContractAddress event.attributes := by
  simp [calls, and_assoc]

theorem fst_of_mem_segments {entries : List Attribute} {call : Attribute × List Attribute}
    (h : call ∈ segments isContractAddress entries) : call.1.key = "_contract_address" := by
  have hmem : call.1 ∈ (segments isContractAddress entries).map Prod.fst := List.mem_map_of_mem h
  rw [map_fst_segments, List.mem_filter] at hmem
  exact of_decide_eq_true hmem.2

theorem builtRecord_eq_iff_of_mem {events : List Event} {call : Attribute × List Attribute}
    (h : call ∈ calls events) :
    builtRecord call = callRecord call ↔ ∀ entry ∈ call.2, entry.key ≠ "__proto__" := by
  obtain ⟨event, -, -, hsegment⟩ := mem_calls.mp h
  exact builtRecord_eq_iff (fst_of_mem_segments hsegment) fun _ hentry =>
    of_decide_eq_false (not_opens_of_mem_segment hsegment hentry)

theorem exists_call {events : List Event} {event : Event} (hmem : event ∈ events)
    (hwasm : isWasmEvent event = true) (hstart : StartsWithContractAddress event)
    {entry : Attribute} (hentry : entry ∈ event.attributes)
    (hinner : isContractAddress entry = false) : ∃ call ∈ calls events, entry ∈ call.2 := by
  rcases hstart with hnil | ⟨first, entries, hcons, hkey⟩
  · rw [hnil] at hentry
    exact absurd hentry List.not_mem_nil
  · have hopens : isContractAddress first = true := decide_eq_true hkey
    rw [hcons] at hentry
    obtain ⟨call, hcall, hin⟩ := mem_segment hopens hentry hinner
    exact ⟨call, mem_calls.mpr ⟨event, hmem, hwasm, hcons ▸ hcall⟩, hin⟩

theorem none_mem_eventRecords {event : Event} (h : event.attributes = []) :
    none ∈ eventRecords event := by
  rw [eventRecords, if_pos h]
  exact List.mem_singleton.mpr rfl

theorem flatMap_eventRecords {events : List Event}
    (h : ∀ event ∈ events, isWasmEvent event = true → event.attributes ≠ []) :
    (events.filter isWasmEvent).flatMap eventRecords =
      (calls events).map fun call => some (builtRecord call) := by
  rw [calls, List.map_flatMap]
  refine List.flatMap_congr fun event hevent => ?_
  obtain ⟨hmem, hwasm⟩ := List.mem_filter.mp hevent
  exact if_neg (h event hmem hwasm)

end Calls

theorem parseWasmEvents_returnsCallRecords_iff {events : List Event}
    (h : ∀ event ∈ events, isWasmEvent event = true → StartsWithContractAddress event) :
    ReturnsCallRecords events ↔ ∀ event ∈ events, isWasmEvent event = true →
      event.attributes ≠ [] ∧ ∀ entry ∈ event.attributes, entry.key ≠ "__proto__" := by
  have hrun : parseWasmEvents events =
      .ok ([] ++ (events.filter isWasmEvent).flatMap eventRecords) := by
    refine foldlM_readWasmEvent _ (fun event hevent => ?_) []
    obtain ⟨hmem, hwasm⟩ := List.mem_filter.mp hevent
    exact h event hmem hwasm
  rw [ReturnsCallRecords, hrun, List.nil_append]
  constructor
  · intro heq
    have hrecords := Except.ok.inj heq
    have hne : ∀ event ∈ events, isWasmEvent event = true → event.attributes ≠ [] := by
      intro event hmem hwasm hnil
      have hnone : none ∈ (events.filter isWasmEvent).flatMap eventRecords :=
        List.mem_flatMap.mpr ⟨event, List.mem_filter.mpr ⟨hmem, hwasm⟩, none_mem_eventRecords hnil⟩
      rw [hrecords] at hnone
      simp at hnone
    rw [flatMap_eventRecords hne, List.map_inj_left] at hrecords
    intro event hmem hwasm
    refine ⟨hne event hmem hwasm, fun entry hentry hproto => ?_⟩
    have hinner : isContractAddress entry = false := by simp [isContractAddress, hproto]
    obtain ⟨call, hcall, hin⟩ := exists_call hmem hwasm (h event hmem hwasm) hentry hinner
    have hbuilt := Option.some.inj (hrecords call hcall)
    exact (builtRecord_eq_iff_of_mem hcall).mp hbuilt entry hin hproto
  · intro hall
    rw [flatMap_eventRecords fun event hmem hwasm => (hall event hmem hwasm).1]
    refine congrArg _ (List.map_congr_left fun call hcall => congrArg some ?_)
    obtain ⟨event, hmem, hwasm, hsegment⟩ := mem_calls.mp hcall
    refine (builtRecord_eq_iff_of_mem hcall).mpr fun entry hentry => ?_
    exact (hall event hmem hwasm).2 entry (mem_of_mem_segment hsegment hentry)

theorem parseWasmEvents_returnsCallRecords_one :
    ReturnsCallRecords [⟨"wasm", [⟨"_contract_address", "orai1"⟩, ⟨"action", "swap"⟩]⟩] ↔
      ∀ event ∈ [(⟨"wasm", [⟨"_contract_address", "orai1"⟩, ⟨"action", "swap"⟩]⟩ : Event)],
        isWasmEvent event = true →
          event.attributes ≠ [] ∧ ∀ entry ∈ event.attributes, entry.key ≠ "__proto__" :=
  parseWasmEvents_returnsCallRecords_iff (by
    intro event hmem _
    rw [List.mem_singleton.mp hmem]
    exact .inr ⟨_, _, rfl, rfl⟩)

theorem parseWasmEvents_empty_event :
    StartsWithContractAddress ⟨"wasm", []⟩ ∧ parseWasmEvents [⟨"wasm", []⟩] = .ok [none] ∧
      ¬ ReturnsCallRecords [⟨"wasm", []⟩] := by
  have hrun : parseWasmEvents [⟨"wasm", []⟩] = .ok [none] := rfl
  refine ⟨.inl rfl, hrun, fun h => ?_⟩
  rw [ReturnsCallRecords, hrun] at h
  exact absurd (congrArg List.length (Except.ok.inj h)) (by decide)

end OraidexSdk.Common
