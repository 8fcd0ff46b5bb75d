import OraidexSdk.Loops.Outcome
import OraidexSdk.UniversalSwap.BridgeRoute

namespace OraidexSdk.UniversalSwap
open Js SeparatedFields Message Outcome

-- The first destination is a receiver, behind a channel or not.
inductive FirstForm where
  | channelReceiver
  | receiver
deriving DecidableEq, Repr

-- The cases that the parser documents, in its order.
inductive DestinationForm where
  | bridgeReceiverEnd
  | receiverEnd
  | first (form : FirstForm)
  | firstChannelReceiverToken (form : FirstForm)
  | firstReceiver (form : FirstForm)
  | firstReceiverToken (form : FirstForm)
deriving DecidableEq, Repr

namespace FirstForm

def render (data : OraiBridgeRouteData) : FirstForm → String
  | channelReceiver => data.oraiBridgeChannel ++ "/" ++ data.oraiReceiver
  | receiver => data.oraiReceiver

def channel (oraiBridgeChannel : String) : FirstForm → String
  | channelReceiver => oraiBridgeChannel
  | receiver => ""

def absent (oraiBridgeChannel : String) : FirstForm → List String
  | channelReceiver => []
  | receiver => [oraiBridgeChannel]

end FirstForm

namespace DestinationForm

def render (data : OraiBridgeRouteData) : DestinationForm → String
  | bridgeReceiverEnd =>
    data.oraiBridgeChannel ++ "/" ++ data.oraiReceiver ++ ":" ++ data.finalReceiver
  | receiverEnd => data.oraiReceiver ++ ":" ++ data.finalReceiver
  | first form => form.render data
  | firstChannelReceiverToken form => form.render data ++ ":" ++ data.finalDestinationChannel ++
      "/" ++ data.finalReceiver ++ ":" ++ data.tokenIdentifier
  | firstReceiver form => form.render data ++ ":" ++ data.finalReceiver
  | firstReceiverToken form =>
      form.render data ++ ":" ++ data.finalReceiver ++ ":" ++ data.tokenIdentifier

def carried (data : OraiBridgeRouteData) : DestinationForm → OraiBridgeRouteData
  | bridgeReceiverEnd =>
    ⟨data.oraiBridgeChannel, data.oraiReceiver, "", data.finalReceiver, ""⟩
  | receiverEnd => ⟨"", data.oraiReceiver, "", data.finalReceiver, ""⟩
  | first form => ⟨form.channel data.oraiBridgeChannel, data.oraiReceiver, "", "", ""⟩
  | firstChannelReceiverToken form =>
    { data with oraiBridgeChannel := form.channel data.oraiBridgeChannel }
  | firstReceiver form =>
    ⟨form.channel data.oraiBridgeChannel, data.oraiReceiver, "", data.finalReceiver, ""⟩
  | firstReceiverToken form =>
    { data with
      oraiBridgeChannel := form.channel data.oraiBridgeChannel
      finalDestinationChannel := "" }

def absent (data : OraiBridgeRouteData) : DestinationForm → List String
  | bridgeReceiverEnd => [data.finalDestinationChannel, data.tokenIdentifier]
  | receiverEnd => [data.oraiBridgeChannel, data.finalDestinationChannel, data.tokenIdentifier]
  | first form =>
    form.absent data.oraiBridgeChannel ++
      [data.finalDestinationChannel, data.finalReceiver, data.tokenIdentifier]
  | firstChannelReceiverToken form => form.absent data.oraiBridgeChannel
  | firstReceiver form =>
    form.absent data.oraiBridgeChannel ++ [data.finalDestinationChannel, data.tokenIdentifier]
  | firstReceiverToken form =>
    form.absent data.oraiBridgeChannel ++ [data.finalDestinationChannel]

def Expresses (data : OraiBridgeRouteData) (form : DestinationForm) : Prop :=
  ∀ field ∈ form.absent data, field = ""

end DestinationForm

structure OraiBridgeRouteData.SeparatorFree (data : OraiBridgeRouteData) : Prop where
  oraiBridgeChannel : ':' ∉ data.oraiBridgeChannel.toList ∧ '/' ∉ data.oraiBridgeChannel.toList
  oraiReceiver : ':' ∉ data.oraiReceiver.toList ∧ '/' ∉ data.oraiReceiver.toList
  finalDestinationChannel :
    ':' ∉ data.finalDestinationChannel.toList ∧ '/' ∉ data.finalDestinationChannel.toList
  finalReceiver : ':' ∉ data.finalReceiver.toList ∧ '/' ∉ data.finalReceiver.toList
  tokenIdentifier : ':' ∉ data.tokenIdentifier.toList

def beforeColon (cs : List Char) : List Char := cs.takeWhile (· ≠ ':')

def afterColon (cs : List Char) : Option (List Char) := (cs.dropWhile (· ≠ ':')).tail?

def MalformedEnd (after : List Char) : Prop :=
  2 ≤ after.count ':' ∨ after.count ':' = 1 ∧ 1 < (beforeColon after).count '/'

def Malformed (cs : List Char) : Prop :=
  1 < (beforeColon cs).count '/' ∨ ∃ after ∈ afterColon cs, MalformedEnd after

theorem beforeColon_cut {before : List Char} (h : ':' ∉ before) (after : List Char) :
    beforeColon (before ++ ':' :: after) = before ∧
      afterColon (before ++ ':' :: after) = some after := by
  have hall : ∀ c ∈ before, decide (c ≠ ':') = true :=
    fun c hc => decide_eq_true fun he => h (he ▸ hc)
  constructor
  · rw [beforeColon, List.takeWhile_append_of_pos hall, List.takeWhile_cons_of_neg (by decide),
      List.append_nil]
  · rw [afterColon, List.dropWhile_append_of_pos hall, List.dropWhile_cons_of_neg (by decide)]
    rfl

theorem beforeColon_whole {cs : List Char} (h : ':' ∉ cs) :
    beforeColon cs = cs ∧ afterColon cs = none := by
  have hall : ∀ c ∈ cs, decide (c ≠ ':') = true := fun c hc => decide_eq_true fun he => h (he ▸ hc)
  rw [beforeColon, afterColon, List.takeWhile_eq_self_iff.mpr hall,
    List.dropWhile_eq_nil_iff.mpr hall]
  exact ⟨rfl, rfl⟩

theorem readFirstDestination_fails (destination : String) (first : List Char) :
    (∃ e, readFirstDestination destination first = .error e) ↔ 1 < first.count '/' := by
  unfold readFirstDestination
  rcases splitOn_cases '/' first with ⟨hcount, a, hs⟩ | ⟨hcount, a, b, hs⟩ |
    ⟨hcount, a, b, c, rest, hs⟩
  · rw [hs, hcount]
    simp
  · rw [hs, hcount]
    simp
  · rw [hs]
    exact iff_of_true ⟨_, rfl⟩ hcount

theorem readFinalDestination_fails (routeData : OraiBridgeRouteData) (final : List Char) :
    (∃ e, readFinalDestination routeData final = .error e) ↔ MalformedEnd final := by
  unfold readFinalDestination
  rcases splitOn_cases ':' final with ⟨hcount, a, hs⟩ | ⟨hcount, data, token, hs⟩ |
    ⟨hcount, a, b, c, rest, hs⟩
  · rw [hs, MalformedEnd, hcount]
    simp
  · have hdata : beforeColon final = data := by
      have hmem : ':' ∈ final := List.count_pos_iff.mp (by omega)
      obtain ⟨before, tail, rfl, hbefore⟩ := List.eq_append_cons_of_mem hmem
      rw [List.splitOn_append_cons_self_of_not_mem hbefore, List.cons.injEq] at hs
      rw [(beforeColon_cut hbefore tail).1, hs.1]
    rw [hs, MalformedEnd, hcount, hdata]
    rcases splitOn_cases '/' data with ⟨hslash, a, hs⟩ | ⟨hslash, a, b, hs⟩ |
      ⟨hslash, a, b, c, rest, hs⟩
    · simp [hs, hslash]
    · simp [hs, hslash]
    · simp only [hs]
      exact iff_of_true ⟨_, rfl⟩ (.inr ⟨trivial, hslash⟩)
  · rw [hs]
    exact iff_of_true ⟨_, rfl⟩ (.inl hcount)

theorem unmarshal_cut {before : List Char} (h : ':' ∉ before) (after : List Char)
    {destination : String} (htext : destination.toList = before ++ ':' :: after) :
    unmarshalOraiBridgeRoute destination = (do
      readFinalDestination (← readFirstDestination destination before) after) := by
  rw [unmarshalOraiBridgeRoute, htext, splitOnce_cut h]

theorem unmarshal_whole {destination : String} (h : ':' ∉ destination.toList) :
    unmarshalOraiBridgeRoute destination =
      readFirstDestination destination destination.toList := by
  rw [unmarshalOraiBridgeRoute, splitOnce_whole h]

theorem unmarshal_fails (destination : String) :
    (∃ e, unmarshalOraiBridgeRoute destination = .error e) ↔ Malformed destination.toList := by
  by_cases hmem : ':' ∈ destination.toList
  · obtain ⟨before, after, htext, hbefore⟩ := List.eq_append_cons_of_mem hmem
    obtain ⟨hfirst, hafter⟩ := beforeColon_cut hbefore after
    have hhead := readFirstDestination_fails destination before
    rw [unmarshal_cut hbefore after htext, Malformed, htext, hfirst, hafter, ← hhead]
    cases hread : readFirstDestination destination before with
    | error e => exact iff_of_true ⟨e, rfl⟩ (.inl ⟨e, rfl⟩)
    | ok routeData =>
      have htail := readFinalDestination_fails routeData after
      simpa [ok_bind] using htail
  · obtain ⟨hfirst, hafter⟩ := beforeColon_whole hmem
    rw [unmarshal_whole hmem, Malformed, hfirst, hafter, readFirstDestination_fails]
    simp

section RoundTrip

variable {data : OraiBridgeRouteData}

theorem FirstForm.no_colon (h : data.SeparatorFree) (form : FirstForm) :
    ':' ∉ (form.render data).toList := by
  cases form with
  | channelReceiver => simp [render, h.oraiBridgeChannel.1, h.oraiReceiver.1]
  | receiver => exact h.oraiReceiver.1

theorem FirstForm.reads (h : data.SeparatorFree) (form : FirstForm) (destination : String) :
    readFirstDestination destination (form.render data).toList =
      .ok ⟨form.channel data.oraiBridgeChannel, data.oraiReceiver, "", "", ""⟩ := by
  cases form with
  | channelReceiver =>
    have hread := readFirstDestination_channel h.oraiBridgeChannel.2 h.oraiReceiver.2 destination
    simpa [render, channel] using hread
  | receiver =>
    have hread := readFirstDestination_address h.oraiReceiver.2 destination
    simpa [render, channel] using hread

theorem readFinalDestination_receiver (routeData : OraiBridgeRouteData) {final : String}
    (h : ':' ∉ final.toList) :
    readFinalDestination routeData final.toList =
      .ok { routeData with finalReceiver := final } := by
  rw [readFinalDestination, List.splitOn_eq_singleton h]
  simp

theorem readFinalDestination_token (routeData : OraiBridgeRouteData) {final token : String}
    (hcolon : ':' ∉ final.toList) (hslash : '/' ∉ final.toList) (htoken : ':' ∉ token.toList) :
    readFinalDestination routeData (final.toList ++ ':' :: token.toList) =
      .ok { routeData with tokenIdentifier := token, finalReceiver := final } := by
  rw [readFinalDestination, List.splitOn_append_cons_self_of_not_mem hcolon,
    List.splitOn_eq_singleton htoken]
  simp [List.splitOn_eq_singleton hslash]

theorem readFinalDestination_channel (routeData : OraiBridgeRouteData)
    {channel final token : String} (hchannel : ':' ∉ channel.toList ∧ '/' ∉ channel.toList)
    (hfinal : ':' ∉ final.toList ∧ '/' ∉ final.toList) (htoken : ':' ∉ token.toList) :
    readFinalDestination routeData
        ((channel.toList ++ '/' :: final.toList) ++ ':' :: token.toList) =
      .ok { routeData with
        tokenIdentifier := token, finalDestinationChannel := channel, finalReceiver := final } := by
  have hcolon : ':' ∉ channel.toList ++ '/' :: final.toList := by
    simp [hchannel.1, hfinal.1]
  rw [readFinalDestination, List.splitOn_append_cons_self_of_not_mem hcolon,
    List.splitOn_eq_singleton htoken]
  simp [List.splitOn_append_cons_self_of_not_mem hchannel.2, List.splitOn_eq_singleton hfinal.2]

theorem unmarshal_first (h : data.SeparatorFree) (form : FirstForm) {destination : String}
    {after : List Char} (htext : destination.toList = (form.render data).toList ++ ':' :: after) :
    unmarshalOraiBridgeRoute destination =
      readFinalDestination ⟨form.channel data.oraiBridgeChannel, data.oraiReceiver, "", "", ""⟩
        after := by
  rw [unmarshal_cut (form.no_colon h) after htext, form.reads h, ok_bind]

theorem unmarshal_render (h : data.SeparatorFree) (form : DestinationForm) :
    unmarshalOraiBridgeRoute (form.render data) = .ok (form.carried data) := by
  have hreceiver (first : FirstForm) {destination : String}
      (htext : destination = first.render data ++ ":" ++ data.finalReceiver) :
      unmarshalOraiBridgeRoute destination =
        .ok ⟨first.channel data.oraiBridgeChannel, data.oraiReceiver, "", data.finalReceiver,
          ""⟩ := by
    have hchars : destination.toList =
        (first.render data).toList ++ ':' :: data.finalReceiver.toList := by
      simp [htext]
    rw [unmarshal_first h first hchars, readFinalDestination_receiver _ h.finalReceiver.1]
  cases form with
  | bridgeReceiverEnd => exact hreceiver .channelReceiver rfl
  | receiverEnd => exact hreceiver .receiver rfl
  | first form =>
    change unmarshalOraiBridgeRoute (form.render data) = _
    rw [unmarshal_whole (form.no_colon h), form.reads h]
    rfl
  | firstChannelReceiverToken form =>
    have htext : (DestinationForm.render data (.firstChannelReceiverToken form)).toList =
        (form.render data).toList ++ ':' :: ((data.finalDestinationChannel.toList ++
          '/' :: data.finalReceiver.toList) ++ ':' :: data.tokenIdentifier.toList) := by
      simp [DestinationForm.render]
    rw [unmarshal_first h form htext, readFinalDestination_channel _ h.finalDestinationChannel
      h.finalReceiver h.tokenIdentifier]
    rfl
  | firstReceiver form => exact hreceiver form rfl
  | firstReceiverToken form =>
    have htext : (DestinationForm.render data (.firstReceiverToken form)).toList =
        (form.render data).toList ++
          ':' :: (data.finalReceiver.toList ++ ':' :: data.tokenIdentifier.toList) := by
      simp [DestinationForm.render]
    rw [unmarshal_first h form htext, readFinalDestination_token _ h.finalReceiver.1
      h.finalReceiver.2 h.tokenIdentifier]
    rfl

theorem FirstForm.absent_iff {oraiBridgeChannel : String} {form : FirstForm} :
    (∀ field ∈ form.absent oraiBridgeChannel, field = "") ↔
      form.channel oraiBridgeChannel = oraiBridgeChannel := by
  cases form with
  | channelReceiver => simp [absent, channel]
  | receiver => simp [absent, channel, eq_comm]

theorem DestinationForm.carried_eq_iff (form : DestinationForm) :
    form.carried data = data ↔ form.Expresses data := by
  obtain ⟨oraiBridgeChannel, oraiReceiver, finalDestinationChannel, finalReceiver,
    tokenIdentifier⟩ := data
  cases form <;> simp [Expresses, absent, carried, or_imp, forall_and, FirstForm.absent_iff,
    eq_comm]

end RoundTrip

theorem unmarshal_grammar :
    (∀ destination, (∃ e, unmarshalOraiBridgeRoute destination = .error e) ↔
        Malformed destination.toList) ∧
      ∀ data : OraiBridgeRouteData, data.SeparatorFree → ∀ form : DestinationForm,
        unmarshalOraiBridgeRoute (form.render data) = .ok (form.carried data) ∧
          (unmarshalOraiBridgeRoute (form.render data) = .ok data ↔ form.Expresses data) := by
  refine ⟨unmarshal_fails, fun data hfree form => ?_⟩
  have hrender := unmarshal_render hfree form
  refine ⟨hrender, ?_⟩
  rw [hrender, Except.ok.injEq, form.carried_eq_iff]

def routeToInj : OraiBridgeRouteData := ⟨"channel-1", "orai1g", "channel-146", "inj1v", "peggy/inj"⟩

theorem routeToInj_grammar :
    unmarshalOraiBridgeRoute "channel-1/orai1g:channel-146/inj1v:peggy/inj" = .ok routeToInj ∧
      (∃ e, unmarshalOraiBridgeRoute "orai1g:a/b/inj1v:peggy/inj" = .error e) := by
  obtain ⟨hfails, hrender⟩ := unmarshal_grammar
  have hfree : routeToInj.SeparatorFree := by
    constructor <;> decide
  refine ⟨?_, (hfails _).mpr ?_⟩
  · refine (hrender routeToInj hfree (.firstChannelReceiverToken .channelReceiver)).2.mpr ?_
    exact List.forall_mem_nil _
  · exact .inr ⟨"a/b/inj1v:peggy/inj".toList, rfl, .inr (by decide)⟩

end OraidexSdk.UniversalSwap
