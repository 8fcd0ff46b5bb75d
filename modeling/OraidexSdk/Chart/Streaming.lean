import OraidexSdk.Chart.Utils
import OraidexSdk.Loops.Runs
import OraidexSdk.Ordered.Keyed
import Mathlib.Data.List.Nodup

namespace OraidexSdk.Chart.Streaming
open Js

-- A missing field of a bar reads as NaN.
structure StreamBar where
  time : Number ℚ
  open_ : Number ℚ
  high : Number ℚ
  low : Number ℚ
  close : Number ℚ
  volume : Number ℚ
deriving DecidableEq

structure TradeData where
  open_ : Number ℚ
  close : Number ℚ
  low : Number ℚ
  high : Number ℚ
  volume : Number ℚ
  time : Number ℚ
  pair : String
deriving DecidableEq

-- K names the callbacks.
structure Handler (K : Type) where
  id : String
  callback : K
deriving DecidableEq

structure SubscriptionItem (K : Type) where
  subscriberUID : String
  resolution : String
  lastDailyBar : Option StreamBar
  handlers : List (Handler K)
deriving DecidableEq

-- A Map iterates its entries in the order in which the keys came in.
abbrev ChannelMap (K : Type) := List (String × SubscriptionItem K)

structure Subscribe (K : Type) where
  fullName : String
  resolution : String
  onRealtimeCallback : K
  subscriberUID : String
  lastDailyBar : Option StreamBar
deriving DecidableEq

inductive Event (K : Type) where
  | subscribeOnStream (args : Subscribe K)
  | unsubscribeFromStream (subscriberUID : String)
  | handleTradeEvent (data : TradeData)
deriving DecidableEq

structure Invocation (K : Type) where
  handler : Handler K
  bar : StreamBar
deriving DecidableEq

section Steps

variable {K : Type}

def mapSet (m : ChannelMap K) (key : String) (item : SubscriptionItem K) : ChannelMap K :=
  if m.any (·.1 = key) then m.map fun entry => if entry.1 = key then (key, item) else entry
  else m ++ [(key, item)]

def nextBar (lastDailyBar : StreamBar) (resolution : String) (data : TradeData) :
    Option StreamBar :=
  let interval := number resolution.toList
  let roundLastBarTime := roundTime (dateTime lastDailyBar.time) interval
  let roundNextOrderTime := roundTime (dateTime data.time) interval
  let volume := data.volume.mul (.finite (1 / 10 ^ 6))
  if roundNextOrderTime.gt roundLastBarTime then
    some ⟨roundNextOrderTime.mul (.finite 1000), data.open_, data.high, data.low, data.close, volume⟩
  else if roundNextOrderTime.same roundLastBarTime then
    some { lastDailyBar with
      high := lastDailyBar.high.max data.high
      low := lastDailyBar.low.min data.low
      close := data.close
      volume := volume.add lastDailyBar.volume }
  else none

def handleTradeEvent (m : ChannelMap K) (data : TradeData) :
    Except JsError (ChannelMap K × List (Invocation K)) :=
  match m.lookup data.pair with
  | none => .ok (m, [])
  | some item =>
    match item.lastDailyBar with
    | none => .error .typeError
    | some lastDailyBar =>
      match nextBar lastDailyBar item.resolution data with
      | none => .ok (m, [])
      | some bar =>
        .ok (mapSet m data.pair { item with lastDailyBar := some bar },
          item.handlers.map fun handler => ⟨handler, bar⟩)

def channelString (fullName : String) : Option String :=
  (parseFullSymbol fullName).map fun parsed => parsed.fromSymbol ++ "/" ++ parsed.toSymbol

def subscribeOnStream (m : ChannelMap K) (args : Subscribe K) : Except JsError (ChannelMap K) :=
  match channelString args.fullName with
  | none => .error .typeError
  | some channel =>
    .ok (mapSet m channel
      { subscriberUID := args.subscriberUID
        resolution := args.resolution
        lastDailyBar := args.lastDailyBar
        handlers := [⟨args.subscriberUID, args.onRealtimeCallback⟩] })

-- The loop goes on to the next channel unless it deletes one.
def unsubscribeFromStream (subscriberUID : String) : ChannelMap K → ChannelMap K
  | [] => []
  | (channel, item) :: rest =>
    match item.handlers.findIdx? (·.id = subscriberUID) with
    | none => (channel, item) :: unsubscribeFromStream subscriberUID rest
    | some handlerIndex =>
      let handlers := item.handlers.eraseIdx handlerIndex
      if handlers = [] then rest
      else (channel, { item with handlers := handlers }) :: unsubscribeFromStream subscriberUID rest

-- An exception leaves the map as it was and invokes nothing.
def step (m : ChannelMap K) : Event K → ChannelMap K × Except JsError (List (Invocation K))
  | .subscribeOnStream args =>
    match subscribeOnStream m args with
    | .error e => (m, .error e)
    | .ok m' => (m', .ok [])
  | .unsubscribeFromStream subscriberUID => (unsubscribeFromStream subscriberUID m, .ok [])
  | .handleTradeEvent data =>
    match handleTradeEvent m data with
    | .error e => (m, .error e)
    | .ok (m', invocations) => (m', .ok invocations)

def stream : Machine (ChannelMap K) (Event K) (Except JsError (List (Invocation K))) :=
  ⟨[], step⟩

def producedBar (m : ChannelMap K) (data : TradeData) : Option StreamBar := do
  let item ← m.lookup data.pair
  let lastDailyBar ← item.lastDailyBar
  nextBar lastDailyBar item.resolution data

-- The subscribers, each with its channel, that have not unsubscribed.
def activate (active : List (String × Handler K)) : Event K → List (String × Handler K)
  | .subscribeOnStream args =>
    match channelString args.fullName with
    | none => active
    | some channel => active ++ [(channel, ⟨args.subscriberUID, args.onRealtimeCallback⟩)]
  | .unsubscribeFromStream subscriberUID => active.filter (·.2.id ≠ subscriberUID)
  | .handleTradeEvent _ => active

def activeAfter (events : List (Event K)) : List (String × Handler K) := events.foldl activate []

def activeOn (events : List (Event K)) (channel : String) : List (Handler K) :=
  ((activeAfter events).filter (·.1 = channel)).map (·.2)

def Event.subscriberUID? : Event K → Option String
  | .subscribeOnStream args => some args.subscriberUID
  | _ => none

def subscriberUIDs (events : List (Event K)) : List String := events.filterMap Event.subscriberUID?

def Delivers (before : List (Event K)) : Event K → Prop
  | .handleTradeEvent data => ∀ bar, producedBar (stream.stateAfter before) data = some bar →
      ∃ invocations, stream.output before (.handleTradeEvent data) = .ok invocations ∧
        ∀ handler ∈ activeOn before data.pair,
          invocations.filter (·.handler.id = handler.id) = [⟨handler, bar⟩]
  | _ => True

def Unshared (before : List (Event K)) : Event K → Prop
  | .handleTradeEvent data => ∀ bar, producedBar (stream.stateAfter before) data = some bar →
      (activeOn before data.pair).length ≤ 1
  | _ => True

end Steps

section Invariant

variable {K : Type} {m : ChannelMap K} {events : List (Event K)}

theorem mem_mapSet {key : String} {item : SubscriptionItem K} {entry : String × SubscriptionItem K}
    (h : entry ∈ mapSet m key item) : entry = (key, item) ∨ entry ∈ m := by
  unfold mapSet at h
  split at h
  · obtain ⟨old, hold, rfl⟩ := List.mem_map.mp h
    split
    · exact .inl rfl
    · exact .inr hold
  · rcases List.mem_append.mp h with hold | hnew
    · exact .inr hold
    · exact .inl (List.mem_singleton.mp hnew)

theorem mapSet_keys_nodup {key : String} {item : SubscriptionItem K}
    (h : (m.map (·.1)).Nodup) : ((mapSet m key item).map (·.1)).Nodup := by
  unfold mapSet
  split
  · have hsame : (m.map fun entry => if entry.1 = key then (key, item) else entry).map (·.1) =
        m.map (·.1) := by
      rw [List.map_map]
      refine List.map_congr_left fun entry _ => ?_
      simp only [Function.comp]
      split
      · rename_i hkey
        exact hkey.symm
      · rfl
    rw [hsame]
    exact h
  · rename_i hnone
    rw [List.map_append, List.nodup_append]
    refine ⟨h, List.nodup_singleton _, ?_⟩
    rintro a ha b hb rfl
    obtain ⟨entry, hentry, rfl⟩ := List.mem_map.mp ha
    refine hnone (List.any_eq_true.mpr ⟨entry, hentry, ?_⟩)
    simpa using hb

theorem activeAfter_concat (before : List (Event K)) (e : Event K) :
    activeAfter (before ++ [e]) = activate (activeAfter before) e := by
  simp [activeAfter]

theorem subscriberUIDs_concat (before : List (Event K)) (e : Event K) :
    subscriberUIDs (before ++ [e]) = subscriberUIDs before ++ e.subscriberUID?.toList := by
  cases h : e.subscriberUID? <;> simp [subscriberUIDs, h]

structure Served (events : List (Event K)) (m : ChannelMap K) : Prop where
  keys : (m.map (·.1)).Nodup
  ids : ((activeAfter events).map (·.2.id)).Nodup
  known : ∀ x ∈ activeAfter events, x.2.id ∈ subscriberUIDs events
  single : ∀ entry ∈ m, ∃ handler,
    entry.2.handlers = [handler] ∧ (entry.1, handler) ∈ activeAfter events

theorem served_start : Served ([] : List (Event K)) [] :=
  ⟨List.nodup_nil, List.nodup_nil, List.forall_mem_nil _, List.forall_mem_nil _⟩

theorem Served.eq_of_id (h : Served events m) {x y : String × Handler K}
    (hx : x ∈ activeAfter events) (hy : y ∈ activeAfter events) (hid : x.2.id = y.2.id) : x = y :=
  List.inj_on_of_nodup_map h.ids hx hy hid

theorem Served.of_active {events' : List (Event K)} (h : Served events m)
    (hactive : activeAfter events' = activeAfter events)
    (huids : ∀ uid ∈ subscriberUIDs events, uid ∈ subscriberUIDs events') : Served events' m := by
  constructor
  · exact h.keys
  · rw [hactive]
    exact h.ids
  · rw [hactive]
    exact fun x hx => huids _ (h.known x hx)
  · rw [hactive]
    exact h.single

theorem subscriberUIDs_mono (events : List (Event K)) (e : Event K) :
    ∀ uid ∈ subscriberUIDs events, uid ∈ subscriberUIDs (events ++ [e]) := by
  intro uid huid
  rw [subscriberUIDs_concat]
  exact List.mem_append_left _ huid

theorem Served.subscribe {args : Subscribe K} {m' : ChannelMap K} (h : Served events m)
    (hfresh : args.subscriberUID ∉ subscriberUIDs events)
    (hrun : Chart.Streaming.subscribeOnStream m args = .ok m') :
    Served (events ++ [.subscribeOnStream args]) m' := by
  unfold Chart.Streaming.subscribeOnStream at hrun
  split at hrun
  · cases hrun
  · rename_i channel hchannel
    cases hrun
    have hactive : activeAfter (events ++ [.subscribeOnStream args]) = activeAfter events ++
        [(channel, ⟨args.subscriberUID, args.onRealtimeCallback⟩)] := by
      rw [activeAfter_concat]
      simp only [activate, hchannel]
    have huids : subscriberUIDs (events ++ [.subscribeOnStream args]) =
        subscriberUIDs events ++ [args.subscriberUID] := subscriberUIDs_concat events _
    refine ⟨mapSet_keys_nodup h.keys, ?_, ?_, ?_⟩
    · rw [hactive, List.map_append, List.nodup_append]
      refine ⟨h.ids, List.nodup_singleton _, ?_⟩
      rintro a ha b hb rfl
      obtain ⟨x, hx, rfl⟩ := List.mem_map.mp ha
      have hid : x.2.id = args.subscriberUID := by simpa using hb
      exact hfresh (hid ▸ h.known x hx)
    · intro x hx
      rw [hactive, List.mem_append, List.mem_singleton] at hx
      rw [huids, List.mem_append, List.mem_singleton]
      rcases hx with hold | rfl
      · exact .inl (h.known x hold)
      · exact .inr rfl
    · intro entry hentry
      rw [hactive]
      rcases mem_mapSet hentry with rfl | hold
      · exact ⟨_, rfl, List.mem_append_right _ (List.mem_singleton_self _)⟩
      · obtain ⟨handler, hhandlers, hmem⟩ := h.single entry hold
        exact ⟨handler, hhandlers, List.mem_append_left _ hmem⟩

theorem unsubscribe_cons {channel : String} {item : SubscriptionItem K} {handler : Handler K}
    (hhandlers : item.handlers = [handler]) (subscriberUID : String) (rest : ChannelMap K) :
    unsubscribeFromStream subscriberUID ((channel, item) :: rest) =
      if handler.id = subscriberUID then rest
      else (channel, item) :: unsubscribeFromStream subscriberUID rest := by
  by_cases hid : handler.id = subscriberUID
  · simp [unsubscribeFromStream, hhandlers, hid]
  · simp [unsubscribeFromStream, hhandlers, hid]

theorem unsubscribe_sublist (subscriberUID : String) (hsingle : ∀ entry ∈ m, ∃ handler,
    entry.2.handlers = [handler]) : (unsubscribeFromStream subscriberUID m).Sublist m := by
  induction m with
  | nil => exact List.Sublist.refl _
  | cons entry rest ih =>
    obtain ⟨channel, item⟩ := entry
    obtain ⟨⟨handler, hhandlers⟩, hrest⟩ := List.forall_mem_cons.mp hsingle
    have hhandlers' : item.handlers = [handler] := hhandlers
    rw [unsubscribe_cons hhandlers']
    split
    · exact List.sublist_cons_self _ _
    · exact (ih hrest).cons_cons _

theorem unsubscribe_removes (subscriberUID : String) (hkeys : (m.map (·.1)).Nodup)
    (hsingle : ∀ entry ∈ m, ∃ handler, entry.2.handlers = [handler])
    (hunique : ∀ entry ∈ m, ∀ other ∈ m, ∀ handler, entry.2.handlers = [handler] →
      ∀ handler', other.2.handlers = [handler'] → handler.id = subscriberUID →
        handler'.id = subscriberUID → entry.1 = other.1) :
    ∀ entry ∈ unsubscribeFromStream subscriberUID m, ∀ handler, entry.2.handlers = [handler] →
      handler.id ≠ subscriberUID := by
  induction m with
  | nil => exact fun entry hentry => absurd hentry (List.not_mem_nil)
  | cons entry rest ih =>
    obtain ⟨channel, item⟩ := entry
    obtain ⟨⟨handler, hhandlers⟩, hrest⟩ := List.forall_mem_cons.mp hsingle
    have hhandlers' : item.handlers = [handler] := hhandlers
    obtain ⟨hnew, hkeys'⟩ := List.nodup_cons.mp hkeys
    rw [unsubscribe_cons hhandlers']
    split
    case isTrue hid =>
      intro other hother handler' hhandler' hid'
      have hsame := hunique (channel, item) List.mem_cons_self other
        (List.mem_cons_of_mem _ hother) handler hhandlers' handler' hhandler' hid hid'
      exact hnew (List.mem_map.mpr ⟨other, hother, hsame.symm⟩)
    case isFalse hid =>
      intro other hother handler' hhandler'
      rcases List.mem_cons.mp hother with rfl | hother
      · rw [hhandlers', List.cons.injEq] at hhandler'
        rw [← hhandler'.1]
        exact hid
      · exact ih hkeys' hrest (fun a ha b hb => hunique a (List.mem_cons_of_mem _ ha) b
          (List.mem_cons_of_mem _ hb)) other hother handler' hhandler'

theorem Served.unsubscribe (h : Served events m) (subscriberUID : String) :
    Served (events ++ [.unsubscribeFromStream subscriberUID])
      (Chart.Streaming.unsubscribeFromStream subscriberUID m) := by
  have hactive : activeAfter (events ++ [.unsubscribeFromStream subscriberUID]) =
      (activeAfter events).filter (·.2.id ≠ subscriberUID) := activeAfter_concat events _
  have huids : subscriberUIDs (events ++ [.unsubscribeFromStream subscriberUID]) =
      subscriberUIDs events ++ [] := subscriberUIDs_concat events _
  have hsingle : ∀ entry ∈ m, ∃ handler, entry.2.handlers = [handler] := fun entry hentry =>
    (h.single entry hentry).imp fun _ hhandler => hhandler.1
  have hsublist := unsubscribe_sublist subscriberUID hsingle
  have hremoved := unsubscribe_removes subscriberUID h.keys hsingle (by
    intro entry hentry other hother handler hhandler handler' hhandler' hid hid'
    obtain ⟨x, hx, hxmem⟩ := h.single entry hentry
    obtain ⟨y, hy, hymem⟩ := h.single other hother
    rw [hhandler, List.cons.injEq] at hx
    rw [hhandler', List.cons.injEq] at hy
    have hsame := h.eq_of_id hxmem hymem (by rw [← hx.1, ← hy.1, hid, hid'])
    exact (Prod.mk.inj hsame).1)
  refine ⟨h.keys.sublist (hsublist.map _), ?_, ?_, ?_⟩
  · rw [hactive]
    exact h.ids.sublist (List.filter_sublist.map _)
  · intro x hx
    rw [hactive, List.mem_filter] at hx
    rw [huids, List.append_nil]
    exact h.known x hx.1
  · intro entry hentry
    obtain ⟨handler, hhandlers, hmem⟩ := h.single entry (hsublist.subset hentry)
    refine ⟨handler, hhandlers, ?_⟩
    rw [hactive, List.mem_filter]
    exact ⟨hmem, decide_eq_true (hremoved entry hentry handler hhandlers)⟩

theorem Served.trade {data : TradeData} {m' : ChannelMap K} {invocations : List (Invocation K)}
    (h : Served events m) (hrun : Chart.Streaming.handleTradeEvent m data = .ok (m', invocations)) :
    Served (events ++ [.handleTradeEvent data]) m' := by
  have hsame : Served (events ++ [.handleTradeEvent data]) m :=
    h.of_active (activeAfter_concat events _) (subscriberUIDs_mono events _)
  unfold Chart.Streaming.handleTradeEvent at hrun
  split at hrun
  · cases hrun
    exact hsame
  · rename_i item hitem
    split at hrun
    · cases hrun
    · split at hrun
      · cases hrun
        exact hsame
      · cases hrun
        refine ⟨mapSet_keys_nodup hsame.keys, hsame.ids, hsame.known, fun entry hentry => ?_⟩
        rcases mem_mapSet hentry with rfl | hold
        · exact hsame.single (data.pair, item) (Keyed.mem_of_lookup hitem)
        · exact hsame.single entry hold

theorem Served.step (h : Served events m) {e : Event K}
    (hfresh : (subscriberUIDs (events ++ [e])).Nodup) :
    Served (events ++ [e]) (Chart.Streaming.step m e).1 := by
  cases e with
  | subscribeOnStream args =>
    have huids : subscriberUIDs (events ++ [.subscribeOnStream args]) =
        subscriberUIDs events ++ [args.subscriberUID] := subscriberUIDs_concat events _
    have hnew : args.subscriberUID ∉ subscriberUIDs events := by
      rw [huids, List.nodup_append] at hfresh
      exact fun hmem => hfresh.2.2 _ hmem _ (List.mem_singleton_self _) rfl
    simp only [Chart.Streaming.step]
    split
    · rename_i error hrun
      have hactive : activeAfter (events ++ [.subscribeOnStream args]) = activeAfter events := by
        rw [activeAfter_concat]
        unfold subscribeOnStream at hrun
        split at hrun
        · rename_i hnone
          simp only [activate, hnone]
        · cases hrun
      exact h.of_active hactive (subscriberUIDs_mono events _)
    · rename_i m' hrun
      exact h.subscribe hnew hrun
  | unsubscribeFromStream subscriberUID => exact h.unsubscribe subscriberUID
  | handleTradeEvent data =>
    simp only [Chart.Streaming.step]
    split
    · exact h.of_active (activeAfter_concat events _) (subscriberUIDs_mono events _)
    · rename_i m' invocations hrun
      exact h.trade hrun

theorem Served.activeOn_nodup (h : Served events m) (channel : String) :
    (activeOn events channel).Nodup := by
  have hids : ((activeOn events channel).map (·.id)).Nodup := by
    rw [activeOn, List.map_map]
    exact h.ids.sublist (List.filter_sublist.map _)
  exact hids.of_map _

theorem Served.handler_active (h : Served events m) {channel : String} {item : SubscriptionItem K}
    (hitem : m.lookup channel = some item) :
    ∃ served, item.handlers = [served] ∧ served ∈ activeOn events channel := by
  obtain ⟨served, hhandlers, hactive⟩ := h.single _ (Keyed.mem_of_lookup hitem)
  refine ⟨served, hhandlers, List.mem_map.mpr ⟨(channel, served), ?_, rfl⟩⟩
  exact List.mem_filter.mpr ⟨hactive, decide_eq_true rfl⟩

theorem length_le_one_iff {α : Type} {xs : List α} (hxs : xs.Nodup) {x : α} (hx : x ∈ xs) :
    xs.length ≤ 1 ↔ ∀ y ∈ xs, y = x := by
  constructor
  · intro hlength y hy
    obtain ⟨only, honly⟩ :=
      List.length_eq_one_iff.mp (le_antisymm hlength (List.length_pos_of_mem hx))
    rw [honly, List.mem_singleton] at hx hy
    rw [hx, hy]
  · intro h
    exact (List.subperm_of_subset hxs fun y hy => List.mem_singleton.mpr (h y hy)).length_le

theorem invokedOnce_iff (served handler : Handler K) (bar : StreamBar) :
    ([⟨served, bar⟩] : List (Invocation K)).filter (·.handler.id = handler.id) = [⟨handler, bar⟩] ↔
      handler = served := by
  constructor
  · intro h
    have hmem : (⟨handler, bar⟩ : Invocation K) ∈ [⟨served, bar⟩] := by
      have hself := List.mem_singleton_self (⟨handler, bar⟩ : Invocation K)
      rw [← h] at hself
      exact List.mem_of_mem_filter hself
    rw [List.mem_singleton, Invocation.mk.injEq] at hmem
    exact hmem.1
  · rintro rfl
    simp

theorem delivers_iff (h : Served events m) (hstate : stream.stateAfter events = m) (e : Event K) :
    Delivers events e ↔ Unshared events e := by
  cases e with
  | subscribeOnStream args => exact Iff.rfl
  | unsubscribeFromStream subscriberUID => exact Iff.rfl
  | handleTradeEvent data =>
    refine forall₂_congr fun bar hbar => ?_
    rw [hstate] at hbar
    obtain ⟨item, hitem, hrest⟩ := Option.bind_eq_some_iff.mp hbar
    obtain ⟨lastDailyBar, hlast, hnext⟩ := Option.bind_eq_some_iff.mp hrest
    obtain ⟨served, hhandlers, hactive⟩ := h.handler_active hitem
    have hrun : Chart.Streaming.handleTradeEvent m data =
        .ok (mapSet m data.pair { item with lastDailyBar := some bar }, [⟨served, bar⟩]) := by
      simp [Chart.Streaming.handleTradeEvent, hitem, hlast, hnext, hhandlers]
    have hout : stream.output events (.handleTradeEvent data) = .ok [⟨served, bar⟩] := by
      rw [Machine.output, hstate]
      simp [stream, Chart.Streaming.step, hrun]
    rw [length_le_one_iff (h.activeOn_nodup data.pair) hactive, hout]
    constructor
    · rintro ⟨invocations, hinvocations, hall⟩
      rw [Except.ok.injEq] at hinvocations
      subst hinvocations
      exact fun handler hhandler => (invokedOnce_iff served handler bar).mp (hall handler hhandler)
    · intro hall
      exact ⟨_, rfl, fun handler hhandler =>
        (invokedOnce_iff served handler bar).mpr (hall handler hhandler)⟩

end Invariant

theorem stream_delivers_iff {K : Type} {events : List (Event K)}
    (hdistinct : (subscriberUIDs events).Nodup) :
    Machine.Always Delivers events ↔ Machine.Always Unshared events := by
  have hserved : ∀ before, before <+: events → Served before (stream.stateAfter before) :=
    Machine.invariant served_start fun before e m hbefore h =>
      h.step (hdistinct.sublist (hbefore.sublist.filterMap _))
  refine Machine.always_congr fun before e hbefore => ?_
  have hprefix : before <+: events := (List.prefix_append before [e]).trans hbefore
  exact delivers_iff (hserved before hprefix) rfl e

def barAt (minute : ℚ) : StreamBar :=
  ⟨.finite (60000 * minute), .finite 1, .finite 1, .finite 1, .finite 1, .finite 1⟩

def subscribing (uid : String) : Event Unit :=
  .subscribeOnStream ⟨"OraiDEX:ORAI/USDT", "5", (), uid, some (barAt 5)⟩

def tradeAt (minute : ℚ) : TradeData :=
  ⟨.finite 1, .finite 1, .finite 1, .finite 1, .finite 0, .finite (60000 * minute), "ORAI/USDT"⟩

def madeBar : StreamBar :=
  ⟨.finite 600000, .finite 1, .finite 1, .finite 1, .finite 1, .finite 0⟩

theorem first_subscriber_lost :
    (subscriberUIDs [subscribing "first", subscribing "second", .handleTradeEvent (tradeAt 10)]).Nodup ∧
      activeOn [subscribing "first", subscribing "second"] "ORAI/USDT" =
        [⟨"first", ()⟩, ⟨"second", ()⟩] ∧
      stream.output [subscribing "first", subscribing "second"] (.handleTradeEvent (tradeAt 10)) =
        .ok [⟨⟨"second", ()⟩, madeBar⟩] ∧
      ¬ Machine.Always Delivers
        [subscribing "first", subscribing "second", .handleTradeEvent (tradeAt 10)] := by
  have hbar : producedBar
      (stream.stateAfter [subscribing "first", subscribing "second"]) (tradeAt 10) =
        some madeBar := by decide +kernel
  have hout : stream.output [subscribing "first", subscribing "second"]
      (.handleTradeEvent (tradeAt 10)) = .ok [⟨⟨"second", ()⟩, madeBar⟩] := by decide +kernel
  have hactive : activeOn [subscribing "first", subscribing "second"] (tradeAt 10).pair =
      [⟨"first", ()⟩, ⟨"second", ()⟩] := by decide +kernel
  refine ⟨by decide, hactive, hout, fun h => ?_⟩
  have hdelivers : Delivers [subscribing "first", subscribing "second"]
      (.handleTradeEvent (tradeAt 10)) := h _ _ (List.prefix_refl _)
  obtain ⟨invocations, hinvocations, hall⟩ := hdelivers madeBar hbar
  rw [hout, Except.ok.injEq] at hinvocations
  have hfirst := hall ⟨"first", ()⟩ (by rw [hactive]; exact List.mem_cons_self)
  rw [← hinvocations] at hfirst
  exact absurd hfirst (by decide)

theorem only_subscriber_served :
    Machine.Always Delivers [subscribing "only", .handleTradeEvent (tradeAt 10)] := by
  refine (stream_delivers_iff (by decide)).mpr ?_
  have hsubscribed : Machine.Always Unshared ([] ++ [subscribing "only"]) :=
    Machine.always_concat.mpr ⟨Machine.always_nil, trivial⟩
  have htrade : Unshared [subscribing "only"] (.handleTradeEvent (tradeAt 10)) := by
    intro _ _
    decide +kernel
  exact Machine.always_concat.mpr ⟨hsubscribed, htrade⟩

end OraidexSdk.Chart.Streaming
