import OraidexSdk.Chart.Provider

namespace OraidexSdk.Chart.Provider

namespace Providers

def record (s : Providers) : BarsInfo := s.barsInfos initialHistoryBarsInfo

def barsInfoOf (s : Providers) (i : Nat) : Option BarsInfo :=
  s.instances[i]?.map fun provider => s.barsInfos provider.barsInfo

end Providers

def calledOn (s : Providers) : Event → Option Nat
  | .construct => none
  | .getTokenHistoryBars i _ => some i
  | .settle k _ _ => s.pending[k]?.map (·.provider)
  | .getLastBar i _ => some i
  | .getLiveBar i _ => some i

def failingCall (s : Providers) : Event → Option PendingCall
  | .settle k response _ => if getTokenChartPrice response = none then s.pending[k]? else none
  | _ => none

structure Isolated (before : List Event) (e : Event) : Prop where
  frame : ∀ i < (providers.stateAfter before).instances.length,
    calledOn (providers.stateAfter before) e ≠ some i →
      (providers.stateAfter (before ++ [e])).barsInfoOf i =
        (providers.stateAfter before).barsInfoOf i
  constructed : e = .construct →
    (providers.stateAfter (before ++ [e])).barsInfoOf
      (providers.stateAfter before).instances.length = some emptyBarsInfo
  reset : ∀ p, failingCall (providers.stateAfter before) e = some p →
    (providers.stateAfter (before ++ [e])).barsInfoOf p.provider = some emptyBarsInfo
  ownBars : ∀ p, failingCall (providers.stateAfter before) e = some p →
    ∀ bars, providers.output before e = some bars → bars ≠ [] →
      ((providers.stateAfter (before ++ [e])).barsInfos p.barsInfo).ticker = p.call.ticker ∧
        ((providers.stateAfter (before ++ [e])).barsInfos p.barsInfo).period = p.call.period

def StoresApart (s : Providers) (p : PendingCall) : Option (List Bar) → Prop
  | none => s.record = emptyBarsInfo
  | some bars => s.instances.length ≤ 1 ∨ s.record = fetchedBarsInfo p.call bars

-- A provider is made, and a call fails, only while nothing has been stored; a store finds no
-- other provider, or finds the record as it leaves it.
def Apart (before : List Event) : Event → Prop
  | .construct => (providers.stateAfter before).record = emptyBarsInfo
  | .settle k response _ => ∀ p, (providers.stateAfter before).pending[k]? = some p →
      StoresApart (providers.stateAfter before) p (getTokenChartPrice response)
  | _ => True

section Sharing

structure Shared (s : Providers) : Prop where
  instances : ∀ provider ∈ s.instances, provider.barsInfo = initialHistoryBarsInfo
  pending : ∀ p ∈ s.pending, p.barsInfo = initialHistoryBarsInfo ∧ p.provider < s.instances.length

variable {s : Providers} {provider : TVDataProvider}

theorem Shared.barsInfoOf (h : Shared s) {i : Nat} (hi : i < s.instances.length) :
    s.barsInfoOf i = some s.record := by
  rw [Providers.barsInfoOf, List.getElem?_eq_getElem hi, Option.map_some,
    h.instances _ (List.getElem_mem hi), Providers.record]

theorem Shared.construct (h : Shared s) : Shared s.construct where
  instances := by
    intro provider hprovider
    rcases List.mem_append.mp hprovider with hold | hnew
    · exact h.instances provider hold
    · rw [List.mem_singleton.mp hnew]
  pending := by
    intro p hp
    obtain ⟨hbarsInfo, hlt⟩ := h.pending p hp
    exact ⟨hbarsInfo, by simpa [Providers.construct] using hlt.trans (Nat.lt_succ_self _)⟩

theorem Shared.set (h : Shared s) {i : Nat} {provider : TVDataProvider}
    (hprovider : provider.barsInfo = initialHistoryBarsInfo) {pending : List PendingCall}
    (hpending : pending ⊆ s.pending) (barsInfos : BarsInfoRef → BarsInfo) :
    Shared ⟨barsInfos, s.instances.set i provider, pending⟩ where
  instances := by
    intro other hother
    rcases List.mem_or_eq_of_mem_set hother with hold | rfl
    · exact h.instances other hold
    · exact hprovider
  pending := by
    intro p hp
    obtain ⟨hbarsInfo, hlt⟩ := h.pending p (hpending hp)
    exact ⟨hbarsInfo, by simpa using hlt⟩

theorem Shared.getTokenHistoryBars (h : Shared s) (i : Nat) (call : HistoryCall) :
    Shared (s.getTokenHistoryBars i call).1 := by
  unfold Providers.getTokenHistoryBars
  split
  case h_1 => exact h
  case h_2 provider hprovider =>
    split
    · refine ⟨h.instances, fun p hp => ?_⟩
      rcases List.mem_append.mp hp with hold | hnew
      · exact h.pending p hold
      · rw [List.mem_singleton.mp hnew]
        exact ⟨h.instances provider (List.mem_of_getElem? hprovider),
          (List.getElem?_eq_some_iff.mp hprovider).1⟩
    · exact h

theorem Shared.settle_eq (h : Shared s) {k : Nat} {p : PendingCall} (hp : s.pending[k]? = some p)
    (response : CandlesResponse) (now : Nat) :
    ∃ provider ∈ s.instances, s.settle k response now =
      (Providers.receive { s with pending := s.pending.eraseIdx k } p provider response now,
        some (selectBars p.call.periodParams
          ((Providers.receive { s with pending := s.pending.eraseIdx k } p provider response
            now).record).data)) := by
  obtain ⟨hbarsInfo, hlt⟩ := h.pending p (List.mem_of_getElem? hp)
  refine ⟨s.instances[p.provider], List.getElem_mem hlt, ?_⟩
  simp only [Providers.settle, hp, List.getElem?_eq_getElem hlt, hbarsInfo, Providers.record]

theorem Shared.receive (h : Shared s) {p : PendingCall} {provider : TVDataProvider}
    (hprovider : provider ∈ s.instances) (k : Nat) (response : CandlesResponse) (now : Nat) :
    Shared (Providers.receive { s with pending := s.pending.eraseIdx k } p provider response now) := by
  unfold Providers.receive
  split
  · exact h.set rfl (fun _ => List.mem_of_mem_eraseIdx) _
  · refine h.set ?_ (fun _ => List.mem_of_mem_eraseIdx) _
    exact h.instances provider hprovider

theorem Shared.settle (h : Shared s) (k : Nat) (response : CandlesResponse) (now : Nat) :
    Shared (s.settle k response now).1 := by
  cases hp : s.pending[k]? with
  | none => simpa [Providers.settle, hp] using h
  | some p =>
    obtain ⟨provider, hprovider, hsettle⟩ := h.settle_eq hp response now
    rw [hsettle]
    exact h.receive hprovider k response now

theorem Shared.receiveLastBar (h : Shared s) (i : Nat) (response : CandlesResponse)
    (format : Bar → Bar) : Shared (receiveLastBar s i response format) := by
  unfold Provider.receiveLastBar
  split
  · exact h
  · refine ⟨fun provider hprovider => ?_, fun p hp => ?_⟩
    · obtain ⟨j, hj, rfl⟩ := List.mem_iff_getElem.mp hprovider
      simp only [Providers.setLastBar, List.getElem_modify]
      have hlt : j < s.instances.length := by simpa [Providers.setLastBar] using hj
      have hbarsInfo := h.instances s.instances[j] (List.getElem_mem hlt)
      split <;> exact hbarsInfo
    · simpa [Providers.setLastBar] using h.pending p hp

theorem Shared.step (h : Shared s) (e : Event) : Shared (step s e).1 := by
  cases e with
  | construct => exact h.construct
  | getTokenHistoryBars i call => exact h.getTokenHistoryBars i call
  | settle k response now => exact h.settle k response now
  | getLastBar i response => exact h.receiveLastBar i response id
  | getLiveBar i response => exact h.receiveLastBar i response formatTimeInBarToMs

theorem shared_stateAfter (events : List Event) : Shared (providers.stateAfter events) :=
  Machine.invariant (I := fun _ => Shared) ⟨by simp [providers], by simp [providers]⟩
    (fun _ e _ _ h => h.step e) events (List.prefix_refl events)

theorem getTokenHistoryBars_keeps (s : Providers) (i : Nat) (call : HistoryCall) :
    (s.getTokenHistoryBars i call).1.instances = s.instances ∧
      (s.getTokenHistoryBars i call).1.barsInfos = s.barsInfos := by
  unfold Providers.getTokenHistoryBars
  split
  · exact ⟨rfl, rfl⟩
  · split <;> exact ⟨rfl, rfl⟩

theorem receiveLastBar_keeps (s : Providers) (i : Nat) (response : CandlesResponse)
    (format : Bar → Bar) :
    (receiveLastBar s i response format).instances.length = s.instances.length ∧
      (receiveLastBar s i response format).barsInfos = s.barsInfos := by
  unfold receiveLastBar
  split
  · exact ⟨rfl, rfl⟩
  · exact ⟨by simp [Providers.setLastBar], rfl⟩

theorem length_receive (s : Providers) (p : PendingCall) (provider : TVDataProvider)
    (response : CandlesResponse) (now : Nat) :
    (s.receive p provider response now).instances.length = s.instances.length := by
  unfold Providers.receive
  split <;> simp

theorem length_settle (s : Providers) (k : Nat) (response : CandlesResponse) (now : Nat) :
    (s.settle k response now).1.instances.length = s.instances.length := by
  unfold Providers.settle
  split
  · rfl
  · split
    · rfl
    · exact length_receive _ _ _ response now

theorem length_le_step (s : Providers) (e : Event) :
    s.instances.length ≤ (step s e).1.instances.length := by
  cases e with
  | construct => simp [step, Providers.construct]
  | getTokenHistoryBars i call =>
    exact (congrArg List.length (getTokenHistoryBars_keeps s i call).1).ge
  | settle k response now => exact (length_settle s k response now).ge
  | getLastBar i response => exact (receiveLastBar_keeps s i response id).1.ge
  | getLiveBar i response => exact (receiveLastBar_keeps s i response formatTimeInBarToMs).1.ge

theorem record_receive (hprovider : provider.barsInfo = initialHistoryBarsInfo)
    (p : PendingCall) (response : CandlesResponse) (now : Nat) :
    (s.receive p provider response now).record =
      ((getTokenChartPrice response).map (fetchedBarsInfo p.call)).getD s.record := by
  unfold Providers.receive
  split
  case h_1 hresponse => simp [hresponse, Providers.record]
  case h_2 bars hresponse => simp [hresponse, Providers.record, hprovider]

@[simp] theorem selectBars_nil (periodParams : PeriodParams) : selectBars periodParams [] = [] := by
  simp [selectBars]

end Sharing

section Steps

variable {before : List Event}

theorem barsInfoOf_concat (e : Event) {i : Nat}
    (hi : i < (providers.stateAfter before).instances.length) :
    (providers.stateAfter (before ++ [e])).barsInfoOf i =
      some (providers.stateAfter (before ++ [e])).record := by
  refine (shared_stateAfter _).barsInfoOf (hi.trans_le ?_)
  rw [Machine.stateAfter_concat]
  exact length_le_step _ e

theorem isolated_of_quiet {e : Event}
    (hbarsInfos : (step (providers.stateAfter before) e).1.barsInfos =
      (providers.stateAfter before).barsInfos)
    (hconstruct : e ≠ .construct) (hfailing : failingCall (providers.stateAfter before) e = none) :
    Isolated before e where
  frame := by
    intro i hi _
    rw [barsInfoOf_concat e hi, (shared_stateAfter before).barsInfoOf hi,
      Machine.stateAfter_concat]
    exact congrArg some (congrFun hbarsInfos initialHistoryBarsInfo)
  constructed h := absurd h hconstruct
  reset p hp := by
    rw [hfailing] at hp
    cases hp
  ownBars p hp := by
    rw [hfailing] at hp
    cases hp

theorem isolated_construct_iff :
    Isolated before .construct ↔ (providers.stateAfter before).record = emptyBarsInfo := by
  have hnew : (providers.stateAfter (before ++ [.construct])).barsInfoOf
      (providers.stateAfter before).instances.length =
        some (providers.stateAfter before).record := by
    rw [(shared_stateAfter _).barsInfoOf]
    · rw [Machine.stateAfter_concat]
      rfl
    · rw [Machine.stateAfter_concat]
      simp [providers, step, Providers.construct]
  constructor
  · intro h
    exact Option.some.inj (hnew.symm.trans (h.constructed rfl))
  · intro h
    refine ⟨fun i hi _ => ?_, fun _ => hnew.trans (congrArg some h), ?_, ?_⟩
    · rw [barsInfoOf_concat _ hi, (shared_stateAfter before).barsInfoOf hi,
        Machine.stateAfter_concat]
      rfl
    · intro p hp
      cases hp
    · intro p hp
      cases hp

section Settle

variable {k : Nat} {response : CandlesResponse} {now : Nat} {p : PendingCall}
  (hp : (providers.stateAfter before).pending[k]? = some p)

include hp

theorem record_settle : (providers.stateAfter (before ++ [.settle k response now])).record =
    ((getTokenChartPrice response).map (fetchedBarsInfo p.call)).getD
      (providers.stateAfter before).record := by
  have hshared := shared_stateAfter before
  obtain ⟨provider, hprovider, hsettle⟩ := hshared.settle_eq hp response now
  rw [Machine.stateAfter_concat]
  change (Providers.settle _ k response now).1.record = _
  rw [hsettle]
  exact record_receive (hshared.instances provider hprovider) p response now

theorem output_settle : providers.output before (.settle k response now) =
    some (selectBars p.call.periodParams
      (providers.stateAfter (before ++ [.settle k response now])).record.data) := by
  obtain ⟨provider, -, hsettle⟩ := (shared_stateAfter before).settle_eq hp response now
  rw [Machine.stateAfter_concat]
  change (Providers.settle _ k response now).2 =
    some (selectBars _ (Providers.settle _ k response now).1.record.data)
  rw [hsettle]

theorem isolated_failing_iff (hresponse : getTokenChartPrice response = none) :
    Isolated before (.settle k response now) ↔
      (providers.stateAfter before).record = emptyBarsInfo := by
  have hlt := ((shared_stateAfter before).pending p (List.mem_of_getElem? hp)).2
  have hfailing : failingCall (providers.stateAfter before) (.settle k response now) = some p := by
    rw [failingCall, if_pos hresponse, hp]
  have hrecord : (providers.stateAfter (before ++ [.settle k response now])).record =
      (providers.stateAfter before).record := by
    rw [record_settle hp, hresponse, Option.map_none, Option.getD_none]
  constructor
  · intro h
    have hreset := h.reset p hfailing
    rw [barsInfoOf_concat _ hlt, hrecord] at hreset
    exact Option.some.inj hreset
  · intro h
    have hempty := hrecord.trans h
    refine ⟨fun i hi _ => ?_, nofun, ?_, ?_⟩
    · rw [barsInfoOf_concat _ hi, (shared_stateAfter before).barsInfoOf hi, hrecord]
    · intro q hq
      rw [hfailing, Option.some.injEq] at hq
      rw [← hq, barsInfoOf_concat _ hlt, hempty]
    · intro q hq bars hbars hne
      rw [output_settle hp, hempty, emptyBarsInfo, selectBars_nil, Option.some.injEq] at hbars
      exact absurd hbars.symm hne

theorem isolated_store_iff {bars : List Bar} (hresponse : getTokenChartPrice response = some bars) :
    Isolated before (.settle k response now) ↔
      (providers.stateAfter before).instances.length ≤ 1 ∨
        (providers.stateAfter before).record = fetchedBarsInfo p.call bars := by
  have hlt := ((shared_stateAfter before).pending p (List.mem_of_getElem? hp)).2
  have hfailing : failingCall (providers.stateAfter before) (.settle k response now) = none := by
    rw [failingCall, if_neg (by simp [hresponse])]
  have hcalled : calledOn (providers.stateAfter before) (.settle k response now) =
      some p.provider := by
    rw [calledOn, hp, Option.map_some]
  have hrecord : (providers.stateAfter (before ++ [.settle k response now])).record =
      fetchedBarsInfo p.call bars := by
    rw [record_settle hp, hresponse, Option.map_some, Option.getD_some]
  constructor
  · intro h
    rcases le_or_gt (providers.stateAfter before).instances.length 1 with hone | hmany
    · exact .inl hone
    · obtain ⟨i, hi, hne⟩ : ∃ i < (providers.stateAfter before).instances.length,
          i ≠ p.provider := by
        rcases Nat.eq_zero_or_pos p.provider with hzero | hpos
        · exact ⟨1, hmany, by omega⟩
        · exact ⟨0, by omega, by omega⟩
      have hframe := h.frame i hi (by simpa [hcalled] using hne.symm)
      rw [barsInfoOf_concat _ hi, (shared_stateAfter before).barsInfoOf hi, hrecord,
        Option.some.injEq] at hframe
      exact .inr hframe.symm
  · intro h
    refine ⟨fun i hi hother => ?_, nofun, ?_, ?_⟩
    · rw [barsInfoOf_concat _ hi, (shared_stateAfter before).barsInfoOf hi, hrecord]
      rw [hcalled, ne_eq, Option.some.injEq] at hother
      rcases h with hone | hsame
      · omega
      · rw [hsame]
    · intro q hq
      rw [hfailing] at hq
      cases hq
    · intro q hq
      rw [hfailing] at hq
      cases hq

theorem isolated_settle_iff : Isolated before (.settle k response now) ↔
    StoresApart (providers.stateAfter before) p (getTokenChartPrice response) := by
  cases hresponse : getTokenChartPrice response with
  | none => exact isolated_failing_iff hp hresponse
  | some bars => exact isolated_store_iff hp hresponse

end Settle

theorem isolated_iff_apart (before : List Event) (e : Event) :
    Isolated before e ↔ Apart before e := by
  cases e with
  | construct => exact isolated_construct_iff
  | getTokenHistoryBars i call =>
    exact iff_of_true (isolated_of_quiet (getTokenHistoryBars_keeps _ i call).2 nofun rfl) trivial
  | settle k response now =>
    cases hp : (providers.stateAfter before).pending[k]? with
    | none =>
      refine iff_of_true (isolated_of_quiet ?_ nofun ?_) fun p hp' => ?_
      · simp [step, Providers.settle, hp]
      · simp [failingCall, hp]
      · rw [hp] at hp'
        cases hp'
    | some p =>
      rw [isolated_settle_iff hp]
      constructor
      · intro h q hq
        rw [hp, Option.some.injEq] at hq
        exact hq ▸ h
      · exact fun h => h p hp
  | getLastBar i response =>
    exact iff_of_true (isolated_of_quiet (receiveLastBar_keeps _ i response id).2 nofun rfl) trivial
  | getLiveBar i response =>
    exact iff_of_true
      (isolated_of_quiet (receiveLastBar_keeps _ i response formatTimeInBarToMs).2 nofun rfl) trivial

end Steps

theorem providers_isolated_iff (events : List Event) :
    Machine.Always Isolated events ↔ Machine.Always Apart events :=
  Machine.always_congr fun before e _ => isolated_iff_apart before e

def minuteBar (time : ℚ) : Bar := ⟨time, 5, 5, 6, 4, some 1000000⟩

def firstHour : HistoryCall := ⟨"orai/usdt", "ORAI/USDT", ⟨0, 3600, 60⟩, false, "1"⟩

theorem other_provider_overwritten :
    (providers.stateAfter [.construct, .construct, .getTokenHistoryBars 0 firstHour]).barsInfoOf 1 =
        some emptyBarsInfo ∧
      (providers.stateAfter [.construct, .construct, .getTokenHistoryBars 0 firstHour,
          .settle 0 (.resolved (some [minuteBar 60])) 0]).barsInfoOf 1 =
        some ⟨some "1m", [minuteBar 60], "ORAI/USDT"⟩ ∧
      ¬ Machine.Always Isolated [.construct, .construct, .getTokenHistoryBars 0 firstHour,
        .settle 0 (.resolved (some [minuteBar 60])) 0] := by
  have hbefore : (providers.stateAfter
      [.construct, .construct, .getTokenHistoryBars 0 firstHour]).barsInfoOf 1 =
        some emptyBarsInfo := by decide +kernel
  have hafter : (providers.stateAfter [.construct, .construct, .getTokenHistoryBars 0 firstHour,
      .settle 0 (.resolved (some [minuteBar 60])) 0]).barsInfoOf 1 =
        some ⟨some "1m", [minuteBar 60], "ORAI/USDT"⟩ := by decide +kernel
  refine ⟨hbefore, hafter, fun h => ?_⟩
  have hisolated : Isolated [.construct, .construct, .getTokenHistoryBars 0 firstHour]
      (.settle 0 (.resolved (some [minuteBar 60])) 0) := h _ _ (List.prefix_refl _)
  have hframe := hisolated.frame 1 (by decide +kernel) (by decide +kernel)
  rw [hbefore, List.cons_append, List.cons_append, List.cons_append, List.nil_append, hafter] at hframe
  exact absurd hframe (by decide)

end OraidexSdk.Chart.Provider
