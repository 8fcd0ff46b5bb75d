import OraidexSdk.Chart.Isolation
import OraidexSdk.Ordered.Keyed
import Mathlib.Algebra.Order.Floor.Ring

namespace OraidexSdk.Chart.History
open Provider Keyed

structure CandleTable where
  candles : List Bar
  ascending : Ascending Bar.time candles

abbrev Market := String → String → CandleTable

def requested (periodParams : PeriodParams) (bar : Bar) : Bool :=
  periodParams.from_ ≤ bar.time ∧ bar.time ≤ periodParams.to_

def within (start stop : ℚ) (bar : Bar) : Bool := start < bar.time ∧ bar.time ≤ stop

structure TimedCall where
  call : HistoryCall
  now : Nat

section Runs

variable (market : Market)

def tableOf (call : HistoryCall) : List Bar := (market call.pair call.resolution).candles

def servedCandles (call : HistoryCall) : List Bar :=
  (tableOf market call).filter (requested call.periodParams)

def filledBars (call : HistoryCall) : List Bar :=
  fillBarGaps (chartPeriod call.period) (servedCandles market call)

def answer (s : Providers) (e : TimedCall) : Providers × Option (List Bar) :=
  match s.getTokenHistoryBars 0 e.call with
  | (s', some bars) => (s', some bars)
  | (s', none) => s'.settle 0 (.resolved (some (servedCandles market e.call))) e.now

def history : Machine Providers TimedCall (Option (List Bar)) :=
  ⟨providers.stateAfter [.construct], answer market⟩

-- The answer of a fresh provider: the last bars of the requested window.
def Transparent (before : List TimedCall) (e : TimedCall) : Prop :=
  (history market).output before e = (history market).output [] e ∧
    (history market).output [] e = some (selectBars e.call.periodParams (filledBars market e.call))

def reuses (fetched call : HistoryCall) : Bool :=
  !mustFetch (fetchedBarsInfo fetched (servedCandles market fetched)) call

-- The call whose candles are in the cache once the next call has been answered.
def nextFetch : Option HistoryCall → HistoryCall → HistoryCall
  | none, call => call
  | some fetched, call => if reuses market fetched call then fetched else call

def lastFetch (calls : List TimedCall) : Option HistoryCall :=
  calls.foldl (fun last e => some (nextFetch market last e.call)) none

-- From start on, the fetched range has the candles and the filled gaps of the requested one,
-- and no bar before start is asked for.
structure ServesFrom (start : ℚ) (fetched call : HistoryCall) : Prop where
  pair : fetched.pair = call.pair
  resolution : fetched.resolution = call.resolution
  start_le : call.periodParams.from_ ≤ start
  enough : start = call.periodParams.from_ ∨ call.periodParams.countBack ≤
    ((filledBars market call).filter (within start call.periodParams.to_)).length
  candles : ∀ candle ∈ tableOf market call, within start call.periodParams.to_ candle →
    requested fetched.periodParams candle
  fillers : ∀ gap ∈ gaps (tableOf market call),
    ∀ bar ∈ fillers (chartPeriod call.period) gap.1.time gap.2,
      within start call.periodParams.to_ bar →
        ((requested call.periodParams gap.1 ∧ requested call.periodParams gap.2) ↔
          (requested fetched.periodParams gap.1 ∧ requested fetched.periodParams gap.2))

def Covered (before : List TimedCall) (e : TimedCall) : Prop :=
  ∀ fetched, lastFetch market before = some fetched → reuses market fetched e.call →
    ∃ start, ServesFrom market start fetched e.call

end Runs

section Filling

variable {periodSeconds : Option Nat} {bar : Bar} {bars : List Bar}

theorem mem_fillFrom_iff {previous : Bar} :
    bar ∈ fillFrom periodSeconds previous.time bars ↔ bar ∈ bars ∨
      ∃ gap ∈ gaps (previous :: bars), bar ∈ fillers periodSeconds gap.1.time gap.2 := by
  induction bars generalizing previous with
  | nil => simp [fillFrom]
  | cons next rest ih =>
    simp only [fillFrom, List.mem_append, List.mem_cons, ih, gaps_cons_cons,
      exists_eq_or_imp]
    tauto

theorem mem_fillBarGaps_iff :
    bar ∈ fillBarGaps periodSeconds bars ↔ bar ∈ bars ∨
      ∃ gap ∈ gaps bars, bar ∈ fillers periodSeconds gap.1.time gap.2 := by
  cases bars with
  | nil => simp [fillBarGaps]
  | cons first rest =>
    rw [fillBarGaps, List.mem_cons, mem_fillFrom_iff, List.mem_cons, or_assoc]

theorem filler_time (next : Bar) (seconds i : Nat) :
    (filler next seconds i).time = next.time - i * seconds := rfl

theorem mem_fillers {previous : ℚ} {next : Bar} (h : bar ∈ fillers periodSeconds previous next) :
    previous < bar.time ∧ bar.time < next.time := by
  unfold fillers at h
  split at h
  case h_1 => cases h
  case h_2 seconds =>
    split at h
    · cases h
    · obtain ⟨i, hi, rfl⟩ := List.mem_map.mp h
      rw [List.mem_reverse, List.mem_range] at hi
      have hfloor : ((i + 2 : Nat) : Int) ≤ ⌊(next.time - previous) / seconds⌋ := by omega
      have hseconds : 0 < seconds := by
        refine Nat.pos_of_ne_zero fun hzero => ?_
        rw [hzero, Nat.cast_zero, div_zero, Int.floor_zero] at hfloor
        omega
      have hpos : (0 : ℚ) < seconds := Nat.cast_pos.mpr hseconds
      have hroom := Int.le_floor.mp hfloor
      rw [Int.cast_natCast, le_div_iff₀ hpos] at hroom
      push_cast at hroom
      rw [filler_time]
      push_cast
      constructor
      · linarith
      · have hi : (0 : ℚ) ≤ i := Nat.cast_nonneg i
        nlinarith

theorem ascending_fillers {previous : ℚ} {next : Bar} :
    Ascending Bar.time (fillers periodSeconds previous next) := by
  unfold fillers
  split
  case h_1 => exact .nil
  case h_2 seconds =>
    split
    · exact .nil
    · rcases Nat.eq_zero_or_pos seconds with rfl | hseconds
      · simp
      · rw [Ascending, List.pairwise_map, List.pairwise_reverse]
        refine List.pairwise_lt_range.imp fun {i j} hij => ?_
        have hpos : (0 : ℚ) < seconds := Nat.cast_pos.mpr hseconds
        have hcast : (i : ℚ) < j := Nat.cast_lt.mpr hij
        rw [filler_time, filler_time]
        push_cast
        nlinarith

theorem ascending_fillFrom {previous : ℚ} (hprevious : ∀ bar ∈ bars, previous < bar.time)
    (hbars : Ascending Bar.time bars) :
    Ascending Bar.time (fillFrom periodSeconds previous bars) ∧
      ∀ bar ∈ fillFrom periodSeconds previous bars, previous < bar.time := by
  induction bars generalizing previous with
  | nil => exact ⟨.nil, nofun⟩
  | cons next rest ih =>
    obtain ⟨hnext, hrest⟩ := List.pairwise_cons.mp hbars
    obtain ⟨hfill, hafter⟩ := ih hnext hrest
    have hfirst := hprevious next List.mem_cons_self
    rw [fillFrom]
    constructor
    · refine List.pairwise_append.mpr
        ⟨ascending_fillers, List.pairwise_cons.mpr ⟨hafter, hfill⟩, fun inserted hinserted => ?_⟩
      have hbefore := (mem_fillers hinserted).2
      intro bar hbar
      rcases List.mem_cons.mp hbar with rfl | hlater
      · exact hbefore
      · exact hbefore.trans (hafter bar hlater)
    · intro bar hbar
      rcases List.mem_append.mp hbar with hinserted | hkept
      · exact (mem_fillers hinserted).1
      · rcases List.mem_cons.mp hkept with rfl | hlater
        · exact hfirst
        · exact hfirst.trans (hafter bar hlater)

theorem ascending_fillBarGaps (hbars : Ascending Bar.time bars) :
    Ascending Bar.time (fillBarGaps periodSeconds bars) := by
  cases bars with
  | nil => exact .nil
  | cons first rest =>
    obtain ⟨hfirst, hrest⟩ := List.pairwise_cons.mp hbars
    obtain ⟨hfill, hafter⟩ := ascending_fillFrom hfirst hrest
    exact List.pairwise_cons.mpr ⟨hafter, hfill⟩

end Filling

section Selection

variable {periodParams : PeriodParams}

theorem within_eq (start : ℚ) (data : List Bar) (hstart : periodParams.from_ ≤ start) :
    data.filter (within start periodParams.to_) =
      (data.filter (within periodParams.from_ periodParams.to_)).filter (start < ·.time) := by
  rw [List.filter_filter]
  refine List.filter_congr fun bar _ => ?_
  rw [Bool.eq_iff_iff]
  simp only [within, decide_eq_true_eq, Bool.and_eq_true]
  exact ⟨fun h => ⟨h.1, hstart.trans_lt h.1, h.2⟩, fun h => ⟨h.1, h.2.2⟩⟩

theorem selectBars_eq (data : List Bar) :
    selectBars periodParams data =
      (data.filter (within periodParams.from_ periodParams.to_)).rtake
        periodParams.countBack.toNat := by
  have hwindow : (data.filter fun bar =>
      decide (periodParams.from_ < bar.time ∧ bar.time ≤ periodParams.to_)) =
        data.filter (within periodParams.from_ periodParams.to_) := rfl
  simp only [selectBars, hwindow]
  generalize data.filter (within periodParams.from_ periodParams.to_) = bars
  split
  case isTrue h => simp [h]
  case isFalse h =>
    split
    case isTrue hfew =>
      have hlength : bars.length - periodParams.countBack.toNat = 0 := by omega
      rw [List.rtake, hlength, List.drop_zero]
    case isFalse hmany =>
      rcases le_or_gt periodParams.countBack 0 with hnone | hsome
      · have hdrop : bars.length ≤ (bars.length - periodParams.countBack).toNat := by omega
        rw [List.drop_eq_nil_of_le hdrop, Int.toNat_of_nonpos hnone, List.rtake_zero]
      · congr 1
        omega

theorem selectBars_congr {xs ys : List Bar} (hxs : Ascending Bar.time xs)
    (hys : Ascending Bar.time ys) {start : ℚ} (hstart : periodParams.from_ ≤ start)
    (hsame : ∀ bar, within start periodParams.to_ bar → (bar ∈ xs ↔ bar ∈ ys))
    (henough : start = periodParams.from_ ∨
      periodParams.countBack ≤ (ys.filter (within start periodParams.to_)).length) :
    selectBars periodParams xs = selectBars periodParams ys := by
  have hwindow : xs.filter (within start periodParams.to_) =
      ys.filter (within start periodParams.to_) := by
    refine Ascending.eq_of_mem_iff (hxs.filter _) (hys.filter _) fun bar => ?_
    rw [List.mem_filter, List.mem_filter]
    exact and_congr_left (hsame bar)
  rw [selectBars_eq, selectBars_eq]
  rcases henough with rfl | hcount
  · rw [hwindow]
  · have hlast {zs : List Bar} (hzs : Ascending Bar.time zs)
        (hzcount : periodParams.countBack ≤ (zs.filter (within start periodParams.to_)).length) :
        (zs.filter (within periodParams.from_ periodParams.to_)).rtake periodParams.countBack.toNat =
          (zs.filter (within start periodParams.to_)).rtake periodParams.countBack.toNat := by
      refine rtake_of_suffix ?_ (Int.toNat_le.mpr hzcount)
      rw [within_eq start zs hstart]
      refine Ascending.filter_suffix (fun a b hab ha => ?_) (hzs.filter _)
      rw [decide_eq_true_eq] at ha ⊢
      exact ha.trans hab
    rw [hlast hxs (hwindow ▸ hcount), hlast hys hcount, hwindow]

end Selection

section Cache

variable {market : Market} {last : Option HistoryCall} {s : Providers}

def cachedBarsInfo (market : Market) : Option HistoryCall → BarsInfo
  | none => emptyBarsInfo
  | some fetched => fetchedBarsInfo fetched (servedCandles market fetched)

-- The record is what the last fetching call left, whatever was asked for since.
structure Caches (market : Market) (last : Option HistoryCall) (s : Providers) : Prop where
  record : s.record = cachedBarsInfo market last
  instances : ∃ lastBar, s.instances = [⟨lastBar, initialHistoryBarsInfo⟩]
  pending : s.pending = []

theorem Caches.answer_hit (h : Caches market last s) {e : TimedCall}
    (hhit : mustFetch s.record e.call = false) :
    answer market s e = (s, some (selectBars e.call.periodParams s.record.data)) := by
  obtain ⟨lastBar, hinstances⟩ := h.instances
  have hget : s.getTokenHistoryBars 0 e.call =
      (s, some (selectBars e.call.periodParams s.record.data)) := by
    simp only [Providers.getTokenHistoryBars, hinstances, List.getElem?_cons_zero]
    exact if_neg (by simpa [Providers.record] using hhit)
  rw [answer, hget]

theorem Caches.answer_fetch (h : Caches market last s) {e : TimedCall}
    (hfetch : mustFetch s.record e.call = true) :
    Caches market (some e.call) (answer market s e).1 ∧
      (answer market s e).2 = some (selectBars e.call.periodParams (filledBars market e.call)) := by
  obtain ⟨lastBar, hinstances⟩ := h.instances
  have hget : s.getTokenHistoryBars 0 e.call =
      ({ s with pending := [⟨0, e.call, initialHistoryBarsInfo⟩] }, none) := by
    simp only [Providers.getTokenHistoryBars, hinstances, List.getElem?_cons_zero, h.pending]
    exact if_pos (by simpa [Providers.record] using hfetch)
  have hanswer : answer market s e = Providers.settle
      { s with pending := [⟨0, e.call, initialHistoryBarsInfo⟩] } 0
      (.resolved (some (servedCandles market e.call))) e.now := by
    rw [answer, hget]
  have hrecord : (answer market s e).1.record = cachedBarsInfo market (some e.call) := by
    rw [hanswer]
    simp [Providers.settle, hinstances, Providers.receive, getTokenChartPrice, Providers.record,
      cachedBarsInfo]
  refine ⟨⟨hrecord, ?_, ?_⟩, ?_⟩
  · rw [hanswer]
    simp [Providers.settle, hinstances, Providers.receive, getTokenChartPrice]
  · rw [hanswer]
    simp [Providers.settle, hinstances, Providers.receive, getTokenChartPrice]
  · have hdata : (answer market s e).2 =
        some (selectBars e.call.periodParams (answer market s e).1.record.data) := by
      rw [hanswer]
      simp [Providers.settle, hinstances, Providers.receive, getTokenChartPrice, Providers.record]
    rw [hdata, hrecord]
    rfl

theorem mustFetch_record (h : Caches market last s) (call : HistoryCall) :
    mustFetch s.record call = true ∧ nextFetch market last call = call ∨
      mustFetch s.record call = false ∧
        ∃ fetched, last = some fetched ∧ reuses market fetched call ∧
          nextFetch market last call = fetched := by
  rw [h.record]
  cases last with
  | none => exact .inl ⟨by simp [cachedBarsInfo, emptyBarsInfo, mustFetch], rfl⟩
  | some fetched =>
    cases hfetch : mustFetch (fetchedBarsInfo fetched (servedCandles market fetched)) call with
    | true => exact .inl ⟨hfetch, by simp [nextFetch, reuses, hfetch]⟩
    | false => exact .inr ⟨hfetch, fetched, rfl, by simp [reuses, hfetch],
        by simp [nextFetch, reuses, hfetch]⟩

theorem Caches.answer (h : Caches market last s) (e : TimedCall) :
    Caches market (some (nextFetch market last e.call)) (answer market s e).1 ∧
      (answer market s e).2 = some (selectBars e.call.periodParams
        (filledBars market (nextFetch market last e.call))) := by
  rcases mustFetch_record h e.call with ⟨hfetch, hnext⟩ | ⟨hhit, fetched, rfl, -, hnext⟩
  · rw [hnext]
    exact h.answer_fetch hfetch
  · rw [hnext, h.answer_hit hhit]
    exact ⟨h, by rw [h.record]; rfl⟩

theorem caches_stateAfter (market : Market) (calls : List TimedCall) :
    Caches market (lastFetch market calls) ((history market).stateAfter calls) := by
  refine Machine.invariant (I := fun before => Caches market (lastFetch market before))
    ⟨rfl, ⟨none, rfl⟩, rfl⟩ (fun before e s _ h => ?_) calls (List.prefix_refl calls)
  have hlast : lastFetch market (before ++ [e]) =
      some (nextFetch market (lastFetch market before) e.call) := by
    simp [lastFetch]
  rw [hlast]
  exact (h.answer e).1

theorem output_history (before : List TimedCall) (e : TimedCall) :
    (history market).output before e = some (selectBars e.call.periodParams
      (filledBars market (nextFetch market (lastFetch market before) e.call))) :=
  ((caches_stateAfter market before).answer e).2

end Cache

section Transparency

variable {market : Market}

theorem convex_requested (periodParams : PeriodParams) : Convex Bar.time (requested periodParams) := by
  intro a b c hab hbc ha hc
  simp only [requested, decide_eq_true_eq] at ha hc ⊢
  exact ⟨ha.1.trans hab.le, hbc.le.trans hc.2⟩

theorem ascending_filledBars (call : HistoryCall) : Ascending Bar.time (filledBars market call) :=
  ascending_fillBarGaps ((market call.pair call.resolution).ascending.filter _)

theorem mem_filledBars_iff {call : HistoryCall} {bar : Bar} :
    bar ∈ filledBars market call ↔
      (bar ∈ tableOf market call ∧ requested call.periodParams bar) ∨
        ∃ gap ∈ gaps (tableOf market call),
          (requested call.periodParams gap.1 ∧ requested call.periodParams gap.2) ∧
            bar ∈ fillers (chartPeriod call.period) gap.1.time gap.2 := by
  have hgaps : gaps (servedCandles market call) = (gaps (tableOf market call)).filter
      fun gap => requested call.periodParams gap.1 && requested call.periodParams gap.2 :=
    gaps_filter (convex_requested call.periodParams) (market call.pair call.resolution).ascending
  rw [filledBars, mem_fillBarGaps_iff, hgaps, servedCandles, List.mem_filter]
  simp only [List.mem_filter, Bool.and_eq_true, and_assoc]

theorem ServesFrom.selectBars_eq {start : ℚ} {fetched call : HistoryCall}
    (h : ServesFrom market start fetched call) :
    selectBars call.periodParams (filledBars market fetched) =
      selectBars call.periodParams (filledBars market call) := by
  refine selectBars_congr (ascending_filledBars fetched) (ascending_filledBars call) h.start_le
    (fun bar hbar => ?_) h.enough
  have htable : tableOf market fetched = tableOf market call := by
    rw [tableOf, tableOf, h.pair, h.resolution]
  have hperiod : fetched.period = call.period := by
    rw [HistoryCall.period, HistoryCall.period, h.resolution]
  rw [mem_filledBars_iff, mem_filledBars_iff, htable, hperiod]
  refine or_congr (and_congr_right fun hcandle => ?_)
    (exists_congr fun gap => and_congr_right fun hgap => and_congr_left fun hfiller => ?_)
  · refine iff_of_true (h.candles bar hcandle hbar) ?_
    simp only [within, decide_eq_true_eq] at hbar
    exact decide_eq_true ⟨h.start_le.trans hbar.1.le, hbar.2⟩
  · exact (h.fillers gap hgap bar hfiller hbar).symm

theorem transparent_of_covered {before : List TimedCall} {e : TimedCall}
    (h : Covered market before e) : Transparent market before e := by
  have hfresh : (history market).output [] e =
      some (selectBars e.call.periodParams (filledBars market e.call)) := output_history [] e
  refine ⟨?_, hfresh⟩
  rw [hfresh, output_history]
  rcases mustFetch_record (caches_stateAfter market before) e.call with
    ⟨-, hnext⟩ | ⟨-, fetched, hlast, hreuses, hnext⟩
  · rw [hnext]
  · obtain ⟨start, hserves⟩ := h fetched hlast hreuses
    rw [hnext, hserves.selectBars_eq]

theorem covered_history_transparent (calls : List TimedCall)
    (h : Machine.Always (Covered market) calls) : Machine.Always (Transparent market) calls :=
  h.mono fun _ _ => transparent_of_covered

def minuteMarket : Market := fun _ _ =>
  ⟨[minuteBar 60, minuteBar 120, minuteBar 180, minuteBar 240], by decide⟩

def minuteCall (start stop : ℚ) (countBack : Int) : TimedCall :=
  ⟨⟨"orai/usdt", "ORAI/USDT", ⟨start, stop, countBack⟩, false, "1"⟩, 240000⟩

theorem earlier_window_lost :
    (history minuteMarket).output [minuteCall 180 240 2] (minuteCall 0 120 2) = some [] ∧
      (history minuteMarket).output [] (minuteCall 0 120 2) =
        some [minuteBar 60, minuteBar 120] ∧
      ¬ Machine.Always (Transparent minuteMarket) [minuteCall 180 240 2, minuteCall 0 120 2] := by
  have hcached : (history minuteMarket).output [minuteCall 180 240 2] (minuteCall 0 120 2) =
      some [] := by decide +kernel
  have hfresh : (history minuteMarket).output [] (minuteCall 0 120 2) =
      some [minuteBar 60, minuteBar 120] := by decide +kernel
  refine ⟨hcached, hfresh, fun h => ?_⟩
  have htransparent : Transparent minuteMarket [minuteCall 180 240 2] (minuteCall 0 120 2) :=
    h _ _ (List.prefix_refl _)
  have hsame := htransparent.1
  rw [hcached, hfresh] at hsame
  exact absurd hsame (by decide)

theorem inner_window_served :
    Machine.Always (Transparent minuteMarket) [minuteCall 0 240 4, minuteCall 60 180 2] := by
  refine covered_history_transparent _ ?_
  have hfirst : Machine.Always (Covered minuteMarket) ([] ++ [minuteCall 0 240 4]) :=
    Machine.always_concat.mpr ⟨Machine.always_nil, nofun⟩
  have hsecond : Covered minuteMarket [minuteCall 0 240 4] (minuteCall 60 180 2) := by
    intro fetched hfetched _
    have hlast : (minuteCall 0 240 4).call = fetched := Option.some.inj hfetched
    subst hlast
    exact ⟨60, rfl, rfl, by decide +kernel, .inl rfl, by decide +kernel, by decide +kernel⟩
  exact Machine.always_concat.mpr ⟨hfirst, hsecond⟩

end Transparency

end OraidexSdk.Chart.History
