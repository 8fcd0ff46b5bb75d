import OraidexSdk.Chart.Buckets
import OraidexSdk.Chart.Streaming

namespace OraidexSdk.Chart.Streaming
open Js

section Bars

structure StreamBar.Sound (bar : StreamBar) : Prop where
  low_le_open : bar.open_.ge bar.low
  low_le_close : bar.close.ge bar.low
  open_le_high : bar.high.ge bar.open_
  close_le_high : bar.high.ge bar.close

structure TradeData.Sound (data : TradeData) : Prop where
  low_le_open : data.open_.ge data.low
  low_le_close : data.close.ge data.low
  open_le_high : data.high.ge data.open_
  close_le_high : data.high.ge data.close
  volume_nonneg : data.volume.ge (.finite 0)

def interval (resolution : String) : Number ℚ := number resolution.toList

def bucket (resolution : String) (time : Number ℚ) : Number ℚ :=
  roundTime (dateTime time) (interval resolution)

-- Date drops the fraction of a millisecond: a bar time with one needs buckets wide enough
-- for it, unless it is the time of a bucket.
def Dated (resolution : String) (bar : StreamBar) : Prop :=
  ∀ width t, bucketWidth (interval resolution) = .finite width → bar.time = .finite t →
    2 ≤ |width| ∨ (∃ n : ℤ, t = n) ∨ Grid.Aligned width t

def updatedBar (bar : StreamBar) (resolution : String) (data : TradeData) : StreamBar :=
  (nextBar bar resolution data).getD bar

structure Advances (resolution : String) (data : TradeData) (bar bar' : StreamBar) : Prop where
  sound : bar'.Sound
  time : bar'.time = bar.time ∨ bar'.time.gt bar.time
  older : (bucket resolution bar.time).gt (bucket resolution data.time) → bar' = bar
  open_ : (bucket resolution data.time).same (bucket resolution bar.time) → bar'.open_ = bar.open_
  start : (bucket resolution data.time).same (bucket resolution bar.time) → bar'.time = bar.time
  volume : (bucket resolution data.time).same (bucket resolution bar.time) →
    ∀ before traded, bar.volume = .finite before → data.volume = .finite traded →
      bar'.volume = .finite (before + traded / 10 ^ 6) ∧ before ≤ before + traded / 10 ^ 6

variable {bar : StreamBar} {data : TradeData} {resolution : String}

theorem updatedBar_newer
    (h : (bucket resolution data.time).gt (bucket resolution bar.time) = true) :
    updatedBar bar resolution data =
      ⟨bucketStart data.time (interval resolution), data.open_, data.high, data.low, data.close,
        data.volume.mul (.finite (1 / 10 ^ 6))⟩ := by
  rw [bucket, bucket, interval] at h
  simp only [updatedBar, nextBar, h, if_true, Option.getD_some]
  rfl

theorem updatedBar_same
    (h : (bucket resolution data.time).same (bucket resolution bar.time) = true) :
    updatedBar bar resolution data =
      { bar with
        high := bar.high.max data.high
        low := bar.low.min data.low
        close := data.close
        volume := (data.volume.mul (.finite (1 / 10 ^ 6))).add bar.volume } := by
  have hgt : (bucket resolution data.time).gt (bucket resolution bar.time) = false := by
    rw [Number.same, Bool.and_eq_true_iff] at h
    simp [Number.gt, h.2]
  rw [bucket, bucket, interval] at h hgt
  simp only [updatedBar, nextBar, h, hgt, if_true, Bool.false_eq_true, if_false, Option.getD_some]

theorem updatedBar_older
    (hgt : (bucket resolution data.time).gt (bucket resolution bar.time) = false)
    (hsame : (bucket resolution data.time).same (bucket resolution bar.time) = false) :
    updatedBar bar resolution data = bar := by
  rw [bucket, bucket, interval] at hgt hsame
  simp only [updatedBar, nextBar, hgt, hsame, Bool.false_eq_true, if_false, Option.getD_none]

end Bars

section Times

theorem dateTime_cases (time : Number ℚ) :
    dateTime time = .nan ∨ ∃ (t : ℚ) (n : ℤ), time = .finite t ∧ dateTime time = .finite n ∧
      |(n : ℚ) - t| < 1 ∧ ((∃ k : ℤ, t = k) → (n : ℚ) = t) := by
  cases time with
  | nan => exact .inl rfl
  | infinity negative => exact .inl rfl
  | finite t =>
    by_cases hrange : |t| ≤ 8640000000000000
    · refine .inr ⟨t, if 0 ≤ t then ⌊t⌋ else ⌈t⌉, rfl, ?_, ?_, ?_⟩
      · rw [dateTime, if_pos hrange, Int.cast_ite]
      · rw [abs_lt]
        have hfloor := Int.floor_le t
        have hlt := Int.lt_floor_add_one t
        have hceil := Int.le_ceil t
        have hgt := Int.ceil_lt_add_one t
        split <;> constructor <;> linarith
      · rintro ⟨k, rfl⟩
        simp
    · exact .inl (if_neg hrange)

theorem roundTime_cases (t : ℚ) (resolution : Number ℚ) :
    roundTime (.finite t) resolution = .nan ∨
      ∃ width, bucketWidth resolution = .finite width ∧ width ≠ 0 := by
  have hround : roundTime (.finite t) resolution =
      (((Number.finite t).div (bucketWidth resolution)).round.mul (bucketWidth resolution)).div
        (.finite 1000) := rfl
  rw [hround]
  cases hwidth : bucketWidth resolution with
  | nan => simp
  | infinity negative =>
    left
    have hfloor : ⌊(0 : ℚ) + 1 / 2⌋ = 0 := by norm_num
    simp only [Number.div, Number.round, hfloor, Number.mul, Int.cast_zero, if_true]
  | finite width =>
    rcases eq_or_ne width 0 with rfl | hne
    · left
      by_cases hzero : t = 0 <;> simp [Number.div, Number.mul, Number.round, hzero]
    · exact .inr ⟨width, rfl, hne⟩

variable {resolution : String} {time : Number ℚ}

theorem bucket_finite (h : bucket resolution time ≠ .nan) :
    ∃ (width t : ℚ) (n : ℤ), bucketWidth (interval resolution) = .finite width ∧ width ≠ 0 ∧
      time = .finite t ∧ dateTime time = .finite n ∧
      bucket resolution time = .finite (Grid.nearest width n / 1000) ∧
      |(n : ℚ) - t| < 1 ∧ ((∃ k : ℤ, t = k) → (n : ℚ) = t) := by
  rcases dateTime_cases time with hnan | ⟨t, n, htime, hdate, hnear, hwhole⟩
  · exact absurd (by rw [bucket, hnan, roundTime_nan]) h
  · rcases roundTime_cases n (interval resolution) with hnan | ⟨width, hwidth, hne⟩
    · exact absurd (by rw [bucket, hdate, hnan]) h
    · refine ⟨width, t, n, hwidth, hne, htime, hdate, ?_, hnear, hwhole⟩
      rw [bucket, hdate, roundTime_finite hwidth hne]

theorem le_nearest {width t : ℚ} {n n' : ℤ} (hwidth : width ≠ 0)
    (hdated : 2 ≤ |width| ∨ (∃ k : ℤ, t = k) ∨ Grid.Aligned width t)
    (hnear : |(n : ℚ) - t| < 1) (hwhole : (∃ k : ℤ, t = k) → (n : ℚ) = t)
    (hlater : Grid.nearest width (n : ℚ) < Grid.nearest width n') :
    t ≤ Grid.nearest width n' := by
  have hstep := Grid.le_of_nearest_lt hwidth hlater
  have hpositive := abs_pos.mpr hwidth
  have hfraction := (abs_lt.mp hnear).1
  rcases hdated with hwide | hinteger | haligned
  · linarith
  · linarith [hwhole hinteger]
  · have hnext : (n : ℚ) + 1 ≤ n' := by
      have hlt : n < n' := Int.cast_lt.mp (Grid.lt_of_nearest_lt hlater)
      exact_mod_cast Int.add_one_le_of_lt hlt
    have hle : t ≤ n' := by linarith
    have hrounded := Grid.nearest_mono width hle
    rw [haligned.nearest_eq hwidth] at hrounded
    exact hrounded

end Times

section Steps

variable {bar : StreamBar} {data : TradeData} {resolution : String}

theorem newer_times (hdated : Dated resolution bar)
    (h : (bucket resolution data.time).gt (bucket resolution bar.time) = true) :
    ∃ width t start, bucketWidth (interval resolution) = .finite width ∧ bar.time = .finite t ∧
      bucketStart data.time (interval resolution) = .finite start ∧ Grid.Aligned width start ∧
      t ≤ start := by
  have hge := h
  rw [Number.gt, Bool.and_eq_true_iff] at hge
  obtain ⟨width, t, n, hwidth, hne, htime, -, hbucket, hnear, hwhole⟩ :=
    bucket_finite (Number.right_ne_nan hge.1)
  obtain ⟨width', -, n', hwidth', -, -, hdate', hbucket', -, -⟩ :=
    bucket_finite (Number.left_ne_nan hge.1)
  obtain rfl : width = width' := Number.finite.inj (hwidth.symm.trans hwidth')
  rw [hbucket, hbucket', Number.gt_finite, decide_eq_true_eq,
    div_lt_div_iff_of_pos_right (by norm_num)] at h
  exact ⟨width, t, _, hwidth, htime, bucketStart_finite hdate' hwidth hne,
    Grid.nearest_aligned width _, le_nearest hne (hdated width t hwidth htime) hnear hwhole h⟩

theorem Dated.of_time {bar' : StreamBar} (h : Dated resolution bar) (htime : bar'.time = bar.time) :
    Dated resolution bar' := by
  intro width t hwidth ht
  exact h width t hwidth (htime.symm.trans ht)

theorem Dated.updatedBar (h : Dated resolution bar) (data : TradeData) :
    Dated resolution (updatedBar bar resolution data) := by
  cases hgt : (bucket resolution data.time).gt (bucket resolution bar.time) with
  | true =>
    obtain ⟨width, t, start, hwidth, -, hstart, haligned, -⟩ := newer_times h hgt
    intro width' t' hwidth' ht'
    rw [updatedBar_newer hgt, hstart] at ht'
    obtain rfl : width = width' := Number.finite.inj (hwidth.symm.trans hwidth')
    obtain rfl : start = t' := Number.finite.inj ht'
    exact .inr (.inr haligned)
  | false =>
    cases hsame : (bucket resolution data.time).same (bucket resolution bar.time) with
    | true => exact h.of_time (by rw [updatedBar_same hsame])
    | false => exact h.of_time (by rw [updatedBar_older hgt hsame])

theorem advances_newer (hdated : Dated resolution bar) (hdata : data.Sound)
    (h : (bucket resolution data.time).gt (bucket resolution bar.time) = true) :
    Advances resolution data bar (updatedBar bar resolution data) := by
  obtain ⟨-, t, start, -, htime, hstart, -, hle⟩ := newer_times hdated h
  have hnot := h
  simp only [Number.gt, Bool.and_eq_true_iff, Bool.not_eq_true'] at hnot
  have hold : (bucket resolution bar.time).gt (bucket resolution data.time) = false := by
    simp [Number.gt, hnot.2]
  have hother : (bucket resolution data.time).same (bucket resolution bar.time) = false := by
    simp [Number.same, hnot.2]
  rw [updatedBar_newer h, hstart]
  refine ⟨⟨hdata.low_le_open, hdata.low_le_close, hdata.open_le_high, hdata.close_le_high⟩,
    ?_, ?_, ?_, ?_, ?_⟩
  · rw [htime]
    rcases hle.eq_or_lt with heq | hlt
    · exact .inl (by rw [heq])
    · exact .inr (by rw [Number.gt_finite, decide_eq_true hlt])
  all_goals simp [hold, hother]

theorem advances_same (hbar : bar.Sound) (hdata : data.Sound)
    (h : (bucket resolution data.time).same (bucket resolution bar.time) = true) :
    Advances resolution data bar (updatedBar bar resolution data) := by
  have hlow := Number.right_ne_nan hdata.low_le_open
  have hhigh := Number.left_ne_nan hdata.open_le_high
  have hold : (bucket resolution bar.time).gt (bucket resolution data.time) = false := by
    rw [Number.same, Bool.and_eq_true_iff] at h
    simp [Number.gt, h.1]
  rw [updatedBar_same h]
  refine ⟨⟨?_, ?_, ?_, ?_⟩, .inl rfl, ?_, fun _ => rfl, fun _ => rfl, fun _ before traded => ?_⟩
  · exact Number.ge_min_left hbar.low_le_open hlow
  · exact Number.ge_min_right (Number.right_ne_nan hbar.low_le_open) hdata.low_le_close
  · exact Number.max_ge_left hbar.open_le_high hhigh
  · exact Number.max_ge_right (Number.left_ne_nan hbar.open_le_high) hdata.close_le_high
  · simp [hold]
  · intro hbefore htraded
    have hnonneg := hdata.volume_nonneg
    rw [htraded, Number.ge_finite, decide_eq_true_eq] at hnonneg
    constructor
    · simp only [hbefore, htraded, Number.mul_finite, Number.add_finite]
      congr 1
      ring
    · exact le_add_of_nonneg_right (div_nonneg hnonneg (by norm_num))

theorem advances (hbar : bar.Sound) (hdated : Dated resolution bar) (hdata : data.Sound) :
    Advances resolution data bar (updatedBar bar resolution data) := by
  cases hgt : (bucket resolution data.time).gt (bucket resolution bar.time) with
  | true => exact advances_newer hdated hdata hgt
  | false =>
    cases hsame : (bucket resolution data.time).same (bucket resolution bar.time) with
    | true => exact advances_same hbar hdata hsame
    | false =>
      rw [updatedBar_older hgt hsame]
      refine ⟨hbar, .inl rfl, fun _ => rfl, fun _ => rfl, fun _ => rfl, fun h => ?_⟩
      rw [hsame] at h
      cases h

end Steps

section Runs

variable {K : Type}

def trading (m : ChannelMap K) :
    Machine (ChannelMap K) TradeData (Except JsError (List (Invocation K))) :=
  ⟨m, fun m data => step m (.handleTradeEvent data)⟩

def Streams (m : ChannelMap K) (channel resolution : String) (bar : StreamBar) : Prop :=
  ∃ item, m.lookup channel = some item ∧ item.resolution = resolution ∧
    item.lastDailyBar = some bar

def Held (m : ChannelMap K) (channel resolution : String) : Prop :=
  ∃ bar, Streams m channel resolution bar ∧ bar.Sound ∧ Dated resolution bar

structure Live (m m' : ChannelMap K) (channel resolution : String) (data : TradeData)
    (bar bar' : StreamBar) : Prop where
  stored : Streams m channel resolution bar
  stored' : Streams m' channel resolution bar'
  sound : bar.Sound
  own : data.pair = channel → Advances resolution data bar bar'
  other : data.pair ≠ channel → bar' = bar

variable {m : ChannelMap K} {channel resolution : String} {bar : StreamBar} {data : TradeData}

theorem lookup_replace (key : String) (item : SubscriptionItem K) (m : ChannelMap K)
    (channel : String) :
    (m.map fun entry => if entry.1 = key then (key, item) else entry).lookup channel =
      if channel = key then (m.lookup channel).map fun _ => item else m.lookup channel := by
  induction m with
  | nil => simp
  | cons entry rest ih =>
    obtain ⟨name, old⟩ := entry
    rw [List.map_cons]
    by_cases hfound : channel = name
    · subst hfound
      by_cases hkey : channel = key <;> simp [hkey]
    · have hmiss : (channel == name) = false := beq_false_of_ne hfound
      by_cases hname : name = key
      · subst hname
        simpa [List.lookup_cons, hmiss, hfound] using ih
      · simpa [List.lookup_cons, hname, hmiss] using ih

theorem lookup_mapSet {key : String} {old item : SubscriptionItem K}
    (h : m.lookup key = some old) (channel : String) :
    (mapSet m key item).lookup channel = if channel = key then some item else m.lookup channel := by
  have hany : m.any (·.1 = key) = true :=
    List.any_eq_true.mpr ⟨_, Keyed.mem_of_lookup h, decide_eq_true rfl⟩
  rw [mapSet, if_pos hany, lookup_replace]
  split
  · rename_i hchannel
    rw [hchannel, h, Option.map_some]
  · rfl

theorem Streams.own (h : Streams m channel resolution bar) (hpair : data.pair = channel) :
    Streams (step m (.handleTradeEvent data)).1 channel resolution
      (updatedBar bar resolution data) := by
  obtain ⟨item, hitem, hresolution, hlast⟩ := h
  subst hpair hresolution
  cases hnext : nextBar bar item.resolution data with
  | none =>
    rw [updatedBar, hnext, Option.getD_none]
    exact ⟨item, by simp [step, handleTradeEvent, hitem, hlast, hnext], rfl, hlast⟩
  | some made =>
    rw [updatedBar, hnext, Option.getD_some]
    refine ⟨{ item with lastDailyBar := some made }, ?_, rfl, rfl⟩
    simp only [step, handleTradeEvent, hitem, hlast, hnext]
    rw [lookup_mapSet hitem, if_pos rfl]

theorem Streams.other (h : Streams m channel resolution bar) (hpair : data.pair ≠ channel) :
    Streams (step m (.handleTradeEvent data)).1 channel resolution bar := by
  obtain ⟨item, hitem, hresolution, hlast⟩ := h
  refine ⟨item, ?_, hresolution, hlast⟩
  cases htraded : m.lookup data.pair with
  | none => simpa [step, handleTradeEvent, htraded] using hitem
  | some traded =>
    cases hbar : traded.lastDailyBar with
    | none => simpa [step, handleTradeEvent, htraded, hbar] using hitem
    | some last =>
      cases hnext : nextBar last traded.resolution data with
      | none => simpa [step, handleTradeEvent, htraded, hbar, hnext] using hitem
      | some made =>
        simp only [step, handleTradeEvent, htraded, hbar, hnext]
        rw [lookup_mapSet htraded, if_neg hpair.symm]
        exact hitem

theorem Streams.live (h : Streams m channel resolution bar) (hbar : bar.Sound)
    (hdated : Dated resolution bar) (hdata : data.pair = channel → data.Sound) :
    ∃ bar', Live m (step m (.handleTradeEvent data)).1 channel resolution data bar bar' ∧
      bar'.Sound ∧ Dated resolution bar' := by
  by_cases hpair : data.pair = channel
  · have hadvances := advances hbar hdated (hdata hpair)
    exact ⟨_, ⟨h, h.own hpair, hbar, fun _ => hadvances, fun hother => absurd hpair hother⟩,
      hadvances.sound, hdated.updatedBar data⟩
  · exact ⟨bar, ⟨h, h.other hpair, hbar, fun hown => absurd hown hpair, fun _ => rfl⟩, hbar, hdated⟩

theorem live_candle {trades : List TradeData} (hstart : Held m channel resolution)
    (htrades : ∀ data ∈ trades, data.pair = channel → data.Sound) :
    Machine.Always (fun before data => ∃ bar bar',
      Live ((trading m).stateAfter before) ((trading m).stateAfter (before ++ [data]))
        channel resolution data bar bar') trades := by
  have hdata {before : List TradeData} {data : TradeData} (hbefore : before ++ [data] <+: trades) :
      data.pair = channel → data.Sound :=
    htrades data (hbefore.subset (List.mem_append_right _ (List.mem_singleton_self data)))
  have hheld : ∀ before, before <+: trades →
      Held ((trading m).stateAfter before) channel resolution := by
    refine Machine.invariant (I := fun _ s => Held s channel resolution) hstart
      fun before data s hbefore hs => ?_
    obtain ⟨bar, hbar, hsound, hdated⟩ := hs
    obtain ⟨bar', hlive, hbar'⟩ := hbar.live hsound hdated (hdata hbefore)
    exact ⟨bar', hlive.stored', hbar'⟩
  intro before data hbefore
  have hprefix : before <+: trades := (List.prefix_append before [data]).trans hbefore
  obtain ⟨bar, hbar, hsound, hdated⟩ := hheld before hprefix
  obtain ⟨bar', hlive, -⟩ := hbar.live hsound hdated (hdata hbefore)
  rw [Machine.stateAfter_concat]
  exact ⟨bar, bar', hlive⟩

end Runs

theorem dated_of_supported {resolution period : String}
    (h : (resolution, period) ∈ SUPPORTED_RESOLUTIONS) (bar : StreamBar) :
    Dated resolution bar := by
  have hall : ∀ entry ∈ SUPPORTED_RESOLUTIONS,
      (bucketWidth (interval entry.1)).ge (.finite 2) = true := by decide +kernel
  intro width t hwidth _
  have hwide := hall _ h
  rw [hwidth, Number.ge_finite, decide_eq_true_eq] at hwide
  exact .inl (hwide.trans (le_abs_self width))

def candleAt (minute : ℚ) : StreamBar :=
  ⟨.finite (60000 * minute), .finite 2, .finite 3, .finite 1, .finite 2, .finite 7⟩

def watched : SubscriptionItem Unit := ⟨"chart", "5", some (candleAt 6), [⟨"chart", ()⟩]⟩

def watching : ChannelMap Unit := [("ORAI/USDT", watched)]

theorem live_candle_watching :
    Machine.Always (fun before data => ∃ bar bar',
      Live ((trading watching).stateAfter before) ((trading watching).stateAfter (before ++ [data]))
        "ORAI/USDT" "5" data bar bar') [tradeAt 3, tradeAt 7, tradeAt 2, tradeAt 8] := by
  have hstreams : Streams watching "ORAI/USDT" "5" (candleAt 6) :=
    ⟨watched, by simp [watching], rfl, rfl⟩
  refine live_candle ⟨candleAt 6, hstreams, ?_, ?_⟩ fun data hdata _ => ?_
  · exact ⟨by decide, by decide, by decide, by decide⟩
  · have hsupported : ("5", "5m") ∈ SUPPORTED_RESOLUTIONS := by decide
    exact dated_of_supported hsupported _
  · simp only [List.mem_cons, List.not_mem_nil, or_false] at hdata
    rcases hdata with rfl | rfl | rfl | rfl <;>
      exact ⟨by decide, by decide, by decide, by decide, by decide⟩

end OraidexSdk.Chart.Streaming
