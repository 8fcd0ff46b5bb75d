import OraidexSdk.Js.Splice
import OraidexSdk.Loops.Runs
import OraidexSdk.Ordered.Entries

namespace OraidexSdk.Chart
open Js

structure ChartData where
  id : String
  name : String
  symbol : String
  resolution : String
  content : String
  timestamp : Option Int
  deriving DecidableEq

structure ChartToSave where
  id : Option String
  name : String
  symbol : String
  resolution : String
  content : String
  deriving DecidableEq

-- setTvCharts is what the callback has been given so far.
structure SaveLoadAdapter where
  charts : Option (List ChartData)
  setTvCharts : List (List ChartData)
  deriving DecidableEq

namespace SaveLoadAdapter

def construct (charts : Option (List ChartData)) : SaveLoadAdapter := ⟨charts, []⟩

def setCharts (s : SaveLoadAdapter) (charts : List ChartData) : SaveLoadAdapter :=
  ⟨some charts, s.setTvCharts ++ [charts]⟩

def getAllCharts (s : SaveLoadAdapter) : Option (List ChartData) := s.charts

-- A rejected promise is none: no rejection here has a reason.
def removeChart (s : SaveLoadAdapter) (id : String) : SaveLoadAdapter × Option Unit :=
  match s.charts with
  | none => (s, none)
  | some charts =>
    match charts.findIdx? (·.id = id) with
    | some i => (s.setCharts (splice charts i 1), some ())
    | none => (s, none)

def savedId (chartData : ChartToSave) (random : String) : String :=
  (truthy chartData.id).getD random

def saved (chartData : ChartToSave) (random : String) (now : Int) : ChartData where
  id := savedId chartData random
  name := chartData.name
  symbol := chartData.symbol
  resolution := chartData.resolution
  content := chartData.content
  timestamp := some now

-- random is the text of Math.random(), now the value of new Date().
def saveChart (s : SaveLoadAdapter) (chartData : ChartToSave) (random : String) (now : Int) :
    SaveLoadAdapter × Option String :=
  let s :=
    match truthy chartData.id with
    | none => s
    | some id => (s.removeChart id).1
  let chart := saved chartData random now
  match s.charts with
  | some charts => (s.setCharts (charts ++ [chart]), some chart.id)
  | none => (s, some chart.id)

def getChartContent (s : SaveLoadAdapter) (id : String) : Option String :=
  match s.charts with
  | none => none
  | some charts => (charts.find? (·.id = id)).map ChartData.content

inductive Call where
  | saveChart (chartData : ChartToSave) (random : String) (now : Int)
  | removeChart (id : String)

inductive Answer where
  | saved (id : Option String)
  | removed (done : Option Unit)

def call (s : SaveLoadAdapter) : Call → SaveLoadAdapter × Answer
  | .saveChart chartData random now =>
    let (s', id) := s.saveChart chartData random now
    (s', .saved id)
  | .removeChart id =>
    let (s', done) := s.removeChart id
    (s', .removed done)

def adapter (charts : Option (List ChartData)) : Machine SaveLoadAdapter Call Answer :=
  ⟨construct charts, call⟩

namespace Call

def id : Call → String
  | .saveChart chartData random _ => savedId chartData random
  | .removeChart id => id

def content : Call → Option String
  | .saveChart chartData _ _ => some chartData.content
  | .removeChart _ => none

def Fresh (s : SaveLoadAdapter) : Call → Prop
  | .saveChart chartData random _ =>
    truthy chartData.id = none → ∀ chart ∈ s.charts.getD [], chart.id ≠ random
  | .removeChart _ => True

end Call

def FreshIds (charts : List ChartData) (before : List Call) (c : Call) : Prop :=
  c.Fresh ((adapter (some charts)).stateAfter before)

-- The content of the last save of the id that no removal of it follows; the charts which the
-- adapter was given count as saves before the first call.
def latestContent (charts : List ChartData) (calls : List Call) (id : String) : Option String :=
  match calls.reverse.find? (·.id = id) with
  | some last => last.content
  | none => (Entries.get ChartData.id id charts).map ChartData.content

open Entries

variable {s : SaveLoadAdapter} {charts : List ChartData} {id : String}

theorem splice_first (charts : List ChartData) (id : String) :
    remove ChartData.id id charts =
      match charts.findIdx? (·.id = id) with
      | some i => splice charts i 1
      | none => charts := by
  rw [remove, List.eraseP_eq_eraseIdx]
  cases charts.findIdx? (·.id = id) with
  | none => rfl
  | some i => exact (splice_one charts i).symm

theorem removeChart_charts (h : s.charts = some charts) :
    (s.removeChart id).1.charts = some (remove ChartData.id id charts) := by
  rw [splice_first]
  simp only [removeChart, h]
  cases charts.findIdx? (·.id = id) with
  | none => exact h
  | some i => rfl

def Call.appended : Call → List ChartData
  | .saveChart chartData random now => [saved chartData random now]
  | .removeChart _ => []

theorem call_generated {chartData : ChartToSave} {random : String} {now : Int}
    (h : s.charts = some charts) (hid : truthy chartData.id = none) :
    (s.call (.saveChart chartData random now)).1.charts =
      some (charts ++ [saved chartData random now]) := by
  simp [call, saveChart, hid, h, setCharts]

theorem call_given {chartData : ChartToSave} {random : String} {now : Int}
    (h : s.charts = some charts) (hid : truthy chartData.id = some id) :
    (s.call (.saveChart chartData random now)).1.charts =
      some (remove ChartData.id id charts ++ [saved chartData random now]) := by
  simp [call, saveChart, hid, removeChart_charts h, setCharts]

theorem call_remove (h : s.charts = some charts) :
    (s.call (.removeChart id)).1.charts = some (remove ChartData.id id charts) :=
  removeChart_charts h

theorem call_charts (c : Call) (h : s.charts = some charts) (hcharts : Distinct ChartData.id charts)
    (hfresh : c.Fresh s) :
    (s.call c).1.charts = some (others ChartData.id c.id charts ++ c.appended) := by
  cases c with
  | saveChart chartData random now =>
    cases hid : truthy chartData.id with
    | none =>
      have hnew : ∀ chart ∈ charts, chart.id ≠ random := by simpa [h] using hfresh hid
      simp [call_generated h hid, Call.id, savedId, hid, others_eq_self hnew, Call.appended]
    | some id =>
      simp [call_given h hid, Call.id, savedId, hid, remove_eq_others hcharts, Call.appended]
  | removeChart id =>
    simp [call_remove h, Call.id, remove_eq_others hcharts, Call.appended]

theorem call_others (c : Call) (h : s.charts = some charts) :
    ∃ charts', (s.call c).1.charts = some charts' ∧
      others ChartData.id c.id charts' = others ChartData.id c.id charts := by
  cases c with
  | saveChart chartData random now =>
    cases hid : truthy chartData.id with
    | none =>
      refine ⟨_, call_generated h hid, others_concat ?_⟩
      rfl
    | some id =>
      have hid' : savedId chartData random = id := by simp [savedId, hid]
      have hsaved : (saved chartData random now).id = id := hid'
      refine ⟨_, call_given h hid, ?_⟩
      rw [Call.id, hid', others_concat hsaved, others_remove]
  | removeChart id => exact ⟨_, call_remove h, others_remove id charts⟩

theorem distinct_call (c : Call) (hcharts : Distinct ChartData.id charts) :
    Distinct ChartData.id (others ChartData.id c.id charts ++ c.appended) := by
  have hothers := distinct_others (k := c.id) hcharts
  cases c with
  | saveChart chartData random now => exact distinct_concat hothers (others_ne _ charts)
  | removeChart id => simpa [Call.appended] using hothers

theorem content_call (c : Call) (id : String) :
    (get ChartData.id id (others ChartData.id c.id charts ++ c.appended)).map ChartData.content =
      if id = c.id then c.content else (get ChartData.id id charts).map ChartData.content := by
  cases c with
  | saveChart chartData random now =>
    have hnew : ∀ chart ∈ others ChartData.id (savedId chartData random) charts,
        chart.id ≠ (saved chartData random now).id := others_ne _ charts
    rw [Call.appended, Call.id, get_concat hnew]
    by_cases hid : id = savedId chartData random
    · simp [hid, saved, Call.content]
    · simp [hid, saved, get_others]
  | removeChart removed =>
    rw [Call.appended, List.append_nil, get_others]
    by_cases hid : id = removed <;> simp [hid, Call.id, Call.content]

theorem latestContent_concat (charts : List ChartData) (calls : List Call) (c : Call)
    (id : String) :
    latestContent charts (calls ++ [c]) id =
      if id = c.id then c.content else latestContent charts calls id := by
  rw [latestContent, List.reverse_append]
  by_cases hid : id = c.id
  · simp [hid]
  · simp [hid, Ne.symm hid, latestContent]

-- After the calls the adapter holds a chart store with the content that each id was last given.
structure Stores (charts : List ChartData) (calls : List Call) (s : SaveLoadAdapter) : Prop where
  defined : ∃ stored, s.charts = some stored ∧ Distinct ChartData.id stored
  content : ∀ id, s.getChartContent id = latestContent charts calls id

theorem getChartContent_eq (h : s.charts = some charts) (id : String) :
    s.getChartContent id = (get ChartData.id id charts).map ChartData.content := by
  rw [getChartContent, h]
  rfl

theorem stores_construct (hcharts : Distinct ChartData.id charts) :
    Stores charts [] (construct (some charts)) :=
  ⟨⟨charts, rfl, hcharts⟩, getChartContent_eq rfl⟩

theorem stores_call {calls : List Call} (c : Call) (h : Stores charts calls s)
    (hfresh : c.Fresh s) : Stores charts (calls ++ [c]) (s.call c).1 := by
  obtain ⟨stored, hstored, hdistinct⟩ := h.defined
  have hcall := call_charts c hstored hdistinct hfresh
  refine ⟨⟨_, hcall, distinct_call c hdistinct⟩, fun id => ?_⟩
  rw [getChartContent_eq hcall, content_call, latestContent_concat, ← h.content id,
    getChartContent_eq hstored]

theorem stores_run {calls : List Call} (hcharts : Distinct ChartData.id charts)
    (hfresh : Machine.Always (FreshIds charts) calls) :
    Stores charts calls ((adapter (some charts)).stateAfter calls) := by
  induction calls using List.reverseRecOn with
  | nil => exact stores_construct hcharts
  | append_singleton before c ih =>
    obtain ⟨hbefore, hc⟩ := Machine.always_concat.mp hfresh
    rw [Machine.stateAfter_concat]
    exact stores_call c (ih hbefore) hc

theorem chart_store (charts : List ChartData) (calls : List Call)
    (hcharts : Distinct ChartData.id charts)
    (hfresh : Machine.Always (FreshIds charts) calls) :
    ∃ stored, ((adapter (some charts)).stateAfter calls).getAllCharts = some stored ∧
      Distinct ChartData.id stored ∧
      (∀ id, ((adapter (some charts)).stateAfter calls).getChartContent id =
        latestContent charts calls id) ∧
      ∀ c : Call, ∃ stored',
        ((adapter (some charts)).stateAfter (calls ++ [c])).getAllCharts = some stored' ∧
          others ChartData.id c.id stored' = others ChartData.id c.id stored := by
  have h := stores_run hcharts hfresh
  obtain ⟨stored, hstored, hdistinct⟩ := h.defined
  refine ⟨stored, hstored, hdistinct, h.content, fun c => ?_⟩
  rw [Machine.stateAfter_concat]
  exact call_others c hstored

def firstChart : ChartData := ⟨"0.1", "ORAI", "ORAI/USDT", "1D", "lines", some 1⟩

def saveCopy : Call := .saveChart ⟨none, "copy", "ORAI/USDT", "1D", "waves"⟩ "0.2" 2

def saveAgain : Call := .saveChart ⟨some "0.1", "ORAI", "ORAI/USDT", "1D", "bars"⟩ "0.3" 3

def edits : List Call := [saveCopy, saveAgain, .removeChart "0.2"]

theorem chart_store_edits :
    ∃ stored, ((adapter (some [firstChart])).stateAfter edits).getAllCharts = some stored ∧
      Distinct ChartData.id stored ∧
      (∀ id, ((adapter (some [firstChart])).stateAfter edits).getChartContent id =
        latestContent [firstChart] edits id) ∧
      ∀ c : Call, ∃ stored',
        ((adapter (some [firstChart])).stateAfter (edits ++ [c])).getAllCharts = some stored' ∧
          others ChartData.id c.id stored' = others ChartData.id c.id stored := by
  have hcopy : Machine.Always (FreshIds [firstChart]) ([] ++ [saveCopy]) := by
    refine Machine.always_concat.mpr ⟨Machine.always_nil, fun _ => ?_⟩
    decide +kernel
  have hagain : Machine.Always (FreshIds [firstChart]) ([saveCopy] ++ [saveAgain]) := by
    refine Machine.always_concat.mpr ⟨hcopy, fun hid => absurd hid ?_⟩
    decide +kernel
  have hedits : Machine.Always (FreshIds [firstChart])
      ([saveCopy, saveAgain] ++ [.removeChart "0.2"]) :=
    Machine.always_concat.mpr ⟨hagain, trivial⟩
  exact chart_store [firstChart] edits (List.nodup_singleton _) hedits

end SaveLoadAdapter

end OraidexSdk.Chart
