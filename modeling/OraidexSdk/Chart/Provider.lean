import OraidexSdk.Chart.Utils
import OraidexSdk.Loops.Runs
import Mathlib.Logic.Function.Basic

namespace OraidexSdk.Chart.Provider

structure PeriodParams where
  from_ : ℚ
  to_ : ℚ
  countBack : Int
deriving DecidableEq

structure HistoryCall where
  pair : String
  ticker : String
  periodParams : PeriodParams
  shouldRefetchBars : Bool
  resolution : String
deriving DecidableEq

structure BarsInfo where
  period : Option String
  data : List Bar
  ticker : String
deriving DecidableEq

abbrev BarsInfoRef := Nat

-- The one object of the module, which the constructor and the error branch assign.
def initialHistoryBarsInfo : BarsInfoRef := 0

def emptyBarsInfo : BarsInfo := ⟨some "", [], ""⟩

structure LastBar where
  bar : Bar
  ticker : Option String
deriving DecidableEq

structure TVDataProvider where
  lastBar : Option LastBar
  barsInfo : BarsInfoRef
deriving DecidableEq

-- What the request for the candles answers; a body that is no list of bars has no data.
inductive CandlesResponse where
  | rejected
  | resolved (data : Option (List Bar))
deriving DecidableEq

structure PendingCall where
  provider : Nat
  call : HistoryCall
  barsInfo : BarsInfoRef
deriving DecidableEq

structure Providers where
  barsInfos : BarsInfoRef → BarsInfo
  instances : List TVDataProvider
  pending : List PendingCall

inductive Event where
  | construct
  | getTokenHistoryBars (provider : Nat) (call : HistoryCall)
  | settle (pending : Nat) (response : CandlesResponse) (now : Nat)
  | getLastBar (provider : Nat) (response : CandlesResponse)
  | getLiveBar (provider : Nat) (response : CandlesResponse)
deriving DecidableEq

def getTokenChartPrice : CandlesResponse → Option (List Bar)
  | .rejected => some []
  | .resolved data => data

def HistoryCall.period (call : HistoryCall) : Option String :=
  SUPPORTED_RESOLUTIONS.lookup call.resolution

def mustFetch (barsInfo : BarsInfo) (call : HistoryCall) : Bool :=
  barsInfo.data = [] || barsInfo.ticker ≠ call.ticker || barsInfo.period ≠ call.period ||
    call.shouldRefetchBars

def selectBars (periodParams : PeriodParams) (data : List Bar) : List Bar :=
  let bars := data.filter fun bar => periodParams.from_ < bar.time ∧ bar.time ≤ periodParams.to_
  if bars = [] then []
  else if bars.length < periodParams.countBack then bars
  else bars.drop (bars.length - periodParams.countBack).toNat

def fetchedBarsInfo (call : HistoryCall) (bars : List Bar) : BarsInfo where
  period := call.period
  data := fillBarGaps (chartPeriod call.period) bars
  ticker := call.ticker

-- No bar, or an interval that is NaN, equals no candle time.
def nextLastBar (lastBar : Option LastBar) (call : HistoryCall) (now : Nat)
    (filledBars : List Bar) : Option LastBar :=
  match filledBars.getLast?, chartPeriod call.period with
  | some bar, some periodSeconds =>
    let currentCandleTime := getCurrentCandleTime now periodSeconds
    let lastCandleTime := currentCandleTime - periodSeconds
    if bar.time = currentCandleTime ∨ bar.time = lastCandleTime then some ⟨bar, some call.ticker⟩
    else lastBar
  | _, _ => lastBar

namespace Providers

def construct (s : Providers) : Providers :=
  { s with instances := s.instances ++ [⟨none, initialHistoryBarsInfo⟩] }

def getTokenHistoryBars (s : Providers) (i : Nat) (call : HistoryCall) :
    Providers × Option (List Bar) :=
  match s.instances[i]? with
  | none => (s, none)
  | some provider =>
    if mustFetch (s.barsInfos provider.barsInfo) call then
      ({ s with pending := s.pending ++ [⟨i, call, provider.barsInfo⟩] }, none)
    else (s, some (selectBars call.periodParams (s.barsInfos provider.barsInfo).data))

-- The store goes through this.barsInfo, the read after it through the alias.
def receive (s : Providers) (p : PendingCall) (provider : TVDataProvider)
    (response : CandlesResponse) (now : Nat) : Providers :=
  match getTokenChartPrice response with
  | none =>
    { s with
      instances := s.instances.set p.provider
        { provider with barsInfo := initialHistoryBarsInfo } }
  | some bars =>
    let barsInfo := fetchedBarsInfo p.call bars
    { s with
      barsInfos := Function.update s.barsInfos provider.barsInfo barsInfo
      instances := s.instances.set p.provider
        { provider with lastBar := nextLastBar provider.lastBar p.call now barsInfo.data } }

def settle (s : Providers) (k : Nat) (response : CandlesResponse) (now : Nat) :
    Providers × Option (List Bar) :=
  match s.pending[k]? with
  | none => (s, none)
  | some p =>
    match s.instances[p.provider]? with
    | none => (s, none)
    | some provider =>
      let s' := receive { s with pending := s.pending.eraseIdx k } p provider response now
      (s', some (selectBars p.call.periodParams (s'.barsInfos p.barsInfo).data))

def setLastBar (s : Providers) (i : Nat) (lastBar : Option LastBar) : Providers :=
  { s with instances := s.instances.modify i fun provider => { provider with lastBar := lastBar } }

end Providers

def formatTimeInBarToMs (bar : Bar) : Bar :=
  { bar with time := bar.time * 1000, volume := bar.volume.map (· / 10 ^ 6) }

-- The part of getLastBar behind its request, and of getLiveBar with a change of format.
def receiveLastBar (s : Providers) (i : Nat) (response : CandlesResponse) (format : Bar → Bar) :
    Providers :=
  match getTokenChartPrice response with
  | none => s
  | some prices => s.setLastBar i (prices.getLast?.map fun bar => ⟨format bar, none⟩)

def step (s : Providers) : Event → Providers × Option (List Bar)
  | .construct => (s.construct, none)
  | .getTokenHistoryBars i call => s.getTokenHistoryBars i call
  | .settle k response now => s.settle k response now
  | .getLastBar i response => (receiveLastBar s i response id, none)
  | .getLiveBar i response => (receiveLastBar s i response formatTimeInBarToMs, none)

def providers : Machine Providers Event (Option (List Bar)) :=
  ⟨⟨fun _ => emptyBarsInfo, [], []⟩, step⟩

end OraidexSdk.Chart.Provider
