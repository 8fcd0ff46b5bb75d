import OraidexSdk.Js.Arithmetic
import Mathlib.Data.List.Infix

namespace OraidexSdk.Chart
open Js

def SUPPORTED_RESOLUTIONS : List (String × String) :=
  [("1", "1m"), ("5", "5m"), ("15", "15m"), ("30", "30m"), ("60", "1h"), ("120", "2h"),
    ("240", "4h"), ("360", "6h"), ("480", "8h"), ("1440", "1d")]

def CHART_PERIODS : List (String × Nat) :=
  [("1m", 60), ("5m", 60 * 5), ("15m", 60 * 15), ("30m", 60 * 30), ("1h", 60 * 60),
    ("2h", 60 * 60 * 2), ("4h", 60 * 60 * 4), ("6h", 60 * 60 * 6), ("8h", 60 * 60 * 8),
    ("1d", 60 * 60 * 24)]

-- The interval in seconds, undefined for a period outside the table.
def chartPeriod (period : Option String) : Option Nat := do
  CHART_PERIODS.lookup (← period)

-- A filler has no volume.
structure Bar where
  time : ℚ
  open_ : ℚ
  close : ℚ
  high : ℚ
  low : ℚ
  volume : Option ℚ
deriving DecidableEq

def filler (bar : Bar) (periodSeconds : Nat) (j : Nat) : Bar where
  time := bar.time - j * periodSeconds
  open_ := bar.open_
  close := bar.open_
  high := bar.open_ * (10003 / 10000)
  low := bar.open_ * (9996 / 10000)
  volume := none

-- The new bars before a bar, from the oldest on. Without an interval their number is NaN,
-- and a previous time of 0 is falsy.
def fillers (periodSeconds : Option Nat) (prevTime : ℚ) (bar : Bar) : List Bar :=
  match periodSeconds with
  | none => []
  | some periodSeconds =>
    if prevTime = 0 then []
    else
      let numBarsToFill := ⌊(bar.time - prevTime) / periodSeconds⌋ - 1
      (List.range numBarsToFill.toNat).reverse.map fun i => filler bar periodSeconds (i + 1)

def fillFrom (periodSeconds : Option Nat) (prevTime : ℚ) : List Bar → List Bar
  | [] => []
  | bar :: bars =>
    fillers periodSeconds prevTime bar ++ bar :: fillFrom periodSeconds bar.time bars

def fillBarGaps (periodSeconds : Option Nat) : List Bar → List Bar
  | [] => []
  | bar :: bars => bar :: fillFrom periodSeconds bar.time bars

def getCurrentCandleTime (now : Nat) (periodSeconds : Nat) : ℚ :=
  ⌊(now : ℚ) / 1000 / periodSeconds⌋ * periodSeconds

def getCurrentBarTimestamp (timestamp : Number ℚ) (periodSeconds : Number ℚ) : Number ℚ :=
  let period := periodSeconds.mul (.finite 1000)
  (timestamp.div period).floor.mul period

structure FullSymbol where
  exchange : String
  fromSymbol : String
  toSymbol : String
deriving DecidableEq, Repr

-- \w+
def isWord (cs : List Char) : Bool := cs ≠ [] && cs.all fun c => c.isAlphanum || c = '_'

def parseFullSymbol (fullSymbol : String) : Option FullSymbol :=
  match fullSymbol.toList.splitOn ':' with
  | [exchange, symbols] =>
    match symbols.splitOn '/' with
    | [fromSymbol, toSymbol] =>
      if isWord exchange && isWord fromSymbol && isWord toSymbol then
        some ⟨String.ofList exchange, String.ofList fromSymbol, String.ofList toSymbol⟩
      else none
    | _ => none
  | _ => none

-- The time value of new Date(time)
def dateTime (time : Number ℚ) : Number ℚ :=
  match time with
  | .finite t =>
    if |t| ≤ 8640000000000000 then .finite (if 0 ≤ t then ⌊t⌋ else ⌈t⌉) else .nan
  | _ => .nan

def roundTime (timeIn : Number ℚ) (interval : Number ℚ) : Number ℚ :=
  let roundTo := (interval.mul (.finite 60)).mul (.finite 1000)
  let dateOut := (timeIn.div roundTo).round.mul roundTo
  dateOut.div (.finite 1000)

end OraidexSdk.Chart
