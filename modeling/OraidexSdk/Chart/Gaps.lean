import OraidexSdk.Chart.Utils
import OraidexSdk.Ordered.Ladder

namespace OraidexSdk.Chart.Gaps
open Keyed

section Definitions

variable (periodSeconds : ℚ)

def newBar (bar : Bar) (j : Nat) : Bar where
  time := bar.time - j * periodSeconds
  open_ := bar.open_
  close := bar.open_
  high := bar.open_ * (10003 / 10000)
  low := bar.open_ * (9996 / 10000)
  volume := none

-- A previous time of 0 is falsy.
def newBars (prevTime : ℚ) (bar : Bar) : List Bar :=
  if prevTime = 0 then []
  else
    let numBarsToFill := ⌊(bar.time - prevTime) / periodSeconds⌋ - 1
    (List.range numBarsToFill.toNat).reverse.map fun i => newBar periodSeconds bar (i + 1)

def fillFrom (prevTime : ℚ) : List Bar → List Bar
  | [] => []
  | bar :: bars => newBars periodSeconds prevTime bar ++ bar :: fillFrom bar.time bars

def fillBarGaps : List Bar → List Bar
  | [] => []
  | bar :: bars => bar :: fillFrom periodSeconds bar.time bars

structure Filled (bars filled : List Bar) : Prop where
  ascending : Ascending Bar.time filled
  kept : bars.Sublist filled
  spaced : filled.IsChain fun a b => b.time - a.time < 2 * periodSeconds
  inserted : filled.IsChain fun a b => a ∉ bars → b.time = a.time + periodSeconds
  last : filled.getLast? = bars.getLast?
  stable : fillBarGaps periodSeconds filled = filled
  aligned : (∀ bar ∈ bars, Grid.Aligned periodSeconds bar.time) →
    filled.IsChain fun a b => b.time = a.time + periodSeconds

end Definitions

theorem fillFrom_natCast (periodSeconds : Nat) (prevTime : ℚ) (bars : List Bar) :
    fillFrom periodSeconds prevTime bars = Chart.fillFrom (some periodSeconds) prevTime bars := by
  induction bars generalizing prevTime with
  | nil => rfl
  | cons bar rest ih =>
    rw [fillFrom, Chart.fillFrom, ih]
    rfl

theorem fillBarGaps_natCast (periodSeconds : Nat) (bars : List Bar) :
    fillBarGaps periodSeconds bars = Chart.fillBarGaps (some periodSeconds) bars := by
  cases bars with
  | nil => rfl
  | cons first rest => rw [fillBarGaps, Chart.fillBarGaps, fillFrom_natCast]

section Filling

variable {periodSeconds : ℚ} {bars : List Bar}

abbrev ladder (periodSeconds : ℚ) (prevTime : ℚ) (bars : List Bar) : List Bar :=
  Ladder.climb Bar.time (newBar periodSeconds) periodSeconds prevTime bars

theorem newBar_time (bar : Bar) (j : Nat) :
    (newBar periodSeconds bar j).time = bar.time - j * periodSeconds := rfl

theorem fillFrom_eq_ladder {prevTime : ℚ} (hprev : prevTime ≠ 0)
    (hbars : ∀ bar ∈ bars, bar.time ≠ 0) :
    fillFrom periodSeconds prevTime bars = ladder periodSeconds prevTime bars := by
  induction bars generalizing prevTime with
  | nil => rfl
  | cons bar rest ih =>
    obtain ⟨hbar, hrest⟩ := List.forall_mem_cons.mp hbars
    rw [fillFrom, newBars, if_neg hprev, ih hbar hrest]
    rfl

theorem filled_cons {first : Bar} (hperiod : 0 < periodSeconds) (hpositive : 0 < first.time)
    (hascending : Ascending Bar.time (first :: bars)) :
    Filled periodSeconds (first :: bars) (first :: ladder periodSeconds first.time bars) := by
  have hrises : (first :: ladder periodSeconds first.time bars).IsChain
      (Ladder.Rises Bar.time periodSeconds (· ∈ first :: bars)) :=
    Ladder.rises_climb newBar_time hperiod List.mem_cons_self
      (fun bar hbar => List.mem_cons_of_mem _ hbar) hascending
  have hout : Ascending Bar.time (first :: ladder periodSeconds first.time bars) := by
    have htrans : IsTrans Bar fun a b => a.time < b.time := ⟨fun _ _ _ => lt_trans⟩
    exact List.isChain_iff_pairwise.mp (hrises.imp fun _ _ h => h.lt)
  have hspaced := hrises.imp fun _ _ h => h.lt_two
  have htimes : ∀ bar ∈ ladder periodSeconds first.time bars, bar.time ≠ 0 := fun bar hbar =>
    (hpositive.trans ((List.pairwise_cons.mp hout).1 bar hbar)).ne'
  constructor
  · exact hout
  · exact (Ladder.sublist_climb bars first.time).cons_cons first
  · exact hspaced
  · exact hrises.imp fun _ _ h hnot => h.inserted.resolve_left hnot
  · simp [List.getLast?_cons, ladder, Ladder.getLast_climb]
  · rw [fillBarGaps, fillFrom_eq_ladder hpositive.ne' htimes]
    exact congrArg _ (Ladder.climb_eq_self hperiod hspaced)
  · exact Ladder.even_climb newBar_time hperiod hascending

end Filling

theorem fillBarGaps_filled {periodSeconds : ℚ} {bars : List Bar} (hperiod : 0 < periodSeconds)
    (hpositive : ∀ bar ∈ bars, 0 < bar.time) (hascending : Ascending Bar.time bars) :
    Filled periodSeconds bars (fillBarGaps periodSeconds bars) := by
  cases bars with
  | nil => exact ⟨.nil, .slnil, .nil, .nil, rfl, rfl, fun _ => .nil⟩
  | cons first rest =>
    obtain ⟨hfirst, hrest⟩ := List.forall_mem_cons.mp hpositive
    rw [fillBarGaps, fillFrom_eq_ladder hfirst.ne' fun bar hbar => (hrest bar hbar).ne']
    exact filled_cons hperiod hfirst hascending

def barWith (time : ℚ) : Bar := ⟨time, 10, 12, 13, 9, some 5⟩

theorem uneven_bars_filled :
    Filled 60 [barWith 60, barWith 260, barWith 300]
      (fillBarGaps 60 [barWith 60, barWith 260, barWith 300]) := by
  refine fillBarGaps_filled (by norm_num) ?_ ?_
  · simp [barWith]
  · simp [barWith]
    norm_num

end OraidexSdk.Chart.Gaps
