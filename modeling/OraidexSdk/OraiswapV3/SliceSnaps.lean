import OraidexSdk.Js.Splice
import OraidexSdk.Ordered.Window
import Mathlib.Data.Rat.Init

namespace OraidexSdk.OraiswapV3.Helpers
open Js Window

structure SnapshotValueData where
  tokenBNFromBeginning : String
  usdValue24 : ℚ
deriving DecidableEq

structure PoolSnapshot where
  timestamp : Nat
  volumeX : SnapshotValueData
  volumeY : SnapshotValueData
  liquidityX : SnapshotValueData
  liquidityY : SnapshotValueData
  feeX : SnapshotValueData
  feeY : SnapshotValueData
deriving DecidableEq

def slicePool (pool : List PoolSnapshot) (limit skip : Nat) : List PoolSnapshot :=
  let arr := arraySlice pool (-limit + skip)
  splice arr (arr.length - skip) skip

def sliceSnaps (data : List (String × List PoolSnapshot)) (limit skip : Option Nat) :
    List (String × List PoolSnapshot) :=
  data.map fun entry => (entry.1, slicePool entry.2 (limit.getD 28) (skip.getD 0))

def lastSnaps (pool : List PoolSnapshot) (limit skip : Nat) : List PoolSnapshot :=
  (pool.take (pool.length - skip)).drop (pool.length - skip - limit)

def Windowed (n : Nat) (limit skip : Option Nat) : Prop :=
  ∀ data, (∀ entry ∈ data, entry.2.length = n) → sliceSnaps data limit skip =
    data.map fun entry => (entry.1, lastSnaps entry.2 (limit.getD 28) (skip.getD 0))

structure Interval where
  start : Nat
  count : Nat

def sliced (n limit skip : Nat) : Interval :=
  let start := relativeIndex n (-limit + skip)
  ⟨start, relativeIndex (n - start) ((n - start : Nat) - skip)⟩

def Fits (n limit skip : Nat) : Prop :=
  skip = 0 ∨ (skip ≤ n ∧ n + skip ≤ limit) ∨ (skip = limit ∧ skip ≤ n ∧ n ≤ 2 * skip) ∨
    (limit ≤ skip ∧ n = 2 * skip) ∨
    (n ≤ skip ∧ skip < limit ∧ 2 * min n (limit - skip) ≤ skip) ∨
    (n ≤ skip ∧ limit ≤ skip ∧ 2 * (n - (skip - limit)) ≤ skip)

section Slices

variable (pool : List PoolSnapshot) (limit skip : Nat)

theorem slicePool_eq_window :
    slicePool pool limit skip =
      window pool (sliced pool.length limit skip).start (sliced pool.length limit skip).count := by
  simp only [slicePool]
  have hlength : (arraySlice pool (-limit + skip)).length =
      pool.length - relativeIndex pool.length (-limit + skip) := List.length_drop
  rw [splice_to_end, hlength]
  · rfl
  · rw [hlength]
    unfold relativeIndex
    split <;> split <;> omega

theorem lastSnaps_eq_window :
    lastSnaps pool limit skip = window pool (pool.length - skip - limit)
      (pool.length - skip - (pool.length - skip - limit)) := drop_take pool _ _

theorem sliced_le (n : Nat) : (sliced n limit skip).start + (sliced n limit skip).count ≤ n := by
  have hstart := relativeIndex_le n (-limit + skip)
  have hcount := relativeIndex_le (n - relativeIndex n (-limit + skip))
    ((n - relativeIndex n (-limit + skip) : Nat) - skip)
  simp only [sliced]
  omega

theorem relativeIndex_back (m : Nat) :
    relativeIndex m ((m : Int) - skip) = if m < skip then 2 * m - skip else m - skip := by
  unfold relativeIndex
  split <;> split <;> omega

-- With skip below limit the start moves towards the end by skip instead of away from it.
theorem sliced_of_lt (n : Nat) (h : skip < limit) :
    sliced n limit skip = ⟨n - (limit - skip), if min n (limit - skip) < skip
      then 2 * min n (limit - skip) - skip else min n (limit - skip) - skip⟩ := by
  have hstart : relativeIndex n (-limit + skip) = n - (limit - skip) := by
    rw [relativeIndex, if_pos (by omega)]
    omega
  have hlength : n - (n - (limit - skip)) = min n (limit - skip) := by omega
  simp only [sliced, hstart, hlength, relativeIndex_back]

theorem sliced_of_ge (n : Nat) (h : limit ≤ skip) :
    sliced n limit skip = ⟨min (skip - limit) n, if n - (skip - limit) < skip
      then 2 * (n - (skip - limit)) - skip else n - (skip - limit) - skip⟩ := by
  have hstart : relativeIndex n (-limit + skip) = min (skip - limit) n := by
    rw [relativeIndex, if_neg (by omega)]
    omega
  have hlength : n - min (skip - limit) n = n - (skip - limit) := by omega
  simp only [sliced, hstart, hlength, relativeIndex_back]

theorem sliced_fits_iff {n : Nat} (hlimit : 1 ≤ limit) :
    ((sliced n limit skip).count = n - skip - (n - skip - limit) ∧
      ((sliced n limit skip).count = 0 ∨ (sliced n limit skip).start = n - skip - limit)) ↔
        Fits n limit skip := by
  unfold Fits
  rcases Nat.lt_or_ge skip limit with hlt | hge
  · rw [sliced_of_lt limit skip n hlt]
    simp only [hlt, hlt.ne, Nat.not_le.mpr hlt, true_and, false_and, and_false, or_false, false_or]
    split <;> omega
  · rw [sliced_of_ge limit skip n hge]
    simp only [hge, Nat.not_lt.mpr hge, true_and, false_and, and_false, false_or]
    split <;> omega

end Slices

section Windows

variable {n : Nat}

def snapAt (timestamp : Nat) : PoolSnapshot :=
  ⟨timestamp, ⟨"0", 0⟩, ⟨"0", 0⟩, ⟨"0", 0⟩, ⟨"0", 0⟩, ⟨"0", 0⟩, ⟨"0", 0⟩⟩

def snaps (n : Nat) : List PoolSnapshot := (List.range n).map snapAt

theorem length_snaps (n : Nat) : (snaps n).length = n := by simp [snaps]

theorem nodup_snaps (n : Nat) : (snaps n).Nodup := by
  refine List.nodup_range.map fun a b hab => ?_
  exact congrArg PoolSnapshot.timestamp hab

theorem slicePool_eq_of_fits {pool : List PoolSnapshot} {limit skip : Nat} (hlimit : 1 ≤ limit)
    (h : Fits pool.length limit skip) : slicePool pool limit skip = lastSnaps pool limit skip := by
  obtain ⟨hcount, hstart⟩ := (sliced_fits_iff limit skip hlimit).mpr h
  rw [slicePool_eq_window, lastSnaps_eq_window]
  exact window_congr pool hcount hstart

theorem fits_of_slicePool_eq {limit skip : Nat} (hlimit : 1 ≤ limit)
    (h : slicePool (snaps n) limit skip = lastSnaps (snaps n) limit skip) : Fits n limit skip := by
  have hsliced := sliced_le limit skip (snaps n).length
  have hlast : (snaps n).length - skip - limit +
      ((snaps n).length - skip - ((snaps n).length - skip - limit)) ≤ (snaps n).length := by omega
  rw [slicePool_eq_window, lastSnaps_eq_window, window_eq_iff (nodup_snaps n) hsliced hlast,
    length_snaps] at h
  exact (sliced_fits_iff limit skip hlimit).mp h

end Windows

theorem sliceSnaps_windowed_iff {n : Nat} {limit skip : Option Nat} (hlimit : 1 ≤ limit.getD 28) :
    Windowed n limit skip ↔ Fits n (limit.getD 28) (skip.getD 0) := by
  constructor
  · intro h
    have hsame := h [("pool", snaps n)] (List.forall_mem_singleton.mpr (length_snaps n))
    simp only [sliceSnaps, List.map_cons, List.map_nil, List.cons.injEq, Prod.mk.injEq,
      and_true, true_and] at hsame
    exact fits_of_slicePool_eq hlimit hsame
  · intro h data hdata
    refine List.map_congr_left fun entry hentry => ?_
    rw [slicePool_eq_of_fits hlimit ((hdata entry hentry).symm ▸ h)]

theorem default_slice_windowed : Windowed 40 none none :=
  (sliceSnaps_windowed_iff (by decide)).mpr (.inl rfl)

-- slice(-2 + 1) keeps the last snapshot alone, and splice takes it away.
theorem skipped_snapshot_lost :
    sliceSnaps [("pool", snaps 4)] (some 2) (some 1) = [("pool", [])] ∧
      lastSnaps (snaps 4) 2 1 = [snapAt 1, snapAt 2] ∧ ¬ Windowed 4 (some 2) (some 1) := by
  have hsliced : sliceSnaps [("pool", snaps 4)] (some 2) (some 1) = [("pool", [])] := by
    decide +kernel
  have hlast : lastSnaps (snaps 4) 2 1 = [snapAt 1, snapAt 2] := by decide +kernel
  refine ⟨hsliced, hlast, fun h => ?_⟩
  have hsame := h [("pool", snaps 4)] (List.forall_mem_singleton.mpr (length_snaps 4))
  rw [hsliced, List.map_singleton, Option.getD_some, Option.getD_some, hlast] at hsame
  simp at hsame

end OraidexSdk.OraiswapV3.Helpers
