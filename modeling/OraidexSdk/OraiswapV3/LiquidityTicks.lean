import Mathlib.Data.Nat.Bitwise
import OraidexSdk.Js.Text
import OraidexSdk.Loops.Paging
import OraidexSdk.OraiswapV3.PoolKey

namespace OraidexSdk.OraiswapV3Handler
open Js OraiswapV3 Fueled Paging

-- A Map from chunk indices to masks, as its entries in the order of insertion.
structure Tickmap where
  bitmap : List (Nat × Nat)
  keys_nodup : (bitmap.map Prod.fst).Nodup

-- Functions of the compiled module
structure TickModule where
  getChunkSize : Nat
  getLiquidityTicksLimit : Nat
  positionToTick : (chunk bit tickSpacing : Nat) → Int

section Ticks

variable {L : Type} (wasm : TickModule)
variable (query : PoolKey String Nat → List Int → Except JsError (List L))
variable (poolKey : PoolKey String Nat)

def liquidityTicks (tickIndexes : List Int) : Fueled JsError (List L) :=
  loop (spliceRound wasm.getLiquidityTicksLimit (query poolKey)) (tickIndexes, [])

def chunkBits (chunk : Nat) : List Nat :=
  (List.range wasm.getChunkSize).filter fun bit => chunk &&& (1 <<< bit) ≠ 0

def initialisedTicks (tickmap : Tickmap) : List Int :=
  tickmap.bitmap.flatMap fun entry => (chunkBits wasm entry.2).map fun bit =>
    wasm.positionToTick entry.1 bit poolKey.feeTier.tickSpacing

def getAllLiquidityTicks (tickmap : Tickmap) : Fueled JsError (List L) :=
  liquidityTicks wasm query poolKey (initialisedTicks wasm poolKey tickmap)

end Ticks

abbrev Position := Nat × Nat

def IsSet (tickmap : Tickmap) (position : Position) : Prop :=
  ∃ chunk, (position.1, chunk) ∈ tickmap.bitmap ∧ chunk.testBit position.2 = true

def InOrder (tickmap : Tickmap) (p q : Position) : Prop :=
  (tickmap.bitmap.map Prod.fst).idxOf p.1 < (tickmap.bitmap.map Prod.fst).idxOf q.1 ∨
    p.1 = q.1 ∧ p.2 < q.2

section Bits

variable {wasm : TickModule} {tickmap : Tickmap}

theorem and_shiftLeft_ne_zero_iff (n i : Nat) : n &&& (1 <<< i) ≠ 0 ↔ n.testBit i = true := by
  rw [Nat.one_shiftLeft, Nat.and_two_pow]
  cases n.testBit i <;> simp

theorem mem_chunkBits {chunk bit : Nat} :
    bit ∈ chunkBits wasm chunk ↔ bit < wasm.getChunkSize ∧ chunk.testBit bit = true := by
  rw [chunkBits, List.mem_filter, List.mem_range, decide_eq_true_eq, and_shiftLeft_ne_zero_iff]

theorem chunkBits_pairwise (chunk : Nat) : (chunkBits wasm chunk).Pairwise (· < ·) :=
  List.pairwise_lt_range.filter _

def setPositions (wasm : TickModule) (tickmap : Tickmap) : List Position :=
  tickmap.bitmap.flatMap fun entry => (chunkBits wasm entry.2).map fun bit => (entry.1, bit)

theorem mem_setPositions {position : Position} :
    position ∈ setPositions wasm tickmap ↔ ∃ chunk, (position.1, chunk) ∈ tickmap.bitmap ∧
      position.2 < wasm.getChunkSize ∧ chunk.testBit position.2 = true := by
  obtain ⟨chunkIndex, bit⟩ := position
  rw [setPositions, List.mem_flatMap]
  constructor
  · rintro ⟨⟨index, chunk⟩, hentry, hmem⟩
    obtain ⟨bit', hbit, heq⟩ := List.mem_map.mp hmem
    cases heq
    exact ⟨chunk, hentry, mem_chunkBits.mp hbit⟩
  · rintro ⟨chunk, hentry, hbit⟩
    exact ⟨(chunkIndex, chunk), hentry, List.mem_map.mpr ⟨bit, mem_chunkBits.mpr hbit, rfl⟩⟩

theorem mem_setPositions_iff (hchunks : ∀ entry ∈ tickmap.bitmap, entry.2 < 2 ^ wasm.getChunkSize)
    {position : Position} : position ∈ setPositions wasm tickmap ↔ IsSet tickmap position := by
  rw [mem_setPositions]
  refine exists_congr fun chunk => and_congr_right fun hentry => ?_
  refine and_iff_right_of_imp fun hset => not_le.mp fun hle => ?_
  have hbound : chunk < 2 ^ position.2 :=
    (hchunks _ hentry).trans_le (Nat.pow_le_pow_right (by decide) hle)
  rw [Nat.testBit_lt_two_pow hbound] at hset
  cases hset

theorem pairwise_idxOf {xs : List Nat} (h : xs.Nodup) :
    xs.Pairwise fun a b => xs.idxOf a < xs.idxOf b := by
  refine List.pairwise_iff_getElem.mpr fun i j hi hj hij => ?_
  rw [h.idxOf_getElem, h.idxOf_getElem]
  exact hij

theorem setPositions_inOrder : (setPositions wasm tickmap).Pairwise (InOrder tickmap) := by
  refine List.pairwise_flatMap.mpr ⟨fun entry _ => ?_, ?_⟩
  · refine List.pairwise_map.mpr ((chunkBits_pairwise entry.2).imp fun hlt => ?_)
    exact .inr ⟨rfl, hlt⟩
  · refine (List.pairwise_map.mp (pairwise_idxOf tickmap.keys_nodup)).imp fun hlt => ?_
    intro p hp q hq
    obtain ⟨bit, -, rfl⟩ := List.mem_map.mp hp
    obtain ⟨bit', -, rfl⟩ := List.mem_map.mp hq
    exact .inl hlt

theorem setPositions_nodup : (setPositions wasm tickmap).Nodup := by
  refine setPositions_inOrder.imp fun {p q} horder heq => ?_
  subst heq
  rcases horder with hlt | ⟨-, hlt⟩
  · exact lt_irrefl _ hlt
  · exact lt_irrefl _ hlt

end Bits

def InjectiveTicks (wasm : TickModule) (tickSpacing : Nat) : Prop :=
  ∀ p q : Position, p.2 < wasm.getChunkSize → q.2 < wasm.getChunkSize →
    wasm.positionToTick p.1 p.2 tickSpacing = wasm.positionToTick q.1 q.2 tickSpacing → p = q

theorem getAllLiquidityTicks_exact {L : Type} {wasm : TickModule}
    {query : PoolKey String Nat → List Int → Except JsError (List L)} {poolKey : PoolKey String Nat}
    {tickmap : Tickmap} {tickAt : Int → L}
    (hlimit : 1 ≤ wasm.getLiquidityTicksLimit)
    (hinjective : InjectiveTicks wasm poolKey.feeTier.tickSpacing)
    (hchunks : ∀ entry ∈ tickmap.bitmap, entry.2 < 2 ^ wasm.getChunkSize)
    (hanswer : ∀ tickIndexes, tickIndexes.length ≤ wasm.getLiquidityTicksLimit →
      query poolKey tickIndexes = .ok (tickIndexes.map tickAt)) :
    ∃ positions : List Position, (∀ position, position ∈ positions ↔ IsSet tickmap position) ∧
      positions.Pairwise (InOrder tickmap) ∧
      (positions.map fun p =>
        wasm.positionToTick p.1 p.2 poolKey.feeTier.tickSpacing).Nodup ∧
      Ends (getAllLiquidityTicks wasm query poolKey tickmap) (.ok (positions.map fun p =>
        tickAt (wasm.positionToTick p.1 p.2 poolKey.feeTier.tickSpacing))) := by
  have hticks : initialisedTicks wasm poolKey tickmap =
      (setPositions wasm tickmap).map fun p =>
        wasm.positionToTick p.1 p.2 poolKey.feeTier.tickSpacing := by
    rw [initialisedTicks, setPositions, List.map_flatMap]
    simp only [List.map_map, Function.comp_def]
  refine ⟨setPositions wasm tickmap, fun position => mem_setPositions_iff hchunks,
    setPositions_inOrder, ?_, ?_⟩
  · refine setPositions_nodup.map_on fun p hp q hq heq => ?_
    obtain ⟨-, -, hpbit, -⟩ := mem_setPositions.mp hp
    obtain ⟨-, -, hqbit, -⟩ := mem_setPositions.mp hq
    exact hinjective p q hpbit hqbit heq
  · have hends : Ends (getAllLiquidityTicks wasm query poolKey tickmap)
        (.ok ((initialisedTicks wasm poolKey tickmap).map tickAt)) :=
      ends_spliceRound (fun tickIndexes _ => hanswer tickIndexes) hlimit
    rw [hticks, List.map_map] at hends
    exact hends

def smallModule : TickModule where
  getChunkSize := 64
  getLiquidityTicksLimit := 2
  positionToTick chunk bit tickSpacing := ((chunk * 64 + bit) * tickSpacing : Nat) - 221818

def smallTickmap : Tickmap where
  bitmap := [(54, 5), (57, 1)]
  keys_nodup := by decide

def smallPoolKey : PoolKey String Nat := ⟨"orai", "usdt", ⟨3000000000, 10⟩⟩

def echoTicks (_ : PoolKey String Nat) (tickIndexes : List Int) : Except JsError (List Int) :=
  .ok tickIndexes

theorem smallModule_injective : InjectiveTicks smallModule 10 := by
  rintro ⟨chunk, bit⟩ ⟨chunk', bit'⟩ hbit hbit' heq
  simp only [smallModule] at hbit hbit' heq
  refine Prod.ext ?_ ?_ <;> dsimp only <;> omega

-- Three set bits with two ticks a query
theorem getAllLiquidityTicks_exact_small :
    ∃ positions : List Position,
      (∀ position, position ∈ positions ↔ IsSet smallTickmap position) ∧
      positions.Pairwise (InOrder smallTickmap) ∧
      (positions.map fun p => smallModule.positionToTick p.1 p.2 10).Nodup ∧
      Ends (getAllLiquidityTicks smallModule echoTicks smallPoolKey smallTickmap)
        (.ok (positions.map fun p => smallModule.positionToTick p.1 p.2 10)) := by
  have hlimit : 1 ≤ smallModule.getLiquidityTicksLimit := by decide
  have hchunks : ∀ entry ∈ smallTickmap.bitmap, entry.2 < 2 ^ smallModule.getChunkSize := by decide
  have hanswer : ∀ tickIndexes : List Int,
      tickIndexes.length ≤ smallModule.getLiquidityTicksLimit →
        echoTicks smallPoolKey tickIndexes = .ok (tickIndexes.map id) :=
    fun tickIndexes _ => by rw [List.map_id, echoTicks]
  exact getAllLiquidityTicks_exact hlimit smallModule_injective hchunks
    hanswer

end OraidexSdk.OraiswapV3Handler
