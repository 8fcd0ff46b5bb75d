import OraidexSdk.Js.Number
import OraidexSdk.Ordered.Entries

namespace OraidexSdk.IbcRouting
open Js

abbrev Uinteger := UInt32
abbrev Hugeint := BitVec 128

structure EvmState where
  txHash : Option String
  height : Option Uinteger
  prevState : Option String
  prevTxHash : Option String
  nextState : Option String
  destination : Option String
  fromAmount : Option Hugeint
  oraiBridgeChannelId : Option String
  oraiReceiver : Option String
  destinationDenom : Option String
  destinationChannelId : Option String
  destinationReceiver : Option String
  eventNonce : Uinteger
  deriving DecidableEq

structure OraiBridgeState where
  txHash : Option String
  height : Option Uinteger
  prevState : Option String
  prevTxHash : Option String
  nextState : Option String
  eventNonce : Option Uinteger
  packetSequence : Uinteger
  amount : Option Hugeint
  denom : Option String
  memo : Option String
  receiver : Option String
  sender : Option String
  srcPort : Option String
  srcChannel : Option String
  dstPort : Option String
  dstChannel : Option String
  deriving DecidableEq

structure OraichainState where
  txHash : Option String
  height : Option Uinteger
  prevState : Option String
  prevTxHash : Option String
  nextState : Option String
  packetSequence : Uinteger
  packetAck : Option String
  nextPacketSequence : Option Uinteger
  nextMemo : Option String
  nextAmount : Option Hugeint
  nextReceiver : Option String
  nextDestinationDenom : Option String
  deriving DecidableEq

-- The rows of each table, with its primary key.
structure Tables where
  evmState : List EvmState
  oraiBridgeState : List OraiBridgeState
  oraichainState : List OraichainState
  evmState_key : Entries.Distinct EvmState.eventNonce evmState
  oraiBridgeState_key : Entries.Distinct OraiBridgeState.packetSequence oraiBridgeState
  oraichainState_key : Entries.Distinct OraichainState.packetSequence oraichainState

inductive Cell where
  | null
  | varchar (value : String)
  | uinteger (value : Uinteger)

inductive Parameter where
  | text (value : String)
  | number (value : Number ℚ)

def varchar : Option String → Cell
  | some value => .varchar value
  | none => .null

def uinteger : Option Uinteger → Cell
  | some value => .uinteger value
  | none => .null

structure Query (Row : Type) where
  table : Tables → List Row
  column : Row → Cell

namespace sqlCommands.query

def evmStateByHash : Query EvmState := ⟨Tables.evmState, fun row => varchar row.txHash⟩

def evmStateByNonce : Query EvmState := ⟨Tables.evmState, fun row => .uinteger row.eventNonce⟩

def oraiBridgeStateByNonce : Query OraiBridgeState :=
  ⟨Tables.oraiBridgeState, fun row => uinteger row.eventNonce⟩

def oraiBridgeStateBySequence : Query OraiBridgeState :=
  ⟨Tables.oraiBridgeState, fun row => .uinteger row.packetSequence⟩

def oraichainStateByPacketSequence : Query OraichainState :=
  ⟨Tables.oraichainState, fun row => .uinteger row.packetSequence⟩

end sqlCommands.query

open sqlCommands

section BackEnds

-- The number that the engine takes a text to be equal to, if there is one.
variable (textNumber : String → Option ℚ)

def Cell.equals : Cell → Parameter → Bool
  | .varchar value, .text parameter => value = parameter
  | .varchar value, .number (.finite parameter) => textNumber value = some parameter
  | .uinteger value, .number (.finite parameter) => (value.toNat : ℚ) = parameter
  | .uinteger value, .text parameter => textNumber parameter = some (value.toNat : ℚ)
  | _, _ => false

variable {Row : Type}

def all (tables : Tables) (query : Query Row) (parameter : Parameter) : List Row :=
  (query.table tables).filter fun row => (query.column row).equals textNumber parameter

-- result[0], or the empty array as none.
def first : List Row → Option Row
  | row :: _ => some row
  | [] => none

def answer (tables : Tables) (query : Query Row) (parameter : Parameter) : Option Row :=
  first (all textNumber tables query parameter)

namespace DuckDbNode

def queryInitialEvmStateByHash (tables : Tables) (txHash : String) : Option EvmState :=
  answer textNumber tables query.evmStateByHash (.text txHash)

def queryInitialEvmStateByNonce (tables : Tables) (nonce : Number ℚ) : Option EvmState :=
  answer textNumber tables query.evmStateByNonce (.number nonce)

def queryOraiBridgeStateByNonce (tables : Tables) (eventNonce : Number ℚ) :
    Option OraiBridgeState :=
  answer textNumber tables query.oraiBridgeStateByNonce (.number eventNonce)

def queryOraiBridgeStateBySequence (tables : Tables) (packetSequence : Number ℚ) :
    Option OraiBridgeState :=
  answer textNumber tables query.oraiBridgeStateBySequence (.number packetSequence)

def queryOraichainStateBySequence (tables : Tables) (packetSequence : Number ℚ) :
    Option OraichainState :=
  answer textNumber tables query.oraichainStateByPacketSequence (.number packetSequence)

end DuckDbNode

namespace DuckDbWasm

def queryInitialEvmStateByHash (tables : Tables) (txHash : String) : Option EvmState :=
  answer textNumber tables query.evmStateByHash (.text txHash)

-- The statement prepared here is the one by hash.
def queryInitialEvmStateByNonce (tables : Tables) (nonce : Number ℚ) : Option EvmState :=
  answer textNumber tables query.evmStateByHash (.number nonce)

def queryOraiBridgeStateByNonce (tables : Tables) (eventNonce : Number ℚ) :
    Option OraiBridgeState :=
  answer textNumber tables query.oraiBridgeStateByNonce (.number eventNonce)

def queryOraiBridgeStateBySequence (tables : Tables) (packetSequence : Number ℚ) :
    Option OraiBridgeState :=
  answer textNumber tables query.oraiBridgeStateBySequence (.number packetSequence)

def queryOraichainStateBySequence (tables : Tables) (packetSequence : Number ℚ) :
    Option OraichainState :=
  answer textNumber tables query.oraichainStateByPacketSequence (.number packetSequence)

end DuckDbWasm

structure Alike (tables : Tables) : Prop where
  evmStateByHash : ∀ txHash,
    DuckDbNode.queryInitialEvmStateByHash textNumber tables txHash =
      DuckDbWasm.queryInitialEvmStateByHash textNumber tables txHash
  evmStateByNonce : ∀ nonce,
    DuckDbNode.queryInitialEvmStateByNonce textNumber tables nonce =
      DuckDbWasm.queryInitialEvmStateByNonce textNumber tables nonce
  oraiBridgeStateByNonce : ∀ eventNonce,
    DuckDbNode.queryOraiBridgeStateByNonce textNumber tables eventNonce =
      DuckDbWasm.queryOraiBridgeStateByNonce textNumber tables eventNonce
  oraiBridgeStateBySequence : ∀ packetSequence,
    DuckDbNode.queryOraiBridgeStateBySequence textNumber tables packetSequence =
      DuckDbWasm.queryOraiBridgeStateBySequence textNumber tables packetSequence
  oraichainStateBySequence : ∀ packetSequence,
    DuckDbNode.queryOraichainStateBySequence textNumber tables packetSequence =
      DuckDbWasm.queryOraichainStateBySequence textNumber tables packetSequence

-- The text of the hash is, as a number, the nonce of its own row.
def HashIsNonce (row : EvmState) : Prop :=
  row.txHash.bind textNumber = some (row.eventNonce.toNat : ℚ)

variable {textNumber} {tables : Tables} {q : Query Row} {parameter : Parameter} {row : Row}

theorem first_filter (p : Row → Bool) (rows : List Row) : first (rows.filter p) = rows.find? p := by
  induction rows with
  | nil => rfl
  | cons row rows ih =>
    by_cases hrow : p row
    · simp [hrow, first]
    · simpa [hrow] using ih

theorem answer_eq_find : answer textNumber tables q parameter =
    (q.table tables).find? fun row => (q.column row).equals textNumber parameter :=
  first_filter _ _

theorem equals_of_answer (h : answer textNumber tables q parameter = some row) :
    (q.column row).equals textNumber parameter := by
  rw [answer_eq_find] at h
  simpa using List.find?_some h

@[simp] theorem equals_nan (cell : Cell) : cell.equals textNumber (.number .nan) = false := by
  cases cell <;> rfl

@[simp] theorem equals_infinity (cell : Cell) (negative : Bool) :
    cell.equals textNumber (.number (.infinity negative)) = false := by
  cases cell <;> rfl

theorem hash_equals_number (row : EvmState) (n : ℚ) :
    (query.evmStateByHash.column row).equals textNumber (.number (.finite n)) = true ↔
      row.txHash.bind textNumber = some n := by
  cases h : row.txHash <;> simp [query.evmStateByHash, varchar, Cell.equals, h]

theorem nonce_equals_number (row : EvmState) (n : ℚ) :
    (query.evmStateByNonce.column row).equals textNumber (.number (.finite n)) = true ↔
      (row.eventNonce.toNat : ℚ) = n := by
  simp [query.evmStateByNonce, Cell.equals]

theorem answer_by_own_nonce {row : EvmState} (h : row ∈ tables.evmState) :
    DuckDbNode.queryInitialEvmStateByNonce textNumber tables (.finite row.eventNonce.toNat) =
      some row := by
  have hkey := Entries.get_of_mem tables.evmState_key h
  rw [DuckDbNode.queryInitialEvmStateByNonce, answer_eq_find, ← hkey, Entries.get]
  congr 1
  funext row'
  rw [Bool.eq_iff_iff, nonce_equals_number]
  simp [UInt32.toNat_inj]

theorem back_ends_alike_iff (textNumber : String → Option ℚ) (tables : Tables) :
    Alike textNumber tables ↔ ∀ row ∈ tables.evmState, HashIsNonce textNumber row := by
  constructor
  · intro halike row hrow
    have hwasm := (halike.evmStateByNonce _).symm.trans (answer_by_own_nonce hrow)
    exact (hash_equals_number row _).mp (equals_of_answer hwasm)
  · intro h
    refine ⟨fun _ => rfl, fun nonce => ?_, fun _ => rfl, fun _ => rfl, fun _ => rfl⟩
    rw [DuckDbNode.queryInitialEvmStateByNonce, DuckDbWasm.queryInitialEvmStateByNonce, answer,
      answer, all, all]
    refine congrArg first (List.filter_congr fun row hrow => ?_)
    cases nonce with
    | nan => rw [equals_nan, equals_nan]
    | infinity negative => rw [equals_infinity, equals_infinity]
    | finite n =>
      rw [Bool.eq_iff_iff, hash_equals_number, nonce_equals_number, h row hrow]
      simp

end BackEnds

def decimalText (text : String) : Option ℚ := scientific text.toList

def bridgeTransfer : EvmState :=
  { txHash := some "0xa1", height := some 5, prevState := none, prevTxHash := none,
    nextState := some "OraiBridgeState", destination := none, fromAmount := some 1000,
    oraiBridgeChannelId := some "channel-1", oraiReceiver := some "orai1", destinationDenom := none,
    destinationChannelId := none, destinationReceiver := none, eventNonce := 7 }

def oneTransfer : Tables :=
  ⟨[bridgeTransfer], [], [], List.nodup_singleton _, List.nodup_nil, List.nodup_nil⟩

theorem nonce_lost_on_wasm :
    DuckDbNode.queryInitialEvmStateByNonce decimalText oneTransfer (.finite 7) =
        some bridgeTransfer ∧
      DuckDbWasm.queryInitialEvmStateByNonce decimalText oneTransfer (.finite 7) = none ∧
      ¬ Alike decimalText oneTransfer := by
  have hnode : DuckDbNode.queryInitialEvmStateByNonce decimalText oneTransfer (.finite 7) =
      some bridgeTransfer := by decide +kernel
  have hwasm : DuckDbWasm.queryInitialEvmStateByNonce decimalText oneTransfer (.finite 7) =
      none := by decide +kernel
  refine ⟨hnode, hwasm, fun halike => ?_⟩
  have hsame := halike.evmStateByNonce (.finite 7)
  rw [hnode, hwasm] at hsame
  cases hsame

end OraidexSdk.IbcRouting
