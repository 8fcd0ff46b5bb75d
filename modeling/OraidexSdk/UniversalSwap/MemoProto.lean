import OraidexSdk.UniversalSwap.Memo
import OraidexSdk.Wire.Fields

namespace OraidexSdk.UniversalSwap
open Js Wire

-- Number.MAX_SAFE_INTEGER
def MAX_SAFE_INTEGER : Nat := 2 ^ 53 - 1

def tooLarge : JsError := .error "Value is larger than Number.MAX_SAFE_INTEGER"

-- An unsigned long is never below Number.MIN_SAFE_INTEGER. The limit is MAX_SAFE_INTEGER here, and
-- another one for a reader whose numbers are not doubles.
def longToNumber (limit long : Nat) : Except JsError Nat :=
  if long > limit then .error tooLarge else .ok long

namespace Memo

variable (rt : Runtime JsError) (limit : Nat)

namespace SwapOperation

def createBase : SwapOperation := ⟨"", "", ""⟩

def encode (message : SwapOperation) : List UInt8 :=
  rt.text 10 message.poolId ++ rt.text 18 message.denomIn ++ rt.text 26 message.denomOut

def fields : Fields JsError SwapOperation :=
  [(10, rt.readText fun message value => { message with poolId := value }),
    (18, rt.readText fun message value => { message with denomIn := value }),
    (26, rt.readText fun message value => { message with denomOut := value })]

def decode : Nat → Read JsError SwapOperation := Wire.decode rt (fields rt) createBase

end SwapOperation

namespace Route

def createBase : Route := ⟨"", []⟩

def encode (message : Route) : List UInt8 :=
  rt.text 10 message.offerAmount ++
    message.operations.flatMap fun v => rt.message 18 (v.encode rt)

def fields : Fields JsError Route :=
  [(10, rt.readText fun message value => { message with offerAmount := value }),
    (18, rt.readMessage (SwapOperation.decode rt) fun message value =>
      { message with operations := message.operations ++ [value] })]

def decode : Nat → Read JsError Route := Wire.decode rt (fields rt) createBase

end Route

namespace SwapExactAssetIn

def createBase : SwapExactAssetIn := ⟨[]⟩

def encode (message : SwapExactAssetIn) : List UInt8 :=
  message.operations.flatMap fun v => rt.message 10 (v.encode rt)

def fields : Fields JsError SwapExactAssetIn :=
  [(10, rt.readMessage (SwapOperation.decode rt) fun message value =>
    { message with operations := message.operations ++ [value] })]

def decode : Nat → Read JsError SwapExactAssetIn := Wire.decode rt (fields rt) createBase

end SwapExactAssetIn

namespace SmartSwapExactAssetIn

def createBase : SmartSwapExactAssetIn := ⟨[]⟩

def encode (message : SmartSwapExactAssetIn) : List UInt8 :=
  message.routes.flatMap fun v => rt.message 10 (v.encode rt)

def fields : Fields JsError SmartSwapExactAssetIn :=
  [(10, rt.readMessage (Route.decode rt) fun message value =>
    { message with routes := message.routes ++ [value] })]

def decode : Nat → Read JsError SmartSwapExactAssetIn := Wire.decode rt (fields rt) createBase

end SmartSwapExactAssetIn

namespace UserSwap

def createBase : UserSwap := ⟨"", none, none⟩

def encode (message : UserSwap) : List UInt8 :=
  rt.text 10 message.swapVenueName ++
    Runtime.optional (fun v => rt.message 18 (v.encode rt)) message.swapExactAssetIn ++
    Runtime.optional (fun v => rt.message 26 (v.encode rt)) message.smartSwapExactAssetIn

def fields : Fields JsError UserSwap :=
  [(10, rt.readText fun message value => { message with swapVenueName := value }),
    (18, rt.readMessage (SwapExactAssetIn.decode rt) fun message value =>
      { message with swapExactAssetIn := some value }),
    (26, rt.readMessage (SmartSwapExactAssetIn.decode rt) fun message value =>
      { message with smartSwapExactAssetIn := some value })]

def decode : Nat → Read JsError UserSwap := Wire.decode rt (fields rt) createBase

end UserSwap

namespace IbcTransfer

def createBase : IbcTransfer := ⟨"", "", "", "", ""⟩

def encode (message : IbcTransfer) : List UInt8 :=
  rt.text 10 message.sourceChannel ++ rt.text 18 message.sourcePort ++
    rt.text 26 message.receiver ++ rt.text 34 message.memo ++ rt.text 42 message.recoverAddress

def fields : Fields JsError IbcTransfer :=
  [(10, rt.readText fun message value => { message with sourceChannel := value }),
    (18, rt.readText fun message value => { message with sourcePort := value }),
    (26, rt.readText fun message value => { message with receiver := value }),
    (34, rt.readText fun message value => { message with memo := value }),
    (42, rt.readText fun message value => { message with recoverAddress := value })]

def decode : Nat → Read JsError IbcTransfer := Wire.decode rt (fields rt) createBase

end IbcTransfer

namespace IbcWasmTransfer

def createBase : IbcWasmTransfer := ⟨"", "", "", none, none⟩

-- The optional fields are written whenever they are there.
def encode (message : IbcWasmTransfer) : List UInt8 :=
  rt.text 10 message.localChannelId ++ rt.text 18 message.remoteAddress ++
    rt.text 26 message.remoteDenom ++
    Runtime.optional (fun v => rt.uint32 32 ++ rt.uint64 v) message.timeout ++
    Runtime.optional (fun v => rt.uint32 42 ++ rt.string v) message.memo

def fields : Fields JsError IbcWasmTransfer :=
  [(10, rt.readText fun message value => { message with localChannelId := value }),
    (18, rt.readText fun message value => { message with remoteAddress := value }),
    (26, rt.readText fun message value => { message with remoteDenom := value }),
    (32, rt.readNumber (longToNumber limit) fun message value =>
      { message with timeout := some value }),
    (42, rt.readText fun message value => { message with memo := some value })]

def decode : Nat → Read JsError IbcWasmTransfer := Wire.decode rt (fields rt limit) createBase

end IbcWasmTransfer

namespace ContractCall

def createBase : ContractCall := ⟨"", ""⟩

def encode (message : ContractCall) : List UInt8 :=
  rt.text 10 message.contractAddress ++ rt.text 18 message.msg

def fields : Fields JsError ContractCall :=
  [(10, rt.readText fun message value => { message with contractAddress := value }),
    (18, rt.readText fun message value => { message with msg := value })]

def decode : Nat → Read JsError ContractCall := Wire.decode rt (fields rt) createBase

end ContractCall

namespace Transfer

def createBase : Transfer := ⟨""⟩

def encode (message : Transfer) : List UInt8 := rt.text 10 message.toAddress

def fields : Fields JsError Transfer :=
  [(10, rt.readText fun message value => { message with toAddress := value })]

def decode : Nat → Read JsError Transfer := Wire.decode rt (fields rt) createBase

end Transfer

namespace PostAction

def createBase : PostAction := ⟨none, none, none, none⟩

def encode (message : PostAction) : List UInt8 :=
  Runtime.optional (fun v => rt.message 10 (v.encode rt)) message.ibcTransferMsg ++
    Runtime.optional (fun v => rt.message 18 (v.encode rt)) message.ibcWasmTransferMsg ++
    Runtime.optional (fun v => rt.message 26 (v.encode rt)) message.contractCall ++
    Runtime.optional (fun v => rt.message 34 (v.encode rt)) message.transferMsg

def fields : Fields JsError PostAction :=
  [(10, rt.readMessage (IbcTransfer.decode rt) fun message value =>
      { message with ibcTransferMsg := some value }),
    (18, rt.readMessage (IbcWasmTransfer.decode rt limit) fun message value =>
      { message with ibcWasmTransferMsg := some value }),
    (26, rt.readMessage (ContractCall.decode rt) fun message value =>
      { message with contractCall := some value }),
    (34, rt.readMessage (Transfer.decode rt) fun message value =>
      { message with transferMsg := some value })]

def decode : Nat → Read JsError PostAction := Wire.decode rt (fields rt limit) createBase

end PostAction

def createBase : Memo := ⟨none, "", 0, none, ""⟩

def encode (message : Memo) : List UInt8 :=
  Runtime.optional (fun v => rt.message 10 (v.encode rt)) message.userSwap ++
    rt.text 18 message.minimumReceive ++
    (if message.timeoutTimestamp ≠ 0 then rt.uint32 24 ++ rt.uint64 message.timeoutTimestamp
      else []) ++
    Runtime.optional (fun v => rt.message 34 (v.encode rt)) message.postSwapAction ++
    rt.text 42 message.recoveryAddr

def fields : Fields JsError Memo :=
  [(10, rt.readMessage (UserSwap.decode rt) fun message value =>
      { message with userSwap := some value }),
    (18, rt.readText fun message value => { message with minimumReceive := value }),
    (24, rt.readNumber (longToNumber limit) fun message value =>
      { message with timeoutTimestamp := value }),
    (34, rt.readMessage (PostAction.decode rt limit) fun message value =>
      { message with postSwapAction := some value }),
    (42, rt.readText fun message value => { message with recoveryAddr := value })]

-- The input is the whole of the reader.
def decodeWithin (input : List UInt8) : Except JsError Memo :=
  decodeInput rt (fields rt limit) createBase input

def decode (input : List UInt8) : Except JsError Memo := decodeWithin rt MAX_SAFE_INTEGER input

end Memo

end OraidexSdk.UniversalSwap
