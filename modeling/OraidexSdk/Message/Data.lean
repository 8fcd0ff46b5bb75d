import OraidexSdk.SmartRouter.Data
import OraidexSdk.Js.Text

namespace OraidexSdk.Message
open Js

inductive ConverterMsg where
  | convertReverse (nativeDenom : String)
  | convert
deriving DecidableEq, Repr

inductive Pool where
  | poolId (id : String)
  | converter (contract : String) (msg : ConverterMsg)
deriving DecidableEq, Repr

structure SwapOperation where
  denomIn : String
  denomOut : String
  pool : Pool
deriving DecidableEq, Repr

inductive MinAsset where
  | cw20 (amount address : String)
  | native (amount denom : String)
deriving DecidableEq, Repr

structure TonPayload where
  toAddress : String
  denom : String
  timeout : Nat
  recoveryAddr : String
deriving DecidableEq, Repr

inductive TonMsg where
  | bare (payload : TonPayload)
  | bridgeToTon (payload : TonPayload)
deriving DecidableEq, Repr

def TonMsg.payload : TonMsg → TonPayload
  | bare p | bridgeToTon p => p

section Memo

-- M stands for the memo strings carried inside.
variable (M : Type)

structure IbcInfo where
  sourceChannel : String
  receiver : String
  memo : M
  recoverAddress : String

structure IbcWasmInfo where
  localChannelId : String
  remoteAddress : String
  remoteDenom : String
  memo : M

inductive PostAction where
  | transfer (toAddress : String)
  | ibcTransfer (ibcInfo : IbcInfo M)
  | contractCall (contractAddress : String) (msg : TonMsg)
  | ibcWasmTransfer (ibcWasmInfo : IbcWasmInfo M)

structure SwapAndAction where
  swapVenueName : String
  operations : List SwapOperation
  minAsset : MinAsset
  timeoutTimestamp : Nat
  postSwapAction : PostAction M

structure IbcTransferMsg where
  sourceChannel : String
  sourcePort : String
  receiver : String
  memo : M
  recoverAddress : String

inductive MemoPostAction where
  | transferMsg (toAddress : String)
  | ibcTransferMsg (msg : IbcTransferMsg M)
  | contractCall (contractAddress : String) (msg : TonMsg)
  | ibcWasmTransferMsg (msg : IbcWasmInfo M)

structure UserSwap where
  swapVenueName : String
  operations : List SwapOperation
deriving DecidableEq, Repr

structure Memo where
  userSwap : Option UserSwap
  minimumReceive : String
  timeoutTimestamp : Nat
  postSwapAction : MemoPostAction M
  recoveryAddr : String

inductive HookMsg where
  | swapAndAction (msg : SwapAndAction M)
  | ibcHooksReceive (func oraiReceiver : String) (args : M)

structure Forward where
  receiver : String
  port : String
  channel : String
  timeout : Nat
  retries : Nat
  next : Option M

inductive HookJson where
  | forward (forward : Forward M)
  | wasm (contract : String) (msg : HookMsg M)

end Memo

-- JSON.stringify and the base64 of Memo.encode are free constructors: they are
-- injective and their texts are never mixed up.
inductive MemoText where
  | text (s : String)
  | json (hook : HookJson MemoText)
  | proto (memo : Memo MemoText)

namespace MemoText

def empty : MemoText := .text ""

-- memo || undefined
def orUndefined : MemoText → Option MemoText
  | .text "" => none
  | m => some m

end MemoText

structure Coin where
  denom : String
  amount : String
deriving DecidableEq, Repr

structure TransferBackMsg where
  info : IbcWasmInfo MemoText
  timeout : Nat

inductive ContractMsg where
  | swapAndAction (msg : SwapAndAction MemoText)
  | transferBack (msg : TransferBackMsg)
  | transferToRemote (msg : TransferBackMsg)
  | ton (msg : TonMsg)

inductive ExecuteMsg where
  | call (msg : ContractMsg)
  | send (contract amount : String) (msg : ContractMsg)

structure MsgTransfer where
  sourcePort : String
  sourceChannel : String
  receiver : String
  token : Coin
  sender : String
  memo : MemoText
  timeoutTimestamp : Nat

structure MsgExecuteContract where
  sender : String
  contract : String
  msg : ExecuteMsg
  funds : List Coin

inductive EncodeObject where
  | msgTransfer (value : MsgTransfer)
  | msgExecuteContract (value : MsgExecuteContract)

structure BridgeMsgInfo where
  amount : String
  sourceChannel : String
  sourcePort : String
  memo : MemoText
  receiver : String
  timeout : Nat
  fromToken : String
  toToken : String
  fromChain : String
  toChain : String

structure MiddlewareResponse where
  memo : MemoText
  receiver : String

end OraidexSdk.Message
