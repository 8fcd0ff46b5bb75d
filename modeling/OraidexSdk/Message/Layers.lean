import OraidexSdk.Message.Build
import OraidexSdk.Loops.Envelope

namespace OraidexSdk.Message
open Js

inductive Exit where
  | pay (toAddress : String)
  | packet (channel receiver : String) (memo : MemoText)
  | wasm (info : IbcWasmInfo MemoText)
  | call (contract : String) (msg : TonMsg)

structure Layer where
  operations : List SwapOperation
  exit : Exit

def Exit.memo : Exit → MemoText
  | packet _ _ memo => memo
  | wasm info => info.memo
  | _ => .empty

def PostAction.exit : PostAction MemoText → Exit
  | transfer toAddress => .pay toAddress
  | ibcTransfer info => .packet info.sourceChannel info.receiver info.memo
  | contractCall contract msg => .call contract msg
  | ibcWasmTransfer info => .wasm info

def MemoPostAction.exit : MemoPostAction MemoText → Exit
  | transferMsg toAddress => .pay toAddress
  | ibcTransferMsg msg => .packet msg.sourceChannel msg.receiver msg.memo
  | contractCall contract msg => .call contract msg
  | ibcWasmTransferMsg info => .wasm info

-- The same action in the field names of the proto memo; a packet there also names
-- the port.
def PostAction.proto : PostAction MemoText → MemoPostAction MemoText
  | transfer toAddress => .transferMsg toAddress
  | ibcTransfer info =>
      .ibcTransferMsg ⟨info.sourceChannel, "transfer", info.receiver, info.memo, info.recoverAddress⟩
  | contractCall contract msg => .contractCall contract msg
  | ibcWasmTransfer info => .ibcWasmTransferMsg info

theorem PostAction.proto_exit (a : PostAction MemoText) : a.proto.exit = a.exit := by
  cases a <;> rfl

def SwapAndAction.layer (m : SwapAndAction MemoText) : Layer := ⟨m.operations, m.postSwapAction.exit⟩

def Memo.layer (m : Memo MemoText) : Layer :=
  ⟨(m.userSwap.map (·.operations)).getD [], m.postSwapAction.exit⟩

def Forward.layer (f : Forward MemoText) : Layer :=
  ⟨[], .packet f.channel f.receiver (f.next.getD .empty)⟩

def openMemo : MemoText → Option Layer
  | .text _ => none
  | .json (.forward f) => some f.layer
  | .json (.wasm _ (.swapAndAction m)) => some m.layer
  | .json (.wasm _ (.ibcHooksReceive _ _ (.proto m))) => some m.layer
  | .json (.wasm _ (.ibcHooksReceive _ _ _)) => none
  | .proto m => some m.layer

def ContractMsg.layer (contract : String) : ContractMsg → Layer
  | .swapAndAction m => m.layer
  | .transferBack m | .transferToRemote m => ⟨[], .wasm m.info⟩
  | .ton msg => ⟨[], .call contract msg⟩

def ExecuteMsg.layer (contract : String) : ExecuteMsg → Layer
  | .call msg => msg.layer contract
  | .send contract _ msg => msg.layer contract

def openMessage : EncodeObject → Layer
  | .msgTransfer value => ⟨[], .packet value.sourceChannel value.receiver value.memo⟩
  | .msgExecuteContract value => value.msg.layer value.contract

noncomputable def MemoText.size : MemoText → Nat
  | .text _ => 0
  | m => sizeOf m

theorem MemoText.size_le (m : MemoText) : m.size ≤ sizeOf m := by
  cases m <;> simp [size]

theorem postAction_memo_lt (a : PostAction MemoText) : a.exit.memo.size < sizeOf a := by
  cases a with
  | ibcTransfer info =>
    have h := info.memo.size_le
    cases info
    simp only [PostAction.exit, Exit.memo, PostAction.ibcTransfer.sizeOf_spec,
      IbcInfo.mk.sizeOf_spec] at h ⊢
    omega
  | ibcWasmTransfer info =>
    have h := info.memo.size_le
    cases info
    simp only [PostAction.exit, Exit.memo, PostAction.ibcWasmTransfer.sizeOf_spec,
      IbcWasmInfo.mk.sizeOf_spec] at h ⊢
    omega
  | _ => simp [PostAction.exit, Exit.memo, MemoText.empty, MemoText.size]

theorem memoPostAction_memo_lt (a : MemoPostAction MemoText) : a.exit.memo.size < sizeOf a := by
  cases a with
  | ibcTransferMsg msg =>
    have h := msg.memo.size_le
    cases msg
    simp only [MemoPostAction.exit, Exit.memo, MemoPostAction.ibcTransferMsg.sizeOf_spec,
      IbcTransferMsg.mk.sizeOf_spec] at h ⊢
    omega
  | ibcWasmTransferMsg info =>
    have h := info.memo.size_le
    cases info
    simp only [MemoPostAction.exit, Exit.memo, MemoPostAction.ibcWasmTransferMsg.sizeOf_spec,
      IbcWasmInfo.mk.sizeOf_spec] at h ⊢
    omega
  | _ => simp [MemoPostAction.exit, Exit.memo, MemoText.empty, MemoText.size]

theorem forward_memo_lt (f : Forward MemoText) : f.layer.exit.memo.size < sizeOf f := by
  cases f with
  | mk receiver port channel timeout retries next =>
    cases next with
    | none => simp [Forward.layer, Exit.memo, MemoText.empty, MemoText.size]
    | some m =>
      have h := m.size_le
      simp only [Forward.layer, Exit.memo, Option.getD_some, Forward.mk.sizeOf_spec,
        Option.some.sizeOf_spec]
      omega

theorem openMemo_lt (m : MemoText) (l : Layer) (h : openMemo m = some l) :
    l.exit.memo.size < m.size := by
  cases m with
  | text s => cases h
  | proto memo =>
    cases h
    have hlt := memoPostAction_memo_lt memo.postSwapAction
    cases memo
    simp only [Memo.layer, MemoText.size, MemoText.proto.sizeOf_spec, Memo.mk.sizeOf_spec] at hlt ⊢
    omega
  | json hook =>
    cases hook with
    | forward f =>
      cases h
      have hlt := forward_memo_lt f
      simp only [MemoText.size, MemoText.json.sizeOf_spec, HookJson.forward.sizeOf_spec] at hlt ⊢
      omega
    | wasm contract msg =>
      cases msg with
      | swapAndAction action =>
        cases h
        have hlt := postAction_memo_lt action.postSwapAction
        cases action
        simp only [SwapAndAction.layer, MemoText.size, MemoText.json.sizeOf_spec,
          HookJson.wasm.sizeOf_spec, HookMsg.swapAndAction.sizeOf_spec,
          SwapAndAction.mk.sizeOf_spec] at hlt ⊢
        omega
      | ibcHooksReceive func oraiReceiver args =>
        cases args with
        | proto memo =>
          cases h
          have hlt := memoPostAction_memo_lt memo.postSwapAction
          cases memo
          simp only [Memo.layer, MemoText.size, MemoText.json.sizeOf_spec,
            HookJson.wasm.sizeOf_spec, HookMsg.ibcHooksReceive.sizeOf_spec,
            MemoText.proto.sizeOf_spec, Memo.mk.sizeOf_spec] at hlt ⊢
          omega
        | _ => cases h

def envelope : Envelope MemoText Layer := ⟨openMemo, (·.exit.memo), MemoText.size, openMemo_lt⟩

def unwrapMessage (msg : EncodeObject) : List Layer :=
  openMessage msg :: envelope.unwrap (openMessage msg).exit.memo

end OraidexSdk.Message
