import OraidexSdk.UniversalSwap.MemoProto

namespace OraidexSdk.UniversalSwap
open Js Wire

theorem longToNumber_safe {limit long : Nat} (h : long ≤ limit) :
    longToNumber limit long = .ok long := if_neg (Nat.not_lt.mpr h)

theorem longToNumber_large {limit long : Nat} (h : limit < long) :
    longToNumber limit long = .error tooLarge := if_pos h

theorem longToNumber_cases (limit long : Nat) :
    longToNumber limit long = .ok long ∨ longToNumber limit long = .error tooLarge := by
  by_cases h : long ≤ limit
  · exact .inl (longToNumber_safe h)
  · exact .inr (longToNumber_large (Nat.lt_of_not_le h))

namespace Memo

def IbcWasmTransfer.timeouts (message : IbcWasmTransfer) : List Nat := message.timeout.toList

def PostAction.timeouts (message : PostAction) : List Nat :=
  (message.ibcWasmTransferMsg.map IbcWasmTransfer.timeouts).getD []

def numbers (memo : Memo) : List Nat :=
  memo.timeoutTimestamp :: (memo.postSwapAction.map PostAction.timeouts).getD []

def Within (limit : Nat) (numbers : List Nat) : Prop := ∀ number ∈ numbers, number ≤ limit

instance (limit : Nat) (numbers : List Nat) : Decidable (Within limit numbers) :=
  inferInstanceAs (Decidable (∀ _ ∈ _, _))

abbrev Safe : List Nat → Prop := Within MAX_SAFE_INTEGER

def Fits (numbers : List Nat) : Prop := ∀ number ∈ numbers, number < 2 ^ 64

instance (numbers : List Nat) : Decidable (Fits numbers) := inferInstanceAs (Decidable (∀ _ ∈ _, _))

def checked {σ : Type} (limit : Nat) (numbers : List Nat) (message : σ) : Except JsError σ :=
  if Within limit numbers then .ok message else .error tooLarge

theorem PostAction.timeouts_of_mem {message : PostAction} {transfer : IbcWasmTransfer}
    (h : transfer ∈ message.ibcWasmTransferMsg) : message.timeouts = transfer.timeouts := by
  rw [PostAction.timeouts, Option.mem_def.mp h]
  rfl

theorem numbers_of_mem {memo : Memo} {action : PostAction} (h : action ∈ memo.postSwapAction) :
    memo.numbers = memo.timeoutTimestamp :: action.timeouts := by
  rw [numbers, Option.mem_def.mp h]
  rfl

theorem checked_safe {σ : Type} {limit : Nat} {numbers : List Nat} (h : Within limit numbers)
    (message : σ) :
    checked limit numbers message = .ok message := if_pos h

theorem checked_large {σ : Type} {limit : Nat} {numbers : List Nat} (h : ¬ Within limit numbers)
    (message : σ) :
    checked limit numbers message = .error tooLarge := if_neg h

theorem within_cons {limit number : Nat} {numbers : List Nat} :
    Within limit (number :: numbers) ↔ number ≤ limit ∧ Within limit numbers := List.forall_mem_cons

theorem Fits.within {numbers : List Nat} (h : Fits numbers) : Within (2 ^ 64 - 1) numbers :=
  fun number hmem => Nat.le_sub_one_of_lt (h number hmem)

theorem within_append {limit : Nat} {front rest : List Nat} :
    Within limit (front ++ rest) ↔ Within limit front ∧ Within limit rest :=
  List.forall_mem_append

theorem checked_cons {σ : Type} (limit number : Nat) (numbers : List Nat) (message : σ) :
    checked limit (number :: numbers) message =
      longToNumber limit number >>= fun _ => checked limit numbers message := by
  by_cases h : number ≤ limit
  · rw [longToNumber_safe h, Outcome.ok_bind]
    by_cases hnumbers : Within limit numbers
    · rw [checked_safe hnumbers, checked_safe (within_cons.mpr ⟨h, hnumbers⟩)]
    · rw [checked_large hnumbers, checked_large fun hsafe => hnumbers (within_cons.mp hsafe).2]
  · rw [longToNumber_large (Nat.lt_of_not_le h),
      checked_large fun hsafe => h (within_cons.mp hsafe).1]
    rfl

section Chunks

variable (rt : Runtime JsError) (limit : Nat)

def SwapOperation.chunks (message : SwapOperation) : List (Chunk JsError SwapOperation) :=
  Chunk.text rt 10 (fun message value => { message with poolId := value }) message.poolId ++
    Chunk.text rt 18 (fun message value => { message with denomIn := value }) message.denomIn ++
    Chunk.text rt 26 (fun message value => { message with denomOut := value }) message.denomOut

def operationChunk {σ : Type} (tag : Nat) (push : σ → SwapOperation → σ)
    (operation : SwapOperation) : Chunk JsError σ :=
  Chunk.message rt tag push (operation.encode rt) (.ok operation)

def Route.chunks (message : Route) : List (Chunk JsError Route) :=
  Chunk.text rt 10 (fun message value => { message with offerAmount := value })
      message.offerAmount ++
    message.operations.map (operationChunk rt 18 fun message value =>
      { message with operations := message.operations ++ [value] })

def SwapExactAssetIn.chunks (message : SwapExactAssetIn) : List (Chunk JsError SwapExactAssetIn) :=
  message.operations.map (operationChunk rt 10 fun message value =>
    { message with operations := message.operations ++ [value] })

def SmartSwapExactAssetIn.chunks (message : SmartSwapExactAssetIn) :
    List (Chunk JsError SmartSwapExactAssetIn) :=
  message.routes.map fun route => Chunk.message rt 10 (fun message value =>
    { message with routes := message.routes ++ [value] }) (route.encode rt) (.ok route)

def UserSwap.chunks (message : UserSwap) : List (Chunk JsError UserSwap) :=
  Chunk.text rt 10 (fun message value => { message with swapVenueName := value })
      message.swapVenueName ++
    Chunk.optional (fun v => Chunk.message rt 18 (fun message value =>
      { message with swapExactAssetIn := some value }) (v.encode rt) (.ok v))
      message.swapExactAssetIn ++
    Chunk.optional (fun v => Chunk.message rt 26 (fun message value =>
      { message with smartSwapExactAssetIn := some value }) (v.encode rt) (.ok v))
      message.smartSwapExactAssetIn

def IbcTransfer.chunks (message : IbcTransfer) : List (Chunk JsError IbcTransfer) :=
  Chunk.text rt 10 (fun message value => { message with sourceChannel := value })
      message.sourceChannel ++
    Chunk.text rt 18 (fun message value => { message with sourcePort := value }) message.sourcePort ++
    Chunk.text rt 26 (fun message value => { message with receiver := value }) message.receiver ++
    Chunk.text rt 34 (fun message value => { message with memo := value }) message.memo ++
    Chunk.text rt 42 (fun message value => { message with recoverAddress := value })
      message.recoverAddress

def IbcWasmTransfer.chunks (message : IbcWasmTransfer) : List (Chunk JsError IbcWasmTransfer) :=
  Chunk.text rt 10 (fun message value => { message with localChannelId := value })
      message.localChannelId ++
    Chunk.text rt 18 (fun message value => { message with remoteAddress := value })
      message.remoteAddress ++
    Chunk.text rt 26 (fun message value => { message with remoteDenom := value })
      message.remoteDenom ++
    Chunk.optional (fun v => ⟨rt.uint32 32 ++ rt.uint64 v, fun message =>
      (fun value => { message with timeout := some value }) <$> longToNumber limit v⟩)
      message.timeout ++
    Chunk.optional (fun v => ⟨rt.uint32 42 ++ rt.string v, fun message =>
      .ok { message with memo := some v }⟩) message.memo

def ContractCall.chunks (message : ContractCall) : List (Chunk JsError ContractCall) :=
  Chunk.text rt 10 (fun message value => { message with contractAddress := value })
      message.contractAddress ++
    Chunk.text rt 18 (fun message value => { message with msg := value }) message.msg

def Transfer.chunks (message : Transfer) : List (Chunk JsError Transfer) :=
  Chunk.text rt 10 (fun message value => { message with toAddress := value }) message.toAddress

def PostAction.chunks (message : PostAction) : List (Chunk JsError PostAction) :=
  Chunk.optional (fun v => Chunk.message rt 10 (fun message value =>
      { message with ibcTransferMsg := some value }) (v.encode rt) (.ok v)) message.ibcTransferMsg ++
    Chunk.optional (fun v => Chunk.message rt 18 (fun message value =>
      { message with ibcWasmTransferMsg := some value }) (v.encode rt) (checked limit v.timeouts v))
      message.ibcWasmTransferMsg ++
    Chunk.optional (fun v => Chunk.message rt 26 (fun message value =>
      { message with contractCall := some value }) (v.encode rt) (.ok v)) message.contractCall ++
    Chunk.optional (fun v => Chunk.message rt 34 (fun message value =>
      { message with transferMsg := some value }) (v.encode rt) (.ok v)) message.transferMsg

def chunks (message : Memo) : List (Chunk JsError Memo) :=
  Chunk.optional (fun v => Chunk.message rt 10 (fun message value =>
      { message with userSwap := some value }) (v.encode rt) (.ok v)) message.userSwap ++
    Chunk.text rt 18 (fun message value => { message with minimumReceive := value })
      message.minimumReceive ++
    (if message.timeoutTimestamp ≠ 0 then [⟨rt.uint32 24 ++ rt.uint64 message.timeoutTimestamp,
      fun m => (fun value => { m with timeoutTimestamp := value }) <$>
        longToNumber limit message.timeoutTimestamp⟩] else []) ++
    Chunk.optional (fun v => Chunk.message rt 34 (fun message value =>
      { message with postSwapAction := some value }) (v.encode rt) (checked limit v.timeouts v))
      message.postSwapAction ++
    Chunk.text rt 42 (fun message value => { message with recoveryAddr := value })
      message.recoveryAddr

theorem bytesOf_chunks (memo : Memo) : Chunk.bytesOf (memo.chunks rt limit) = memo.encode rt := by
  simp only [chunks, encode, Chunk.bytesOf_append, Chunk.bytesOf_optional, Chunk.bytesOf_text,
    Chunk.message]
  split <;> simp

def merge (earlier later : Memo) : Memo where
  userSwap := later.userSwap <|> earlier.userSwap
  minimumReceive := if later.minimumReceive ≠ "" then later.minimumReceive else earlier.minimumReceive
  timeoutTimestamp :=
    if later.timeoutTimestamp ≠ 0 then later.timeoutTimestamp else earlier.timeoutTimestamp
  postSwapAction := later.postSwapAction <|> earlier.postSwapAction
  recoveryAddr := if later.recoveryAddr ≠ "" then later.recoveryAddr else earlier.recoveryAddr

theorem merge_createBase (memo : Memo) : merge createBase memo = memo := by
  obtain ⟨userSwap, minimumReceive, timeoutTimestamp, action, recoveryAddr⟩ := memo
  simp [merge, createBase, eq_comm]

theorem apply_timeoutTimestamp (timeoutTimestamp : Nat) (memo : Memo) :
    Chunk.apply (if timeoutTimestamp ≠ 0 then [⟨rt.uint32 24 ++ rt.uint64 timeoutTimestamp,
      fun m => (fun value => { m with timeoutTimestamp := value }) <$>
        longToNumber limit timeoutTimestamp⟩] else []) memo =
      longToNumber limit timeoutTimestamp >>= fun _ => .ok { memo with
        timeoutTimestamp := if timeoutTimestamp ≠ 0 then timeoutTimestamp else memo.timeoutTimestamp } := by
  by_cases h : timeoutTimestamp = 0
  · subst h
    rfl
  · simp only [if_pos h, Chunk.apply_cons]
    rcases longToNumber_cases limit timeoutTimestamp with hnumber | hnumber <;> rw [hnumber] <;> rfl

theorem apply_postSwapAction (action : Option PostAction) (memo : Memo) :
    Chunk.apply (Chunk.optional (fun v => Chunk.message rt 34 (fun message value =>
      { message with postSwapAction := some value }) (v.encode rt) (checked limit v.timeouts v))
      action) memo =
      checked limit ((action.map PostAction.timeouts).getD [])
        { memo with postSwapAction := action <|> memo.postSwapAction } := by
  rw [Chunk.apply_optional]
  cases action with
  | none => rfl
  | some action =>
    by_cases hsafe : Within limit action.timeouts
    · simp [Chunk.message, checked_safe hsafe]
    · simp [Chunk.message, checked_large hsafe]

theorem apply_chunks (earlier later : Memo) :
    Chunk.apply (later.chunks rt limit) earlier =
      checked limit later.numbers (merge earlier later) := by
  obtain ⟨userSwap, minimumReceive, timeoutTimestamp, action, recoveryAddr⟩ := later
  have huserSwap : (userSwap.elim earlier fun value => { earlier with userSwap := some value }) =
      { earlier with userSwap := userSwap <|> earlier.userSwap } := by
    cases userSwap <;> rfl
  rw [chunks, Chunk.apply_append, Chunk.apply_append, Chunk.apply_append, Chunk.apply_append,
    Chunk.apply_optional_message, Outcome.ok_bind, huserSwap, Chunk.apply_text_eq, Outcome.ok_bind,
    apply_timeoutTimestamp]
  change _ = checked limit (timeoutTimestamp :: (action.map PostAction.timeouts).getD []) _
  rw [checked_cons]
  rcases longToNumber_cases limit timeoutTimestamp with hnumber | hnumber
  · rw [hnumber, Outcome.ok_bind, Outcome.ok_bind, Outcome.ok_bind, apply_postSwapAction]
    by_cases hsafe : Within limit ((action.map PostAction.timeouts).getD [])
    · rw [checked_safe hsafe, checked_safe hsafe, Outcome.ok_bind, Chunk.apply_text_eq]
      by_cases hreceive : minimumReceive = "" <;> by_cases haddr : recoveryAddr = "" <;>
        simp [merge, hreceive, haddr]
    · rw [checked_large hsafe, checked_large hsafe]
      rfl
  · rw [hnumber]
    rfl

end Chunks

variable {rt : Runtime JsError} {limit : Nat} (hrt : rt.Lawful)

include hrt

namespace SwapOperation

theorem fields_forward : (fields rt).Forward := by
  simp only [Fields.Forward, fields, List.forall_mem_cons]
  exact ⟨readText_forward hrt _, readText_forward hrt _, readText_forward hrt _, nofun⟩

theorem chunks_sound (message : SwapOperation) :
    Chunk.AllSound rt (fields rt) (message.chunks rt) := by
  simp only [chunks, Chunk.allSound_append]
  exact ⟨⟨sound_text hrt (by decide) rfl _, sound_text hrt (by decide) rfl _⟩,
    sound_text hrt (by decide) rfl _⟩

theorem carries (message : SwapOperation) :
    Carries (decode rt) (message.encode rt) (.ok message) := by
  refine carries_of_chunks hrt (fields_forward hrt) (message.chunks rt)
    (chunks_sound hrt message) ?_ ?_
  · simp [chunks, encode]
  · simp [chunks, Chunk.apply_append, Chunk.apply_text, Outcome.ok_bind, createBase]

theorem decode_forward (length : Nat) : Read.Forward (decode rt length) :=
  Wire.decode_forward hrt (fields_forward hrt) _ length

end SwapOperation

theorem operationChunk_sound {σ : Type} {fields : Fields JsError σ} {tag : Nat} (htag : tag < 2 ^ 32)
    {push : σ → SwapOperation → σ}
    (hfield : fields.lookup tag = some (rt.readMessage (SwapOperation.decode rt) push))
    (operation : SwapOperation) : (operationChunk rt tag push operation).Sound rt fields :=
  sound_message hrt htag hfield (SwapOperation.carries hrt operation)

namespace Route

theorem fields_forward : (fields rt).Forward := by
  simp only [Fields.Forward, fields, List.forall_mem_cons]
  exact ⟨readText_forward hrt _, readMessage_forward hrt (SwapOperation.decode_forward hrt) _, nofun⟩

theorem chunks_sound (message : Route) : Chunk.AllSound rt (fields rt) (message.chunks rt) := by
  simp only [chunks, Chunk.allSound_append]
  exact ⟨sound_text hrt (by decide) rfl _,
    sound_map fun operation _ => operationChunk_sound hrt (by decide) rfl operation⟩

theorem carries (message : Route) : Carries (decode rt) (message.encode rt) (.ok message) := by
  refine carries_of_chunks hrt (fields_forward hrt) (message.chunks rt)
    (chunks_sound hrt message) ?_ ?_
  · simp [chunks, encode, operationChunk, Chunk.message]
  · rw [chunks, Chunk.apply_append, Chunk.apply_text rt rfl, Outcome.ok_bind,
      Chunk.apply_map fun _ _ => rfl]
    exact congrArg Except.ok (Chunk.foldl_push Route.operations
      (fun m operations => { m with operations }) (fun _ => rfl) (fun _ _ => rfl) (fun _ _ _ => rfl)
      message.operations _)

theorem decode_forward (length : Nat) : Read.Forward (decode rt length) :=
  Wire.decode_forward hrt (fields_forward hrt) _ length

end Route

namespace SwapExactAssetIn

theorem fields_forward : (fields rt).Forward := by
  simp only [Fields.Forward, fields, List.forall_mem_cons]
  exact ⟨readMessage_forward hrt (SwapOperation.decode_forward hrt) _, nofun⟩

theorem carries (message : SwapExactAssetIn) :
    Carries (decode rt) (message.encode rt) (.ok message) := by
  refine carries_of_chunks hrt (fields_forward hrt) (message.chunks rt)
    (sound_map fun operation _ => operationChunk_sound hrt (by decide) rfl operation) ?_ ?_
  · simp [chunks, encode, operationChunk, Chunk.message]
  · rw [chunks, Chunk.apply_map fun _ _ => rfl]
    exact congrArg Except.ok (Chunk.foldl_push SwapExactAssetIn.operations
      (fun m operations => { m with operations }) (fun _ => rfl) (fun _ _ => rfl) (fun _ _ _ => rfl)
      message.operations _)

theorem decode_forward (length : Nat) : Read.Forward (decode rt length) :=
  Wire.decode_forward hrt (fields_forward hrt) _ length

end SwapExactAssetIn

namespace SmartSwapExactAssetIn

theorem fields_forward : (fields rt).Forward := by
  simp only [Fields.Forward, fields, List.forall_mem_cons]
  exact ⟨readMessage_forward hrt (Route.decode_forward hrt) _, nofun⟩

theorem carries (message : SmartSwapExactAssetIn) :
    Carries (decode rt) (message.encode rt) (.ok message) := by
  refine carries_of_chunks hrt (fields_forward hrt) (message.chunks rt)
    (sound_map fun route _ => sound_message hrt (by decide) rfl (Route.carries hrt route)) ?_ ?_
  · simp [chunks, encode, Chunk.message]
  · rw [chunks, Chunk.apply_map fun _ _ => rfl]
    exact congrArg Except.ok (Chunk.foldl_push SmartSwapExactAssetIn.routes
      (fun m routes => { m with routes }) (fun _ => rfl) (fun _ _ => rfl) (fun _ _ _ => rfl)
      message.routes _)

theorem decode_forward (length : Nat) : Read.Forward (decode rt length) :=
  Wire.decode_forward hrt (fields_forward hrt) _ length

end SmartSwapExactAssetIn

namespace UserSwap

theorem fields_forward : (fields rt).Forward := by
  simp only [Fields.Forward, fields, List.forall_mem_cons]
  exact ⟨readText_forward hrt _, readMessage_forward hrt (SwapExactAssetIn.decode_forward hrt) _,
    readMessage_forward hrt (SmartSwapExactAssetIn.decode_forward hrt) _, nofun⟩

theorem chunks_sound (message : UserSwap) : Chunk.AllSound rt (fields rt) (message.chunks rt) := by
  simp only [chunks, Chunk.allSound_append]
  exact ⟨⟨sound_text hrt (by decide) rfl _,
    sound_optional fun v _ => sound_message hrt (by decide) rfl (SwapExactAssetIn.carries hrt v)⟩,
    sound_optional fun v _ => sound_message hrt (by decide) rfl (SmartSwapExactAssetIn.carries hrt v)⟩

theorem carries (message : UserSwap) : Carries (decode rt) (message.encode rt) (.ok message) := by
  refine carries_of_chunks hrt (fields_forward hrt) (message.chunks rt)
    (chunks_sound hrt message) ?_ ?_
  · simp [chunks, encode, Chunk.message]
  · obtain ⟨venue, exact, smart⟩ := message
    rw [chunks, Chunk.apply_append, Chunk.apply_append, Chunk.apply_text rt rfl, Outcome.ok_bind,
      Chunk.apply_optional]
    cases exact <;> cases smart <;> rfl

theorem decode_forward (length : Nat) : Read.Forward (decode rt length) :=
  Wire.decode_forward hrt (fields_forward hrt) _ length

end UserSwap

namespace IbcTransfer

theorem fields_forward : (fields rt).Forward := by
  simp only [Fields.Forward, fields, List.forall_mem_cons]
  exact ⟨readText_forward hrt _, readText_forward hrt _, readText_forward hrt _,
    readText_forward hrt _, readText_forward hrt _, nofun⟩

theorem chunks_sound (message : IbcTransfer) :
    Chunk.AllSound rt (fields rt) (message.chunks rt) := by
  simp only [chunks, Chunk.allSound_append]
  exact ⟨⟨⟨⟨sound_text hrt (by decide) rfl _, sound_text hrt (by decide) rfl _⟩,
    sound_text hrt (by decide) rfl _⟩, sound_text hrt (by decide) rfl _⟩,
    sound_text hrt (by decide) rfl _⟩

theorem carries (message : IbcTransfer) :
    Carries (decode rt) (message.encode rt) (.ok message) := by
  refine carries_of_chunks hrt (fields_forward hrt) (message.chunks rt)
    (chunks_sound hrt message) ?_ ?_
  · simp [chunks, encode]
  · simp [chunks, Chunk.apply_append, Chunk.apply_text, Outcome.ok_bind, createBase]

theorem decode_forward (length : Nat) : Read.Forward (decode rt length) :=
  Wire.decode_forward hrt (fields_forward hrt) _ length

end IbcTransfer

namespace IbcWasmTransfer

theorem fields_forward : (fields rt limit).Forward := by
  simp only [Fields.Forward, fields, List.forall_mem_cons]
  exact ⟨readText_forward hrt _, readText_forward hrt _, readText_forward hrt _,
    readNumber_forward hrt _ _, readText_forward hrt _, nofun⟩

theorem chunks_sound {message : IbcWasmTransfer} (hfits : Fits message.timeouts) :
    Chunk.AllSound rt (fields rt limit) (message.chunks rt limit) := by
  simp only [chunks, Chunk.allSound_append]
  refine ⟨⟨⟨⟨sound_text hrt (by decide) rfl _, sound_text hrt (by decide) rfl _⟩,
    sound_text hrt (by decide) rfl _⟩, sound_optional fun v hv => ?_⟩, sound_optional fun v _ => ?_⟩
  · exact sound_number hrt (show 32 < 2 ^ 32 by decide) rfl (hfits v (Option.mem_toList.mpr hv))
  · exact @sound_string _ _ rt hrt (fields rt limit) 42 (by decide) _ rfl v

theorem carries {message : IbcWasmTransfer} (hfits : Fits message.timeouts) :
    Carries (decode rt limit) (message.encode rt) (checked limit message.timeouts message) := by
  refine carries_of_chunks hrt (fields_forward hrt) (message.chunks rt limit)
    (chunks_sound hrt hfits) ?_ ?_
  · simp [chunks, encode]
  · obtain ⟨channel, address, denom, timeout, memo⟩ := message
    simp only [chunks, Chunk.apply_append, Chunk.apply_text, Outcome.ok_bind, createBase,
      Chunk.apply_optional]
    cases timeout with
    | none => cases memo <;> rfl
    | some timeout =>
      change _ = checked limit [timeout] _
      rw [checked_cons]
      simp only [Option.map_some, Option.getD_some]
      rcases longToNumber_cases limit timeout with h | h <;> rw [h] <;> cases memo <;> rfl

theorem decode_forward (length : Nat) : Read.Forward (decode rt limit length) :=
  Wire.decode_forward hrt (fields_forward hrt) _ length

end IbcWasmTransfer

namespace ContractCall

theorem fields_forward : (fields rt).Forward := by
  simp only [Fields.Forward, fields, List.forall_mem_cons]
  exact ⟨readText_forward hrt _, readText_forward hrt _, nofun⟩

theorem carries (message : ContractCall) :
    Carries (decode rt) (message.encode rt) (.ok message) := by
  refine carries_of_chunks hrt (fields_forward hrt) (message.chunks rt)
    (Chunk.allSound_append.mpr ⟨sound_text hrt (by decide) rfl _, sound_text hrt (by decide) rfl _⟩)
    ?_ ?_
  · simp [chunks, encode]
  · simp [chunks, Chunk.apply_append, Chunk.apply_text, Outcome.ok_bind, createBase]

theorem decode_forward (length : Nat) : Read.Forward (decode rt length) :=
  Wire.decode_forward hrt (fields_forward hrt) _ length

end ContractCall

namespace Transfer

theorem fields_forward : (fields rt).Forward := by
  simp only [Fields.Forward, fields, List.forall_mem_cons]
  exact ⟨readText_forward hrt _, nofun⟩

theorem carries (message : Transfer) : Carries (decode rt) (message.encode rt) (.ok message) := by
  refine carries_of_chunks hrt (fields_forward hrt) (message.chunks rt)
    (sound_text hrt (by decide) rfl _) ?_ ?_
  · simp [chunks, encode]
  · simp [chunks, Chunk.apply_text, createBase]

theorem decode_forward (length : Nat) : Read.Forward (decode rt length) :=
  Wire.decode_forward hrt (fields_forward hrt) _ length

end Transfer

namespace PostAction

theorem fields_forward : (fields rt limit).Forward := by
  simp only [Fields.Forward, fields, List.forall_mem_cons]
  exact ⟨readMessage_forward hrt (IbcTransfer.decode_forward hrt) _,
    readMessage_forward hrt (IbcWasmTransfer.decode_forward hrt) _,
    readMessage_forward hrt (ContractCall.decode_forward hrt) _,
    readMessage_forward hrt (Transfer.decode_forward hrt) _, nofun⟩

theorem chunks_sound {message : PostAction} (hfits : Fits message.timeouts) :
    Chunk.AllSound rt (fields rt limit) (message.chunks rt limit) := by
  simp only [chunks, Chunk.allSound_append]
  refine ⟨⟨⟨?_, ?_⟩, ?_⟩, ?_⟩
  · exact sound_optional fun v _ => sound_message hrt (by decide) rfl (IbcTransfer.carries hrt v)
  · refine sound_optional fun v hv => sound_message hrt (by decide) rfl ?_
    exact IbcWasmTransfer.carries hrt (timeouts_of_mem hv ▸ hfits)
  · exact sound_optional fun v _ => sound_message hrt (by decide) rfl (ContractCall.carries hrt v)
  · exact sound_optional fun v _ => sound_message hrt (by decide) rfl (Transfer.carries hrt v)

theorem carries {message : PostAction} (hfits : Fits message.timeouts) :
    Carries (decode rt limit) (message.encode rt) (checked limit message.timeouts message) := by
  refine carries_of_chunks hrt (fields_forward hrt) (message.chunks rt limit)
    (chunks_sound hrt hfits) ?_ ?_
  · simp [chunks, encode, Chunk.message]
  · obtain ⟨ibcTransfer, ibcWasm, call, transfer⟩ := message
    rw [chunks, Chunk.apply_append, Chunk.apply_append, Chunk.apply_append,
      Chunk.apply_optional_message, Outcome.ok_bind, Chunk.apply_optional]
    cases ibcWasm with
    | none =>
      rw [Option.map_none, Option.getD_none, Outcome.ok_bind, Chunk.apply_optional_message,
        Outcome.ok_bind, Chunk.apply_optional_message]
      cases ibcTransfer <;> cases call <;> cases transfer <;> rfl
    | some ibcWasm =>
      change _ = checked limit ibcWasm.timeouts _
      rw [Option.map_some, Option.getD_some, Chunk.message]
      by_cases hsafe : Within limit ibcWasm.timeouts
      · rw [checked_safe hsafe, checked_safe hsafe]
        change (Chunk.apply _ _ >>= Chunk.apply _) = _
        rw [Chunk.apply_optional_message, Outcome.ok_bind, Chunk.apply_optional_message]
        cases ibcTransfer <;> cases call <;> cases transfer <;> rfl
      · rw [checked_large hsafe, checked_large hsafe]
        rfl

theorem decode_forward (length : Nat) : Read.Forward (decode rt limit length) :=
  Wire.decode_forward hrt (fields_forward hrt) _ length

end PostAction

theorem fields_forward : (fields rt limit).Forward := by
  simp only [Fields.Forward, fields, List.forall_mem_cons]
  exact ⟨readMessage_forward hrt (UserSwap.decode_forward hrt) _, readText_forward hrt _,
    readNumber_forward hrt _ _, readMessage_forward hrt (PostAction.decode_forward hrt) _,
    readText_forward hrt _, nofun⟩

theorem chunks_sound {memo : Memo} (hfits : Fits memo.numbers) :
    Chunk.AllSound rt (fields rt limit) (memo.chunks rt limit) := by
  simp only [chunks, Chunk.allSound_append]
  refine ⟨⟨⟨⟨?_, sound_text hrt (by decide) rfl _⟩, ?_⟩, ?_⟩, sound_text hrt (by decide) rfl _⟩
  · exact sound_optional fun v _ => sound_message hrt (by decide) rfl (UserSwap.carries hrt v)
  · split
    · exact Chunk.allSound_cons.mpr ⟨sound_number hrt (show 24 < 2 ^ 32 by decide) rfl
        (hfits _ List.mem_cons_self), Chunk.allSound_nil⟩
    · exact Chunk.allSound_nil
  · refine sound_optional fun v hv => sound_message hrt (by decide) rfl (PostAction.carries hrt ?_)
    rw [numbers_of_mem hv] at hfits
    exact fun number h => hfits number (List.mem_cons_of_mem _ h)

theorem decode_chunks {chunks : List (Chunk JsError Memo)}
    (hchunks : Chunk.AllSound rt (fields rt limit) chunks)
    (hlength : (Chunk.bytesOf chunks).length < 2 ^ 32) :
    decodeWithin rt limit (Chunk.bytesOf chunks) = Chunk.apply chunks createBase :=
  decodeInput_chunks hrt (fields_forward hrt) hchunks hlength createBase

theorem decode_encode {memo : Memo} (hfits : Fits memo.numbers)
    (hlength : (memo.encode rt).length < 2 ^ 32) :
    decodeWithin rt limit (memo.encode rt) = checked limit memo.numbers memo := by
  rw [← bytesOf_chunks rt limit] at hlength ⊢
  rw [decode_chunks hrt (chunks_sound hrt hfits) hlength, apply_chunks, merge_createBase]

end Memo

end OraidexSdk.UniversalSwap
