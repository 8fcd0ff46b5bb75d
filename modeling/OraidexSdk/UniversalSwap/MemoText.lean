import OraidexSdk.UniversalSwap.BridgeRoute
import OraidexSdk.UniversalSwap.MemoCodec
import OraidexSdk.UniversalSwap.RouteV2
import OraidexSdk.Wire.Base64

namespace OraidexSdk.UniversalSwap
open Js Wire Outcome Message

-- Buffer.from(Memo.encode(memo).finish()).toString("base64")
def memoText (rt : Runtime JsError) (memo : Memo) : String :=
  String.ofList (Base64.encode (memo.encode rt))

-- Buffer.from(text, "base64")
def memoBytes (text : String) : List UInt8 := Base64.decode text.toList

theorem memoBytes_memoText (rt : Runtime JsError) (memo : Memo) :
    memoBytes (memoText rt memo) = memo.encode rt := by
  rw [memoBytes, memoText, String.toList_ofList, Base64.decode_encode]

theorem memoText_isBase64 (rt : Runtime JsError) (memo : Memo) :
    ∀ c ∈ (memoText rt memo).toList, isBase64 c = true := by
  intro c hc
  rw [memoText, String.toList_ofList] at hc
  rcases Base64.mem_encode hc with h | rfl | rfl | rfl
  · simp [isBase64, h]
  · rfl
  · rfl
  · rfl

theorem numbers_of_build {env : Environment} {timeout : Nat} {minimumReceive recoveryAddr : String}
    {routes : Option (List Route)} {post : Memo.PostAction} {memo : Memo}
    (h : buildUniversalSwapMemo env timeout minimumReceive recoveryAddr routes post = .ok memo) :
    memo.numbers = (env.dateNow + timeout * 1000) * 1000000 :: post.timeouts := by
  obtain ⟨memoRoutes, -, hmemo⟩ := bind_eq_ok.mp h
  cases hmemo
  by_cases hpost : post = ⟨none, none, none, none⟩
  · subst hpost
    rfl
  · simp only [Memo.numbers, if_neg hpost]
    rfl

-- The package reads what it builds itself only in the first 104 days of the clock.
theorem built_memo_decodes_iff {rt : Runtime JsError} (hrt : rt.Lawful) {env : Environment}
    {timeout : Nat} {minimumReceive recoveryAddr : String} {routes : Option (List Route)}
    {post : Memo.PostAction} {memo : Memo}
    (hbuild : buildUniversalSwapMemo env timeout minimumReceive recoveryAddr routes post = .ok memo)
    (hfits : Memo.Fits memo.numbers) (hlength : (memo.encode rt).length < 2 ^ 32) :
    ((∃ decoded, Memo.decode rt (memoBytes (memoText rt memo)) = .ok decoded) ↔
      (env.dateNow + timeout * 1000) * 1000000 ≤ MAX_SAFE_INTEGER ∧ Memo.Safe post.timeouts) ∧
    (9007199255 ≤ env.dateNow → Memo.decode rt (memoBytes (memoText rt memo)) =
      .error (.error "Value is larger than Number.MAX_SAFE_INTEGER")) := by
  have hdecode : Memo.decode rt (memoBytes (memoText rt memo)) =
      Memo.checked MAX_SAFE_INTEGER memo.numbers memo := by
    rw [memoBytes_memoText, Memo.decode, Memo.decode_encode hrt hfits hlength]
  rw [hdecode, numbers_of_build hbuild]
  refine ⟨?_, fun hclock => ?_⟩
  · rw [← Memo.within_cons]
    by_cases hsafe : Memo.Safe ((env.dateNow + timeout * 1000) * 1000000 :: post.timeouts)
    · rw [Memo.checked_safe hsafe]
      exact ⟨fun _ => hsafe, fun _ => ⟨memo, rfl⟩⟩
    · rw [Memo.checked_large hsafe]
      refine ⟨?_, fun h => absurd h hsafe⟩
      rintro ⟨decoded, ⟨⟩⟩
  · refine Memo.checked_large (fun hsafe => ?_) memo
    have hle := (Memo.within_cons.mp hsafe).1
    simp only [MAX_SAFE_INTEGER] at hle
    omega

def plainMemo : Memo where
  userSwap := none
  minimumReceive := "1"
  timeoutTimestamp := 1700003600000000000
  postSwapAction := some ⟨none, none, none, some ⟨"orai1"⟩⟩
  recoveryAddr := "orai1"

theorem built_memo_decodes_example :
    ((∃ decoded, Memo.decode Memo.exampleWire (memoBytes (memoText Memo.exampleWire plainMemo)) =
        .ok decoded) ↔
      (oraiEnvironment.dateNow + 3600 * 1000) * 1000000 ≤ MAX_SAFE_INTEGER ∧
        Memo.Safe (Memo.PostAction.timeouts ⟨none, none, none, some ⟨"orai1"⟩⟩)) ∧
    (9007199255 ≤ oraiEnvironment.dateNow →
      Memo.decode Memo.exampleWire (memoBytes (memoText Memo.exampleWire plainMemo)) =
        .error (.error "Value is larger than Number.MAX_SAFE_INTEGER")) := by
  have hbuild : buildUniversalSwapMemo oraiEnvironment 3600 "1" "orai1" none
      ⟨none, none, none, some ⟨"orai1"⟩⟩ = .ok plainMemo := rfl
  exact built_memo_decodes_iff Memo.exampleWire_lawful hbuild (by decide) (by decide +kernel)

theorem route_carries_memo {rt : Runtime JsError} (hrt : rt.Lawful) (env : Environment)
    {oraiAddress : String}
    (hvalid : (checkValidateAddressWithNetwork env oraiAddress "Oraichain").isValid = true)
    (contractAddress : Option String) (isSourceReceiverTest : Bool) (timeout : Nat)
    (basic : RouteBasic) (userSwap : RouteSwap) (evmChains : List String) (ibcInfoTestMode : Bool) :
    (∀ memo, getRouteV2 env timeout basic userSwap evmChains ibcInfoTestMode = .ok memo →
      ∃ swapRoute routeData,
        addOraiBridgeRoute env oraiAddress contractAddress isSourceReceiverTest
          (memoText rt <$> getRouteV2 env timeout basic userSwap evmChains ibcInfoTestMode) =
            .ok swapRoute ∧
        unmarshalOraiBridgeRoute swapRoute = .ok routeData ∧ routeData.oraiReceiver = oraiAddress ∧
        memoBytes routeData.finalReceiver = memo.encode rt ∧
        memoBytes (hookArgs swapRoute) = memo.encode rt ∧
        memoBytes (tonMemo swapRoute) = memo.encode rt ∧
        (Memo.Fits memo.numbers → (memo.encode rt).length < 2 ^ 32 →
          Memo.decode rt (memoBytes (hookArgs swapRoute)) =
            if Memo.Safe memo.numbers then .ok memo else .error tooLarge)) ∧
    ∀ e, getRouteV2 env timeout basic userSwap evmChains ibcInfoTestMode = .error e →
      addOraiBridgeRoute env oraiAddress contractAddress isSourceReceiverTest
        (memoText rt <$> getRouteV2 env timeout basic userSwap evmChains ibcInfoTestMode) = .error e := by
  obtain ⟨source, hsource, hreads⟩ :=
    getSourceReceiver_source hvalid contractAddress isSourceReceiverTest
  have haddress : oraiAddress ≠ "" := by
    rintro rfl
    exact (isLowerAlnum_of_valid hvalid).1 rfl
  refine ⟨fun memo hrun => ?_, fun e hrun => ?_⟩
  · have hroute : ∀ text, addOraiBridgeRoute env oraiAddress contractAddress isSourceReceiverTest
        (.ok text) = .ok (if text.length > 0 then source ++ ":" ++ text else source) := by
      intro text
      rw [addOraiBridgeRoute, if_neg haddress, hsource]
      rfl
    have hbytes := memoBytes_memoText rt memo
    rw [hrun]
    change ∃ swapRoute routeData, addOraiBridgeRoute env oraiAddress contractAddress
      isSourceReceiverTest (.ok (memoText rt memo)) = .ok swapRoute ∧ _
    rw [hroute]
    have hdecodes : Decodes
        (if (memoText rt memo).length > 0 then source ++ ":" ++ memoText rt memo else source)
        ⟨sourceChannel contractAddress isSourceReceiverTest, oraiAddress, "", memoText rt memo, ""⟩ := by
      by_cases hempty : memoText rt memo = ""
      · rw [hempty]
        exact decodes_source hreads
      · rw [if_pos (Nat.pos_of_ne_zero fun h => hempty (String.length_eq_zero_iff.mp h))]
        exact decodes_memo hreads (colon_not_mem (memoText_isBase64 rt memo)) hempty
    refine ⟨_, _, rfl, hdecodes.unmarshal, rfl, hbytes, ?_, ?_, fun hfits hlength => ?_⟩
    · rw [hdecodes.hookArgs, hbytes]
    · rw [hdecodes.tonMemo, hbytes]
    · rw [hdecodes.hookArgs, hbytes, Memo.decode, Memo.decode_encode hrt hfits hlength]
      rfl
  · rw [hrun, addOraiBridgeRoute, if_neg haddress, hsource]
    rfl

theorem route_carries_memo_example :
    ∃ swapRoute,
      addOraiBridgeRoute oraiEnvironment exampleAddress none false
        (memoText Memo.exampleWire <$> getRouteV2 oraiEnvironment 3600 ⟨"1", "orai1", none, none⟩
          ⟨none, "", "", "Oraichain"⟩ [] false) = .ok swapRoute ∧
      memoBytes (hookArgs swapRoute) = plainMemo.encode Memo.exampleWire := by
  obtain ⟨swapRoute, -, hroute, -, -, -, hargs, -, -⟩ :=
    (route_carries_memo Memo.exampleWire_lawful oraiEnvironment
      (show (checkValidateAddressWithNetwork oraiEnvironment exampleAddress "Oraichain").isValid = true
        by decide) none false 3600 ⟨"1", "orai1", none, none⟩ ⟨none, "", "", "Oraichain"⟩ [] false).1
      plainMemo (by rfl)
  exact ⟨swapRoute, hroute, hargs⟩

end OraidexSdk.UniversalSwap
