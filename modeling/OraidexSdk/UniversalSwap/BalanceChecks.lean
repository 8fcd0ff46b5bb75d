import OraidexSdk.UniversalSwap.EvmTransfers

namespace OraidexSdk.UniversalSwap
open Js Outcome Message Interaction Program

def signAndDigits : List Char → Int × List Char
  | '-' :: digits => (-1, digits)
  | '+' :: digits => (1, digits)
  | digits => (1, digits)

def isDigitOf (b : Nat) (c : Char) : Bool := (digitVal? c).any (· < b)

-- parseInt of a text, where undefined stands for NaN
def parseInt (text : String) : Option Int :=
  let (sign, digits) := signAndDigits (text.toList.dropWhile isWhitespace)
  let value := match digits with
    | '0' :: 'x' :: digits | '0' :: 'X' :: digits => radixNumeral 16 (digits.takeWhile (isDigitOf 16))
    | digits => radixNumeral 10 (digits.takeWhile (isDigitOf 10))
  value.map (sign * ·)

def exactValue : Number DecimalNumber → Number ℚ
  | .nan => .nan
  | .infinity negative => .infinity negative
  | .finite x => .finite x.value

def less (x y : Number ℚ) : Bool := y.ge x && ! x.ge y

def amountText : Number DecimalNumber → String
  | .nan => "NaN"
  | .infinity negative => if negative then "-Infinity" else "Infinity"
  | .finite x => numberText x

def buildIbcWasmPairKey (ibcPort ibcChannel denom : String) : String :=
  ibcPort ++ "/" ++ ibcChannel ++ "/" ++ denom

def tonFactory : String := "factory/orai1wuvhex9xqs3r539mvc6mtm7n20fcj3qr2m0y9khx6n5vtlngfzes3k0rq9"

-- text.includes(part)
def includes (text part : String) : Bool := text.toList.tails.any part.toList.isPrefixOf

namespace Handler

variable (handler : Handler)

def oraichainItems : List TokenItemType := handler.common.oraichainTokens.map (·.toTokenItemType)

def checkFeeRelayer : Except JsError Bool :=
  match handler.swapData.relayerFee with
  | none => .ok true
  | some relayerFee =>
    if (parseInt relayerFee.relayerAmount).getD 0 = 0 then .ok true
    else do
      let relayerDisplay ← toDisplay (.string relayerFee.relayerAmount) relayerFee.relayerDecimals 6
      let originalFromToken := handler.swapData.originalFromToken
      let fromAmount := handler.swapData.fromAmount
      if originalFromToken.coinGeckoId = some "oraichain-token" then
        return ! (Number.finite relayerDisplay.value).ge (exactValue fromAmount)
      else
        checkFeeRelayerNotOrai handler.routers handler.oraichainItems
          (UniversalSwap.getTokenOnOraichain originalFromToken.coinGeckoId handler.oraichainItems false)
          fromAmount relayerFee.relayerAmount

-- The amount is one of the to token, and the quote goes from the from token to the to token.
def simulateBack (fromToken toToken : SwapToken) (amount : DecimalNumber) :
    Except JsError DecimalNumber :=
  match UniversalSwap.getTokenOnOraichain fromToken.coinGeckoId handler.oraichainItems false,
    UniversalSwap.getTokenOnOraichain toToken.coinGeckoId handler.oraichainItems false with
  | some fromTokenInfo, some toTokenInfo => do
    let simulated ← handleSimulateSwap handler.routers
      { flattenTokens := []
        oraichainTokens := handler.oraichainItems
        originalFromInfo := fromTokenInfo
        originalToInfo := some toTokenInfo
        originalAmount := .finite amount
        routerOption := none
        routerConfig := none }
    toDisplay (.string simulated.amount) fromTokenInfo.decimals 6
  | _, _ => generateError
      ("Error in checking balance channel ibc: cannot simulate from: " ++
        fromToken.coinGeckoId.getD "undefined" ++ " to: " ++ toToken.coinGeckoId.getD "undefined")

def channelAmount (fromToken toToken : SwapToken) (toSimulateAmount : String) :
    Except JsError DecimalNumber := do
  let amount ← toDisplay (.string toSimulateAmount) toToken.decimals 6
  if fromToken.coinGeckoId ≠ toToken.coinGeckoId then handler.simulateBack fromToken toToken amount
  else return amount

def channelPairKey (ibcInfo : IBCChannel) (toToken : SwapToken) : String :=
  match truthy toToken.denomPrefix, truthy toToken.contractAddress with
  | some denomPrefix, some contractAddress =>
    buildIbcWasmPairKey ibcInfo.source ibcInfo.channel (denomPrefix ++ contractAddress)
  | _, _ => buildIbcWasmPairKey ibcInfo.source ibcInfo.channel toToken.denom

-- The balance of a channel, or nothing where the given channel and key are not there.
def channelWithKey (channelId denom : String) : Handles (Option ChannelBalance) :=
  (some <$> ask (.channelWithKey handler.getCwIcs20ContractAddr channelId denom)).rescue
    fun _ => return none

def checkChannel (ibcInfo : IBCChannel) (fromToken toToken : SwapToken) (toSimulateAmount : String) :
    Handles Unit := do
  let pairKey := channelPairKey ibcInfo toToken
  match ← handler.channelWithKey ibcInfo.channel pairKey with
  | some (.native amount) =>
    let pairMapping ← ask (.pairMapping handler.getCwIcs20ContractAddr pairKey)
    if pairMapping.isMintBurn then return
    else
      let trueBalance ← lift (toDisplay (.string amount) pairMapping.remoteDecimals 6)
      let toAmount ← lift (handler.channelAmount fromToken toToken toSimulateAmount)
      if trueBalance.value < toAmount.value then
        lift (generateError "pair key is not enough balance!")
      else return
  | _ => return

def checkBalanceChannelIbc (ibcInfo : IBCChannel) (fromToken toToken : SwapToken)
    (toSimulateAmount : String) : Handles Unit :=
  (handler.checkChannel ibcInfo fromToken toToken toSimulateAmount).rescue fun error =>
    lift (generateError ("Error in checking balance channel ibc: " ++ handler.stringifyError error))

def getBalanceIBCOraichain (token : SwapToken) (ibcWasmContract : String) : Handles DecimalNumber := do
  let balance ← (match truthy token.contractAddress with
    | some contractAddress => ask (.tokenBalance contractAddress ibcWasmContract)
    | none => ask (.getBalance ibcWasmContract token.denom))
  lift (toDisplay (.string balance) token.decimals 6)

def bridgeHolder (fromToken : SwapToken) : String :=
  if fromToken.coinGeckoId.any (· ∈ ["kawaii-islands", "milky-token"]) ∧ fromToken.chainId = "0x38"
  then handler.common.converter
  else handler.getCwIcs20ContractAddr

def checkBalanceIBCOraichain (toToken fromToken : SwapToken) : Handles Unit :=
  if fromToken.chainId = "Oraichain" ∧ toToken.chainId = fromToken.chainId then return
  else
    match findOnOraichain fromToken.coinGeckoId handler.common.oraichainTokens false with
    | none => return
    | some token =>
      if includes token.denom tonFactory then return
      else do
        let balance ← getBalanceIBCOraichain token (handler.bridgeHolder fromToken)
        let fromAmount := handler.swapData.fromAmount
        if less (.finite balance.value) (exactValue fromAmount) then
          lift (generateError ("The bridge contract does not have enough balance to process this " ++
            "bridge transaction. Wanted " ++ amountText fromAmount ++ ", have " ++
            numberText balance))
        else if toToken.chainId ∈ ["0x01", "0x38", "0x2b6653dc"] then
          let ibcInfo ← lift (UniversalSwap.getIbcInfo "Oraichain" toToken.chainId)
          handler.checkBalanceChannelIbc ibcInfo.toIBCChannel fromToken toToken
            handler.swapData.simulateAmount
        else return

-- The answers with which a channel passes: it cannot be read, it holds no native balance, its pair
-- is minted and burnt, or it holds enough.
inductive ChannelCovers (ibcInfo : IBCChannel) (fromToken toToken : SwapToken)
    (toSimulateAmount : String) : List Asked → Prop where
  | unread (e : JsError) : ChannelCovers ibcInfo fromToken toToken toSimulateAmount
      [⟨.channelWithKey handler.getCwIcs20ContractAddr ibcInfo.channel
        (channelPairKey ibcInfo toToken), .error e⟩]
  | cw20 : ChannelCovers ibcInfo fromToken toToken toSimulateAmount
      [⟨.channelWithKey handler.getCwIcs20ContractAddr ibcInfo.channel
        (channelPairKey ibcInfo toToken), .ok .cw20⟩]
  | native (amount : String) (pairMapping : PairMapping)
      (covers : pairMapping.isMintBurn = true ∨ ∃ balance needed,
        toDisplay (.string amount) pairMapping.remoteDecimals 6 = .ok balance ∧
        handler.channelAmount fromToken toToken toSimulateAmount = .ok needed ∧
        needed.value ≤ balance.value) :
      ChannelCovers ibcInfo fromToken toToken toSimulateAmount
        [⟨.channelWithKey handler.getCwIcs20ContractAddr ibcInfo.channel
            (channelPairKey ibcInfo toToken), .ok (.native amount)⟩,
          ⟨.pairMapping handler.getCwIcs20ContractAddr (channelPairKey ibcInfo toToken),
            .ok pairMapping⟩]

def balanceRead (token : SwapToken) (holder balance : String) : Asked :=
  match truthy token.contractAddress with
  | some contractAddress => ⟨.tokenBalance contractAddress holder, .ok balance⟩
  | none => ⟨.getBalance holder token.denom, .ok balance⟩

inductive ToChannelCovers (fromToken toToken : SwapToken) (toSimulateAmount : String) :
    List Asked → Prop where
  | elsewhere (hto : toToken.chainId ∉ ["0x01", "0x38", "0x2b6653dc"]) :
      ToChannelCovers fromToken toToken toSimulateAmount []
  | channel {ibcInfo : IBCInfo} {check : List Asked}
      (hto : toToken.chainId ∈ ["0x01", "0x38", "0x2b6653dc"])
      (hinfo : UniversalSwap.getIbcInfo "Oraichain" toToken.chainId = .ok ibcInfo)
      (covers : handler.ChannelCovers ibcInfo.toIBCChannel fromToken toToken toSimulateAmount check) :
      ToChannelCovers fromToken toToken toSimulateAmount check

-- The answers with which the bridge passes: nothing is asked of a token that it does not hold, and
-- otherwise it holds the amount.
inductive BridgeCovers (toToken fromToken : SwapToken) : List Asked → Prop where
  | sameChain (hfrom : fromToken.chainId = "Oraichain") (hto : toToken.chainId = "Oraichain") :
      BridgeCovers toToken fromToken []
  | unlisted (hnone : findOnOraichain fromToken.coinGeckoId handler.common.oraichainTokens false = none) :
      BridgeCovers toToken fromToken []
  | minted {token : SwapToken}
      (hfound : findOnOraichain fromToken.coinGeckoId handler.common.oraichainTokens false = some token)
      (hfactory : includes token.denom tonFactory = true) : BridgeCovers toToken fromToken []
  | held {token : SwapToken} {text : String} {balance : DecimalNumber} {check : List Asked}
      (hfound : findOnOraichain fromToken.coinGeckoId handler.common.oraichainTokens false = some token)
      (hbalance : toDisplay (.string text) token.decimals 6 = .ok balance)
      (hcovers : less (.finite balance.value) (exactValue handler.swapData.fromAmount) = false)
      (hchannel : handler.ToChannelCovers fromToken toToken handler.swapData.simulateAmount check) :
      BridgeCovers toToken fromToken (balanceRead token (handler.bridgeHolder fromToken) text :: check)

variable {handler} {ibcInfo : IBCChannel} {fromToken toToken : SwapToken} {toSimulateAmount : String}
  {trace : List Asked}

theorem channelWithKey_runs_iff {channelId denom : String} {balance : Option ChannelBalance} :
    Runs (handler.channelWithKey channelId denom) trace (.ok balance) ↔
      ∃ answer, trace = [⟨.channelWithKey handler.getCwIcs20ContractAddr channelId denom, answer⟩] ∧
        balance = Except.toOption answer := by
  rw [channelWithKey, runs_rescue_iff]
  constructor
  · rintro (⟨a, hrun, ha⟩ | ⟨e, first, second, rfl, hfails, hreturn⟩)
    · cases ha
      obtain ⟨answer, rest, rfl, hdone⟩ := runs_request_bind_ok_iff.mp hrun
      obtain ⟨rfl, h⟩ := runs_pure_iff.mp hdone
      cases h
      exact ⟨.ok answer, rfl, rfl⟩
    · obtain ⟨rfl, h⟩ := runs_pure_iff.mp hreturn
      cases h
      rcases runs_bind_iff.mp hfails with ⟨e', hasked, -⟩ | ⟨a, first, second, -, -, hdone⟩
      · rw [List.append_nil]
        exact ⟨.error e', runs_request_iff.mp hasked, rfl⟩
      · cases (runs_pure_iff.mp hdone).2
  · rintro ⟨answer, rfl, rfl⟩
    cases answer with
    | ok balance => exact .inl ⟨some balance, .ask _ (.done _), rfl⟩
    | error e => exact .inr ⟨e, _, [], (List.append_nil _).symm, .ask _ (.done _), .done _⟩

theorem checkChannel_ok_iff :
    Runs (handler.checkChannel ibcInfo fromToken toToken toSimulateAmount) trace (.ok ()) ↔
      handler.ChannelCovers ibcInfo fromToken toToken toSimulateAmount trace := by
  constructor
  · intro hrun
    obtain ⟨balance, first, second, rfl, hquery, hrest⟩ := runs_bind_ok_iff.mp hrun
    obtain ⟨answer, rfl, rfl⟩ := channelWithKey_runs_iff.mp hquery
    rcases answer with e | amount | _
    · obtain ⟨rfl, -⟩ := runs_pure_iff.mp hrest
      exact .unread e
    · obtain ⟨pairMapping, rest, rfl, hcheck⟩ := runs_request_bind_ok_iff.mp hrest
      split at hcheck
      · rename_i hmint
        obtain ⟨rfl, -⟩ := runs_pure_iff.mp hcheck
        exact .native amount pairMapping (.inl hmint)
      · obtain ⟨trueBalance, hbalance, hneeded⟩ := runs_lift_bind_ok_iff.mp hcheck
        obtain ⟨needed, hamount, hcompare⟩ := runs_lift_bind_ok_iff.mp hneeded
        split at hcompare
        · cases (runs_lift_iff.mp hcompare).2
        · rename_i hle
          obtain ⟨rfl, -⟩ := runs_pure_iff.mp hcompare
          exact .native amount pairMapping
            (.inr ⟨trueBalance, needed, hbalance, hamount, not_lt.mp hle⟩)
    · obtain ⟨rfl, -⟩ := runs_pure_iff.mp hrest
      exact .cw20
  · intro h
    refine runs_bind_ok_iff.mpr ?_
    cases h with
    | unread e =>
      exact ⟨none, _, [], (List.append_nil _).symm, channelWithKey_runs_iff.mpr ⟨.error e, rfl, rfl⟩,
        .done _⟩
    | cw20 =>
      exact ⟨some .cw20, _, [], (List.append_nil _).symm,
        channelWithKey_runs_iff.mpr ⟨.ok .cw20, rfl, rfl⟩, .done _⟩
    | native amount pairMapping covers =>
      refine ⟨some (.native amount), [_], [_], rfl,
        channelWithKey_runs_iff.mpr ⟨.ok (.native amount), rfl, rfl⟩, ?_⟩
      refine runs_request_bind_ok_iff.mpr ⟨pairMapping, [], rfl, ?_⟩
      split
      · exact .done _
      · rename_i hmint
        obtain ⟨balance, needed, hbalance, hneeded, hle⟩ := covers.resolve_left hmint
        refine runs_lift_bind_ok_iff.mpr ⟨balance, hbalance, ?_⟩
        refine runs_lift_bind_ok_iff.mpr ⟨needed, hneeded, ?_⟩
        rw [if_neg (not_lt.mpr hle)]
        exact .done _

theorem checkBalanceChannelIbc_ok_iff :
    Runs (handler.checkBalanceChannelIbc ibcInfo fromToken toToken toSimulateAmount) trace (.ok ()) ↔
      handler.ChannelCovers ibcInfo fromToken toToken toSimulateAmount trace := by
  rw [checkBalanceChannelIbc, runs_rescue_iff, ← checkChannel_ok_iff]
  constructor
  · rintro (⟨a, hrun, -⟩ | ⟨e, first, second, -, -, hfails⟩)
    · exact hrun
    · cases (runs_lift_iff.mp hfails).2
  · exact fun hrun => .inl ⟨(), hrun, rfl⟩

theorem getBalanceIBCOraichain_ok {token : SwapToken} {holder : String} {balance : DecimalNumber}
    (hrun : Runs (getBalanceIBCOraichain token holder) trace (.ok balance)) :
    ∃ text, trace = [balanceRead token holder text] ∧
      toDisplay (.string text) token.decimals 6 = .ok balance := by
  rw [getBalanceIBCOraichain] at hrun
  unfold balanceRead
  generalize truthy token.contractAddress = contract at hrun ⊢
  cases contract with
  | none =>
    obtain ⟨text, rest, rfl, hdisplay⟩ := runs_request_bind_ok_iff.mp hrun
    obtain ⟨rfl, h⟩ := runs_lift_iff.mp hdisplay
    exact ⟨text, rfl, h.symm⟩
  | some contractAddress =>
    obtain ⟨text, rest, rfl, hdisplay⟩ := runs_request_bind_ok_iff.mp hrun
    obtain ⟨rfl, h⟩ := runs_lift_iff.mp hdisplay
    exact ⟨text, rfl, h.symm⟩

theorem checkBalanceIBCOraichain_ok
    (hrun : Runs (handler.checkBalanceIBCOraichain toToken fromToken) trace (.ok ())) :
    handler.BridgeCovers toToken fromToken trace := by
  rw [checkBalanceIBCOraichain] at hrun
  split at hrun
  · rename_i hsame
    obtain ⟨rfl, -⟩ := runs_pure_iff.mp hrun
    exact .sameChain hsame.1 (hsame.2.trans hsame.1)
  · split at hrun
    · rename_i hnone
      obtain ⟨rfl, -⟩ := runs_pure_iff.mp hrun
      exact .unlisted hnone
    · rename_i token hfound
      split at hrun
      · rename_i hfactory
        obtain ⟨rfl, -⟩ := runs_pure_iff.mp hrun
        exact .minted hfound hfactory
      · obtain ⟨balance, first, second, rfl, hread, hcheck⟩ := runs_bind_ok_iff.mp hrun
        obtain ⟨text, rfl, hbalance⟩ := getBalanceIBCOraichain_ok hread
        rw [List.singleton_append]
        dsimp only at hcheck
        split at hcheck
        · cases (runs_lift_iff.mp hcheck).2
        · rename_i hcovers
          refine .held hfound hbalance (Bool.eq_false_iff.mpr hcovers) ?_
          split at hcheck
          · rename_i hto
            obtain ⟨ibcInfo, hinfo, hchannel⟩ := runs_lift_bind_ok_iff.mp hcheck
            exact .channel hto hinfo (checkBalanceChannelIbc_ok_iff.mp hchannel)
          · rename_i hto
            obtain ⟨rfl, -⟩ := runs_pure_iff.mp hcheck
            exact .elsewhere hto

end Handler

end OraidexSdk.UniversalSwap
