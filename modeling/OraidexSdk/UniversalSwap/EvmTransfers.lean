import OraidexSdk.UniversalSwap.Allowance
import OraidexSdk.UniversalSwap.SwapHandler

namespace OraidexSdk.UniversalSwap
open Js Outcome Message Interaction Program

def GRAVITY_EVM_CONTRACT : String := "0x9a0A02B296240D2620E339cCDE386Ff612f07Be5"

def GRAVITY_TRON_CONTRACT : String := "0x73Ddc880916021EFC4754Cb42B53db6EAB1f9D64"

def gravityContracts : String → Option String
  | "0x38" | "0x01" => some GRAVITY_EVM_CONTRACT
  | "0x2b6653dc" => some GRAVITY_TRON_CONTRACT
  | _ => none

-- in milliseconds
def UNISWAP_ROUTER_DEADLINE : Nat := 15000

structure EvmSwapData where
  fromToken : SwapToken
  toTokenContractAddr : Option String
  fromAmount : Number DecimalNumber
  metamaskAddress : Option String
  tronAddress : Option String
  slippage : Option DecimalNumber
  destination : String
  simulatePrice : Option String

namespace Handler

variable (handler : Handler)

def getAddress (address : Option String) : Except JsError String :=
  handler.evmWallet.readText (address.bind handler.env.getAddress)

def evmSwapTransaction (data : EvmSwapData) (gravityContractAddr routerV2Addr finalFromAmount : String)
    (minimumReceive : Int) (finalRecipientAddress : String) : Handles EvmTransaction :=
  match truthy data.fromToken.contractAddress, truthy data.toTokenContractAddr with
  | none, _ => do
    let toToken ← lift (handler.getAddress data.toTokenContractAddr)
    return .bridgeFromETH gravityContractAddr toToken minimumReceive data.destination finalFromAmount
  | some fromContract, none => do
    let route := getEvmSwapRoute data.fromToken.chainId (some fromContract) none
    let now ← ask .getTime
    return .swapExactTokensForETH routerV2Addr finalFromAmount minimumReceive route
      finalRecipientAddress (now + UNISWAP_ROUTER_DEADLINE)
  | some fromContract, some toContract =>
    if data.destination = "" then do
      let route := getEvmSwapRoute data.fromToken.chainId (some fromContract) (some toContract)
      let now ← ask .getTime
      return .swapExactTokensForTokens routerV2Addr finalFromAmount minimumReceive route
        finalRecipientAddress (now + UNISWAP_ROUTER_DEADLINE)
    else do
      let fromToken ← lift (handler.getAddress (some fromContract))
      let toToken ← lift (handler.getAddress (some toContract))
      return .bridgeFromERC20 gravityContractAddr fromToken toToken finalFromAmount minimumReceive
        data.destination

def evmSwap (data : EvmSwapData) : Handles String := handler.withEvmWallet do
  let _ ← ask .getSigner
  let finalTransferAddress :=
    getFinalEvmAddress data.fromToken.chainId data.metamaskAddress data.tronAddress
  let finalFromAmount ← lift (toAmount data.fromAmount data.fromToken.decimals)
  let finalFromAmount := String.ofList (bigIntText finalFromAmount)
  let gravityContractAddr ← lift (handler.getAddress (gravityContracts data.fromToken.chainId))
  let checkSumAddress ← lift (handler.getAddress finalTransferAddress)
  let finalRecipientAddress ← lift
    (match truthy handler.swapData.recipientAddress with
    | some recipientAddress => handler.getAddress (some recipientAddress)
    | none => .ok checkSumAddress)
  let routerV2Addr ← ask (.swapRouter gravityContractAddr)
  let minReceive ← lift (calculateMinReceive data.simulatePrice finalFromAmount data.slippage
    data.fromToken.decimals)
  let minimumReceive ← lift (bigInt minReceive.toList)
  let fromTokenSpender :=
    if (truthy data.toTokenContractAddr).isSome then gravityContractAddr else routerV2Addr
  let _ ← handler.evmWallet.checkOrIncreaseAllowance data.fromToken (some checkSumAddress)
    fromTokenSpender finalFromAmount
  let transaction ← handler.evmSwapTransaction data gravityContractAddr routerV2Addr finalFromAmount
    minimumReceive finalRecipientAddress
  Prod.fst <$> EvmWallet.sendAndWait transaction

def sendToCosmosOnTron (gravityContractAddr : Option String) (token : SwapToken)
    (destination : String) (amountVal : Int) (owner : String) : Handles String := do
  let gravityContractAddr ← lift (readDefined gravityContractAddr)
  let address ← lift (handler.evmWallet.tronAddressOf gravityContractAddr)
  let issuerAddress ← lift (handler.tronToEthAddress (some owner))
  handler.evmWallet.submitTronSmartContract address "sendToCosmos(address,string,uint256)" ⟨none⟩
    [⟨"address", token.contractAddress.elim (.other ()) .text⟩, ⟨"string", .text destination⟩,
      ⟨"uint256", .bigint amountVal⟩] issuerAddress

def sendToCosmosOnEvm (gravityContractAddr : Option String) (token : SwapToken)
    (destination : String) (amountVal : Int) : Handles String :=
  match truthy gravityContractAddr, truthy handler.swapData.sender.evm, truthy (some destination) with
  | some gravityContractAddr, some owner, some destination => do
    let _ ← ask .getSigner
    Prod.snd <$> EvmWallet.sendAndWait
      (.sendToCosmos gravityContractAddr token.contractAddress destination amountVal owner)
  | _, _, _ => lift (generateError
      "OraiBridge contract addr or from or to is not specified. Cannot transfer!")

-- The hash of the transfer, or undefined where the wallet is not on the network of the token.
def transferToGravity (destination : String) : Handles (Option String) := do
  let token := handler.swapData.originalFromToken
  let amountVal ← lift (toAmount handler.swapData.fromAmount token.decimals)
  let gravityContractAddr := gravityContracts token.chainId
  handler.withEvmWallet
    (if isTron token.chainId then
      match truthy handler.swapData.sender.tron with
      | none => lift (generateError "Tron address is not specified. Cannot transfer!")
      | some owner => do
        if ← ask .checkTron then
          some <$> handler.sendToCosmosOnTron gravityContractAddr token destination amountVal owner
        else return none
    else do
      if ← ask .checkEthereum then
        some <$> handler.sendToCosmosOnEvm gravityContractAddr token destination amountVal
      else return none)

def transferEvmToIBC (swapRoute : String) : Handles (Option String) := handler.withEvmWallet do
  let token := handler.swapData.originalFromToken
  let finalTransferAddress := getFinalEvmAddress token.chainId handler.swapData.sender.evm
    handler.swapData.sender.tron
  match gravityContracts token.chainId with
  | none => lift (generateError "No gravity contract addr or no from token")
  | some gravityContractAddr =>
    let finalFromAmount ← lift (toAmount handler.swapData.fromAmount token.decimals)
    let _ ← handler.evmWallet.checkOrIncreaseAllowance token finalTransferAddress gravityContractAddr
      (String.ofList (bigIntText finalFromAmount))
    handler.transferToGravity swapRoute

theorem evmSwapTransaction_asks {P : Request → Prop} (htime : P .getTime) (data : EvmSwapData)
    (gravityContractAddr routerV2Addr finalFromAmount : String) (minimumReceive : Int)
    (finalRecipientAddress : String) :
    (handler.evmSwapTransaction data gravityContractAddr routerV2Addr finalFromAmount minimumReceive
      finalRecipientAddress).Asks P := by
  rw [evmSwapTransaction]
  split
  · exact Asks.bind (asks_lift _) fun _ => asks_pure _
  · exact Asks.bind (ask_asks htime) fun _ => asks_pure _
  · split
    · exact Asks.bind (ask_asks htime) fun _ => asks_pure _
    · exact Asks.bind (asks_lift _) fun _ => Asks.bind (asks_lift _) fun _ => asks_pure _

theorem evmSwap_movesOnce (data : EvmSwapData) : MovesOnce (handler.evmSwap data) := by
  rw [evmSwap, withEvmWallet]
  split
  · refine .after (ask_quiet rfl) fun _ => .after (asks_lift _) fun _ => ?_
    refine .after (asks_lift _) fun _ => .after (asks_lift _) fun _ => .after (asks_lift _) fun _ => ?_
    refine .after (ask_quiet rfl) fun _ => .after (asks_lift _) fun _ => .after (asks_lift _) fun _ => ?_
    refine .after ((EvmWallet.checkOrIncreaseAllowance_asks _ _ _ _).mono fun _ h => h.moves_nothing)
      fun _ => .after (evmSwapTransaction_asks handler (ne_true_of_eq_false rfl) _ _ _ _ _ _) fun transaction => ?_
    exact (EvmWallet.sendAndWait_movesOnce transaction).map _
  · exact (asks_lift _).quiet

theorem sendToCosmosOnTron_movesOnce (gravityContractAddr : Option String) (token : SwapToken)
    (destination : String) (amountVal : Int) (owner : String) :
    MovesOnce
      (handler.sendToCosmosOnTron gravityContractAddr token destination amountVal owner) := by
  refine .after (asks_lift _) fun _ => .after (asks_lift _) fun _ => .after (asks_lift _) fun _ => ?_
  exact EvmWallet.submitTronSmartContract_movesOnce _ _ _ _ _

theorem sendToCosmosOnEvm_movesOnce (gravityContractAddr : Option String) (token : SwapToken)
    (destination : String) (amountVal : Int) :
    MovesOnce (handler.sendToCosmosOnEvm gravityContractAddr token destination amountVal) := by
  rw [sendToCosmosOnEvm]
  split
  · exact .after (ask_quiet rfl) fun _ => (EvmWallet.sendAndWait_movesOnce _).map _
  · exact (asks_lift _).quiet

theorem transferToGravity_movesOnce (destination : String) :
    MovesOnce (handler.transferToGravity destination) := by
  refine .after (asks_lift _) fun amountVal => ?_
  rw [withEvmWallet]
  split
  · split
    · split
      · exact (asks_lift _).quiet
      · refine .after (ask_quiet rfl) fun _ => ?_
        split
        · exact (handler.sendToCosmosOnTron_movesOnce _ _ _ _ _).map _
        · exact (asks_pure _).quiet
    · refine .after (ask_quiet rfl) fun _ => ?_
      split
      · exact (handler.sendToCosmosOnEvm_movesOnce _ _ _ _).map _
      · exact (asks_pure _).quiet
  · exact (asks_lift _).quiet

theorem transferEvmToIBC_movesOnce (swapRoute : String) :
    MovesOnce (handler.transferEvmToIBC swapRoute) := by
  rw [transferEvmToIBC, withEvmWallet]
  split
  · dsimp only
    split
    · exact (asks_lift _).quiet
    · refine .after (asks_lift _) fun _ => ?_
      refine .after ((EvmWallet.checkOrIncreaseAllowance_asks _ _ _ _).mono
        fun _ h => h.moves_nothing) fun _ => ?_
      exact handler.transferToGravity_movesOnce swapRoute
  · exact (asks_lift _).quiet

end Handler

def EvmTransaction.taker : EvmTransaction → Option String
  | .approve .. | .bridgeFromETH .. => none
  | .swapExactTokensForETH router .. | .swapExactTokensForTokens router .. => some router
  | .bridgeFromERC20 contract .. | .sendToCosmos contract .. => some contract

def Request.taker? : Request → Option String
  | .transact transaction => transaction.taker
  | _ => none

theorem Request.taker?_eq_none {request : Request} (h : ¬ request.moves = true) :
    request.taker? = none := by
  cases request with
  | transact transaction => cases transaction <;> first | rfl | exact absurd rfl h
  | _ => rfl

def takers (trace : List Asked) : List String := trace.filterMap fun e => Request.taker? e.request

theorem takers_append (first second : List Asked) :
    takers (first ++ second) = takers first ++ takers second := List.filterMap_append

theorem takers_quiet {α : Type} {program : Handles α} (h : MovesNothing program)
    {trace : List Asked} {outcome : Except JsError α} (hrun : Runs program trace outcome) :
    takers trace = [] :=
  List.filterMap_eq_nil_iff.mpr fun e he => Request.taker?_eq_none (h.mem hrun e he)

def spenders (trace : List Asked) : List String :=
  trace.filterMap fun e => Request.spender? e.request

theorem spenders_append (first second : List Asked) :
    spenders (first ++ second) = spenders first ++ spenders second := List.filterMap_append

theorem spender?_eq_none {transaction : EvmTransaction} {taker : String}
    (h : transaction.taker = some taker) : Request.spender? (.transact transaction) = none := by
  cases transaction <;> first | rfl | cases h

namespace Handler

variable {handler : Handler} {data : EvmSwapData} {trace : List Asked}

theorem checkOrIncreaseAllowance_spenders {wallet : EvmWallet} {token : SwapToken}
    {owner : Option String} {spender amount contract : String} {outcome : Option String}
    (hcontract : truthy token.contractAddress = some contract)
    (hrun : Runs (wallet.checkOrIncreaseAllowance token owner spender amount) trace (.ok outcome)) :
    spenders trace ≠ [] ∧ ∀ other ∈ spenders trace, other = spender := by
  have hallows := (EvmWallet.checkOrIncreaseAllowance_asks token owner spender amount).mem hrun
  constructor
  · rw [EvmWallet.checkOrIncreaseAllowance, hcontract] at hrun
    obtain ⟨ownerHex, -, hrun⟩ := runs_lift_bind_ok_iff.mp hrun
    obtain ⟨currentAllowance, rest, rfl, -⟩ := runs_request_bind_ok_iff.mp hrun
    exact List.cons_ne_nil spender (spenders rest)
  · intro other hother
    obtain ⟨e, he, hspender⟩ := List.mem_filterMap.mp hother
    exact (hallows e he).spender_eq other hspender

theorem evmSwapTransaction_taker {gravityContractAddr routerV2Addr finalFromAmount : String}
    {minimumReceive : Int} {finalRecipientAddress contract : String} {transaction : EvmTransaction}
    (hcontract : truthy data.fromToken.contractAddress = some contract)
    (hrun : Runs (handler.evmSwapTransaction data gravityContractAddr routerV2Addr finalFromAmount
      minimumReceive finalRecipientAddress) trace (.ok transaction)) :
    transaction.taker = some (if (truthy data.toTokenContractAddr).isSome ∧ data.destination ≠ ""
      then gravityContractAddr else routerV2Addr) := by
  rw [evmSwapTransaction, hcontract] at hrun
  cases hto : truthy data.toTokenContractAddr with
  | none =>
    rw [hto] at hrun
    obtain ⟨now, rest, -, hrun⟩ := runs_request_bind_ok_iff.mp hrun
    cases (runs_pure_iff.mp hrun).2
    rfl
  | some toContract =>
    rw [hto] at hrun
    dsimp only at hrun
    split at hrun
    · rename_i hempty
      obtain ⟨now, rest, -, hrun⟩ := runs_request_bind_ok_iff.mp hrun
      cases (runs_pure_iff.mp hrun).2
      simp [EvmTransaction.taker, hempty]
    · rename_i hdestination
      obtain ⟨fromToken, -, hrun⟩ := runs_lift_bind_ok_iff.mp hrun
      obtain ⟨toToken, -, hrun⟩ := runs_lift_bind_ok_iff.mp hrun
      cases (runs_pure_iff.mp hrun).2
      simp [EvmTransaction.taker, hdestination]

theorem evmSwapTransaction_silent {gravityContractAddr routerV2Addr finalFromAmount : String}
    {minimumReceive : Int} {finalRecipientAddress : String} {transaction : EvmTransaction}
    (hrun : Runs (handler.evmSwapTransaction data gravityContractAddr routerV2Addr finalFromAmount
      minimumReceive finalRecipientAddress) trace (.ok transaction)) :
    takers trace = [] ∧ spenders trace = [] := by
  have htime := (evmSwapTransaction_asks handler (P := fun request => request = .getTime) rfl data
    gravityContractAddr routerV2Addr finalFromAmount minimumReceive finalRecipientAddress).mem hrun
  constructor <;> refine List.filterMap_eq_nil_iff.mpr fun e he => ?_ <;> rw [htime e he] <;> rfl

theorem sendAndWait_taker {transaction : EvmTransaction} {taker hash : String}
    (htaker : transaction.taker = some taker)
    (hrun : Runs (Prod.fst <$> EvmWallet.sendAndWait transaction) trace (.ok hash)) :
    takers trace = [taker] ∧ spenders trace = [] := by
  obtain ⟨hashes, sent, nothing, rfl, hsend, hnothing⟩ := runs_bind_ok_iff.mp hrun
  obtain ⟨result, waiting, rfl, hwait⟩ := runs_request_bind_ok_iff.mp hsend
  obtain ⟨receipt, rest, rfl, hrest⟩ := runs_request_bind_ok_iff.mp hwait
  obtain ⟨rfl, -⟩ := runs_pure_iff.mp hrest
  obtain ⟨rfl, -⟩ := runs_pure_iff.mp hnothing
  exact ⟨List.filterMap_cons_some htaker, List.filterMap_cons_none (spender?_eq_none htaker)⟩

-- A swap that ends on its own chain is sent to the router, with the bridge contract approved.
theorem evmSwap_spender_iff (data : EvmSwapData) {contract hash : String}
    (hcontract : truthy data.fromToken.contractAddress = some contract)
    (hrun : Runs (handler.evmSwap data) trace (.ok hash)) :
    ∃ gravityContractAddr routerV2Addr spender taker,
      ⟨.swapRouter gravityContractAddr, .ok routerV2Addr⟩ ∈ trace ∧
      takers trace = [taker] ∧ spenders trace ≠ [] ∧ (∀ other ∈ spenders trace, other = spender) ∧
      (taker = spender ↔ (truthy data.toTokenContractAddr).isSome ∧ data.destination = "" →
        gravityContractAddr = routerV2Addr) := by
  rw [evmSwap, withEvmWallet] at hrun
  split at hrun
  · obtain ⟨signer, afterSigner, htrace, hrun⟩ := runs_request_bind_ok_iff.mp hrun
    obtain ⟨amount, -, hrun⟩ := runs_lift_bind_ok_iff.mp hrun
    obtain ⟨gravityContractAddr, -, hrun⟩ := runs_lift_bind_ok_iff.mp hrun
    obtain ⟨checkSumAddress, -, hrun⟩ := runs_lift_bind_ok_iff.mp hrun
    obtain ⟨finalRecipientAddress, -, hrun⟩ := runs_lift_bind_ok_iff.mp hrun
    obtain ⟨routerV2Addr, afterRouter, hrouter, hrun⟩ := runs_request_bind_ok_iff.mp hrun
    obtain ⟨minReceive, -, hrun⟩ := runs_lift_bind_ok_iff.mp hrun
    obtain ⟨minimumReceive, -, hrun⟩ := runs_lift_bind_ok_iff.mp hrun
    obtain ⟨approval, allowing, afterApproval, happroval, hallow, hrun⟩ := runs_bind_ok_iff.mp hrun
    obtain ⟨transaction, building, sending, hbuilding, hbuild, hsend⟩ := runs_bind_ok_iff.mp hrun
    subst hbuilding happroval hrouter htrace
    obtain ⟨htakesBuilding, hnamesBuilding⟩ := evmSwapTransaction_silent hbuild
    obtain ⟨htaken, hnamesSending⟩ :=
      sendAndWait_taker (evmSwapTransaction_taker hcontract hbuild) hsend
    have htakesAllowing := takers_quiet ((EvmWallet.checkOrIncreaseAllowance_asks _ _ _ _).mono
      fun _ h => h.moves_nothing) hallow
    obtain ⟨hasked, honly⟩ := checkOrIncreaseAllowance_spenders hcontract hallow
    have hspenders : spenders (⟨.getSigner, .ok signer⟩ ::
        ⟨.swapRouter gravityContractAddr, .ok routerV2Addr⟩ :: (allowing ++ (building ++ sending))) =
          spenders allowing := by
      change spenders (allowing ++ (building ++ sending)) = _
      rw [spenders_append, spenders_append, hnamesBuilding, hnamesSending, List.append_nil,
        List.append_nil]
    have htakers : takers (⟨.getSigner, .ok signer⟩ ::
        ⟨.swapRouter gravityContractAddr, .ok routerV2Addr⟩ :: (allowing ++ (building ++ sending))) =
          [if (truthy data.toTokenContractAddr).isSome ∧ data.destination ≠ "" then
            gravityContractAddr else routerV2Addr] := by
      change takers (allowing ++ (building ++ sending)) = _
      rw [takers_append, takers_append, htakesAllowing, htakesBuilding, htaken]
      rfl
    refine ⟨gravityContractAddr, routerV2Addr, if (truthy data.toTokenContractAddr).isSome then
      gravityContractAddr else routerV2Addr, _, ?_, htakers, ?_, ?_, ?_⟩
    · exact List.mem_cons_of_mem _ List.mem_cons_self
    · rw [hspenders]
      exact hasked
    · rw [hspenders]
      exact honly
    · by_cases hto : (truthy data.toTokenContractAddr).isSome = true
      · by_cases hdestination : data.destination = ""
        · simp [hto, hdestination, eq_comm]
        · simp [hto, hdestination]
      · simp [hto]
  · cases (runs_lift_iff.mp hrun).2

end Handler

theorem truthy_some {text : String} (h : text ≠ "") : truthy (some text) = some text := by
  rw [truthy, Option.filter_some, if_pos (decide_eq_true h)]

section Bsc

def emptyCommon : OraidexCommon where
  oraichainTokens := []
  cosmosTokens := []
  flattenTokens := []
  tokenMap := fun _ => none
  cosmosChains := []
  rpc := "rpc"
  chainId := "Oraichain"
  mixerRouter := "router"
  converter := "converter"
  gasPrice := "0.003orai"

def tetherHandler (chainId contract : String) (units : Int) : Handler where
  swapData :=
    { sender := ⟨exampleAddress, some "0xowner", none, none⟩
      originalFromToken := tether chainId contract
      originalToToken := tether "Oraichain" "orai1usdt"
      fromAmount := .finite ⟨units, 0⟩
      simulateAmount := "1"
      userSlippage := some ⟨1, 0⟩
      bridgeFee := none
      slippage := ⟨false, "0.99"⟩
      simulatePrice := some "1"
      relayerFee := none
      amounts := none
      recipientAddress := none
      alphaSmartRoutes := none
      tokenOutChainIds := fun _ => none
      affiliates := none }
  swapOptions := none
  hasCosmosWallet := false
  hasEvmWallet := true
  hasTonWallet := false
  evmWallet := browserWallet
  defaultTronAddress := none
  common := emptyCommon
  currentTimestamp := 1710000000000
  memoTimeout := 3600
  codec := tableCodec
  runtime := Memo.exampleWire
  routers := quoting "1"
  toLowerCase := id
  memoText := fun _ => ""
  stringifyToken := fun _ => ""
  stringifyError := fun _ => ""
  stringifyMessage := fun _ => ""
  coin := fun amount denom => .ok ⟨denom, amount⟩

def bridgeOf (contract : String) : TokenContract :=
  ⟨contract, "0xowner", GRAVITY_EVM_CONTRACT, true, true, true⟩

def bscSwap : EvmSwapData where
  fromToken := tether "0x38" USDT_BSC_CONTRACT
  toTokenContractAddr := some AIRI_BSC_CONTRACT
  fromAmount := .finite ⟨3, 0⟩
  metamaskAddress := some "0xowner"
  tronAddress := none
  slippage := some ⟨1, 0⟩
  destination := ""
  simulatePrice := some "1"

-- The router of the example is not the bridge contract that is approved.
theorem bsc_swap_spender :
    let run := ((tetherHandler "0x38" USDT_BSC_CONTRACT 3).evmSwap bscSwap).simulate
      (bridgeOf USDT_BSC_CONTRACT).respond ⟨0, 0, none⟩
    ∃ gravityContractAddr routerV2Addr spender taker,
      ⟨.swapRouter gravityContractAddr, .ok routerV2Addr⟩ ∈ run.1 ∧
      takers run.1 = [taker] ∧ spenders run.1 ≠ [] ∧ (∀ other ∈ spenders run.1, other = spender) ∧
      (taker = spender ↔ (truthy (some AIRI_BSC_CONTRACT)).isSome ∧ "" = "" →
        gravityContractAddr = routerV2Addr) := by
  intro run
  have hrun := (simulate_runs (bridgeOf USDT_BSC_CONTRACT).respond_step
    ((tetherHandler "0x38" USDT_BSC_CONTRACT 3).evmSwap bscSwap) ⟨0, 0, none⟩).1
  have houtcome : (((tetherHandler "0x38" USDT_BSC_CONTRACT 3).evmSwap bscSwap).simulate
      (bridgeOf USDT_BSC_CONTRACT).respond ⟨0, 0, none⟩).2.1 = .ok "0x" := by decide +kernel
  rw [houtcome] at hrun
  exact Handler.evmSwap_spender_iff bscSwap (truthy_some (by decide)) hrun

end Bsc

end OraidexSdk.UniversalSwap
