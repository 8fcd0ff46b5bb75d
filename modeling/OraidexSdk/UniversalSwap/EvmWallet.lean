import OraidexSdk.Interaction.World
import OraidexSdk.UniversalSwap.HandlerData

namespace OraidexSdk.UniversalSwap
open Js Outcome Interaction Program

-- An EvmWallet with the libraries behind it: what ethers throws on a text that it cannot read,
-- and String(error).
structure EvmWallet where
  env : Environment
  ethers : Ethers
  ethersError : JsError
  errorText : JsError → String
  hasTronWeb : Bool

-- EVM_CHAIN_IDS_DECIMAL.tron
def tronDecimal : Nat := 728126428

def isTron (chainId : String) : Bool := number chainId.toList = .finite tronDecimal

def getFinalEvmAddress (chainId : String) (metamaskAddress tronAddress : Option String) :
    Option String :=
  if isTron chainId then tronAddress else metamaskAddress

-- token.chainId === "0x01" && token.coinGeckoId === "tether"
def isUsdtErc20 (token : SwapToken) : Bool :=
  token.chainId = "0x01" ∧ token.coinGeckoId = some "tether"

namespace EvmWallet

variable (wallet : EvmWallet)

-- ethers reads undefined as little as a malformed text.
def readText {α : Type} (value : Option α) : Except JsError α :=
  value.elim (.error wallet.ethersError) .ok

def buildAndSend (address functionSelector : String) (options : TriggerOptions)
    (parameters : List (Parameter Unit)) (issuerAddress : String) : Handles String := do
  let parameters ← lift (convertFirstUint256 parameters)
  let tronAddress ← lift (tronIssuer wallet.ethers wallet.ethersError issuerAddress)
  let call : TronCall :=
    ⟨address, functionSelector, ⟨some (options.feeLimit.getD (.finite 40000000))⟩, parameters,
      tronAddress⟩
  let transaction ← ask (.triggerSmartContract call)
  if transaction.result = some true then
    let signedTransaction ← ask (.sign call transaction.transaction)
    ask (.sendRawTransaction call signedTransaction)
  else lift (.error (.error ("Unknown trigger error: " ++ transaction.transaction)))

def submitTronSmartContract (address functionSelector : String) (options : TriggerOptions)
    (parameters : List (Parameter Unit)) (issuerAddress : String) : Handles String :=
  if wallet.hasTronWeb then
    (wallet.buildAndSend address functionSelector options parameters issuerAddress).rescue
      fun error => lift (.error (.error (wallet.errorText error)))
  else lift (.error (.error
    "You need to initialize tron web before calling submitTronSmartContract."))

-- We store the tron address in base58 form.
def ownerHex (token : SwapToken) (owner : Option String) : Except JsError String :=
  wallet.readText (if isTron token.chainId then owner.bind (tronToEthAddress wallet.env) else owner)

def tronAddressOf (address : String) : Except JsError String :=
  wallet.readText (ethToTronAddress wallet.ethers address)

-- The hash of a transaction, and the one that its receipt names.
def sendAndWait (transaction : EvmTransaction) : Handles (String × String) := do
  let result ← ask (.transact transaction)
  let receipt ← ask (.wait result)
  return (result, receipt)

-- The text of an allowance is never empty, so the first approval of USDT is sent for zero too.
def approve (token : SwapToken) (contractAddress spender amount owner : String) :
    Handles String := do
  let _ ← ask .getSigner
  if isUsdtErc20 token then
    let _ ← sendAndWait (.approve contractAddress spender "0" owner)
  Prod.fst <$> sendAndWait (.approve contractAddress spender amount owner)

def approveOnTron (contractAddress spender amount owner : String) : Handles String := do
  let address ← lift (wallet.tronAddressOf contractAddress)
  wallet.submitTronSmartContract address approveSelector ⟨none⟩
    [⟨"address", .text spender⟩, ⟨"uint256", .text amount⟩] owner

-- The hash of the approval, or undefined.
def checkOrIncreaseAllowance (token : SwapToken) (owner : Option String) (spender amount : String) :
    Handles (Option String) :=
  match truthy token.contractAddress with
  | none => return none
  | some contractAddress => do
    let owner ← lift (wallet.ownerHex token owner)
    let currentAllowance ← ask (.allowance contractAddress token.rpc owner spender)
    let needed ← lift (bigInt amount.toList)
    if (currentAllowance : Nat) ≥ needed then return none
    else if isTron token.chainId then
      if ← ask .checkTron then some <$> wallet.approveOnTron contractAddress spender amount owner
      else return none
    else if ← ask .checkEthereum then some <$> approve token contractAddress spender amount owner
    else return none

-- What a TronWeb answers whose transactions are JSON texts.
def tronAnswers (tronWeb : TronWeb Unit String String) :
    ∀ request : Request, Except JsError request.Answer
  | .triggerSmartContract call => tronWeb.triggerSmartContract call
  | .sign _ transaction => tronWeb.sign transaction
  | .sendRawTransaction _ signedTransaction => tronWeb.sendRawTransaction signedTransaction
  | request => .ok request.someAnswer

theorem submitTronSmartContract_run {tronWeb : TronWeb Unit String String}
    (hstringify : tronWeb.stringify = id) (hweb : wallet.hasTronWeb = true)
    (address functionSelector : String) (options : TriggerOptions)
    (parameters : List (Parameter Unit)) (issuerAddress : String) :
    ((wallet.submitTronSmartContract address functionSelector options parameters issuerAddress).run
        (tronAnswers tronWeb)).2 =
      (OraidexSdk.submitTronSmartContract wallet.ethers wallet.ethersError wallet.errorText
        (some tronWeb) address functionSelector (some options) parameters issuerAddress).outcome := by
  have hbuild : ((wallet.buildAndSend address functionSelector options parameters issuerAddress).run
      (tronAnswers tronWeb)).2 =
      (OraidexSdk.buildAndSend wallet.ethers wallet.ethersError tronWeb address functionSelector options
        parameters issuerAddress).outcome := by
    rw [buildAndSend, OraidexSdk.buildAndSend, run_bind, Logged.outcome_lift_bind]
    congr 1
    funext parameters
    rw [run_bind, Logged.outcome_lift_bind]
    congr 1
    funext tronAddress
    rw [Logged.outcome_record_bind, run_bind]
    change _ = signAndSend tronWeb _
    rw [signAndSend]
    congr 1
    funext transaction
    split
    · rw [run_bind]
      rfl
    · rw [hstringify]
      rfl
  rw [submitTronSmartContract, if_pos hweb, run_rescue, hbuild]
  change _ = Except.mapError _ _
  split
  · rename_i hok
    rw [hok]
    rfl
  · rename_i herror
    rw [herror]
    rfl

end EvmWallet

def Request.spender? : Request → Option String
  | .allowance _ _ _ spender | .transact (.approve _ spender _ _) => some spender
  | .triggerSmartContract ⟨_, functionSelector, _, ⟨_, .text spender⟩ :: _, _⟩ =>
    if functionSelector = approveSelector then some spender else none
  | _ => none

structure Request.Allows (spender : String) (request : Request) : Prop where
  moves_nothing : ¬ request.moves = true
  spender_eq : ∀ other, request.spender? = some other → other = spender

namespace EvmWallet

variable {wallet : EvmWallet}

theorem sendAndWait_movesOnce (transaction : EvmTransaction) :
    MovesOnce (sendAndWait transaction) :=
  (ask_movesOnce _).followed (fun _ => Asks.bind (ask_asks rfl) fun _ => asks_pure _)
    fun _ => Request.not_moves_of_isReceipt

theorem buildAndSend_movesOnce (address functionSelector : String) (options : TriggerOptions)
    (parameters : List (Parameter Unit)) (issuerAddress : String) :
    MovesOnce (wallet.buildAndSend address functionSelector options parameters issuerAddress) := by
  refine .after (asks_lift _) fun parameters => .after (asks_lift _) fun tronAddress => ?_
  refine .after (ask_quiet rfl) fun transaction => ?_
  split
  · exact .after (ask_quiet rfl) fun signedTransaction => ask_movesOnce _
  · exact (asks_lift _).quiet

theorem submitTronSmartContract_movesOnce (address functionSelector : String)
    (options : TriggerOptions) (parameters : List (Parameter Unit)) (issuerAddress : String) :
    MovesOnce
      (wallet.submitTronSmartContract address functionSelector options parameters issuerAddress) := by
  rw [submitTronSmartContract]
  split
  · exact (buildAndSend_movesOnce _ _ _ _ _).rescued fun _ => asks_lift _
  · exact (asks_lift _).quiet

theorem approve_asks (token : SwapToken) (contractAddress spender amount owner : String) :
    (approve token contractAddress spender amount owner).Asks (Request.Allows spender) := by
  have hsend (amount : String) :
      (sendAndWait (.approve contractAddress spender amount owner)).Asks
        (Request.Allows spender) := by
    refine Asks.bind (ask_asks ⟨nofun, ?_⟩) fun _ => ?_
    · rintro _ ⟨⟩
      rfl
    · exact Asks.bind (ask_asks ⟨nofun, nofun⟩) fun _ => asks_pure _
  refine Asks.bind (ask_asks ⟨nofun, nofun⟩) fun _ => ?_
  split
  · exact (hsend "0").bind fun _ => (hsend amount).map _
  · exact (hsend amount).map _

theorem approveOnTron_asks (contractAddress spender amount owner : String) :
    (wallet.approveOnTron contractAddress spender amount owner).Asks (Request.Allows spender) := by
  refine Asks.bind (asks_lift _) fun address => ?_
  rw [submitTronSmartContract]
  split
  · refine Asks.rescue ?_ fun _ => asks_lift _
    have hparameters : convertFirstUint256 (V := Unit)
        [⟨"address", .text spender⟩, ⟨"uint256", .text amount⟩] =
          .ok [⟨"address", .text spender⟩, ⟨"uint256", .text amount⟩] := rfl
    rw [buildAndSend, hparameters, lift_ok_bind]
    refine Asks.bind (asks_lift _) fun tronAddress => ?_
    refine Asks.bind (ask_asks ⟨nofun, ?_⟩) fun transaction => ?_
    · rintro _ ⟨⟩
      rfl
    · split
      · refine Asks.bind (ask_asks ⟨nofun, nofun⟩) fun signedTransaction => ?_
        exact ask_asks ⟨by simp [Request.moves], nofun⟩
      · exact asks_lift _
  · exact asks_lift _

theorem checkOrIncreaseAllowance_asks (token : SwapToken) (owner : Option String)
    (spender amount : String) :
    (wallet.checkOrIncreaseAllowance token owner spender amount).Asks (Request.Allows spender) := by
  rw [checkOrIncreaseAllowance]
  split
  · exact asks_pure _
  · refine Asks.bind (asks_lift _) fun owner => ?_
    refine Asks.bind (ask_asks ⟨nofun, ?_⟩) fun currentAllowance => Asks.bind (asks_lift _) fun needed => ?_
    · rintro _ ⟨⟩
      rfl
    · split
      · exact asks_pure _
      · split
        · refine Asks.bind (ask_asks ⟨nofun, nofun⟩) fun _ => ?_
          split
          · exact (approveOnTron_asks _ _ _ _).map _
          · exact asks_pure _
        · refine Asks.bind (ask_asks ⟨nofun, nofun⟩) fun _ => ?_
          split
          · exact (approve_asks _ _ _ _ _).map _
          · exact asks_pure _

end EvmWallet

end OraidexSdk.UniversalSwap
