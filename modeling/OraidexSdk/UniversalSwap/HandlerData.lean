import OraidexSdk.Common.TronParameters
import OraidexSdk.Interaction.Requests
import OraidexSdk.UniversalSwap.BridgeRoute
import OraidexSdk.UniversalSwap.ConvertMessages
import OraidexSdk.UniversalSwap.SwapRoute

namespace OraidexSdk.UniversalSwap
open Js Message Interaction

structure SwapToken extends MappedTokenItem where
  -- the field named prefix
  denomPrefix : Option String
  bridgeNetworkIdentifier : Option String
  cosmosBased : Bool
  -- the coinMinimalDenom of each fee currency
  feeCurrencies : Option (List String)
  gasPriceAverage : Option String

structure Affiliate where
  address : String
  basisPointsFee : String
deriving DecidableEq, Repr

-- The operations of generateSwapOperationMsgs, or those of a smart route.
inductive RouterOperations where
  | pairs (operations : List OraiSwap)
  | smart (operations : List (OraiswapV3.SwapOperation (Number ℚ)))
deriving DecidableEq

structure ExecuteSwapOperations where
  operations : RouterOperations
  minimumReceive : String
  toAddress : Option String
  affiliates : Option (List Affiliate)
deriving DecidableEq

structure TransferBack where
  localChannelId : String
  remoteAddress : String
  remoteDenom : String
  timeout : Nat
  memo : String
deriving DecidableEq, Repr

-- The base64 JSON that toBinary makes of a message is left aside.
inductive HandlerMsg where
  | convert (input : ConvertInput)
  | executeSwapOperations (swap : ExecuteSwapOperations)
  | transferToRemote (msg : TransferBack)
  | sendSwap (contract : String) (amount : Option String) (swap : ExecuteSwapOperations)
  | sendTransfer (contract amount : String) (msg : TransferBack)
deriving DecidableEq

structure HandlerInstruction where
  contractAddress : String
  msg : HandlerMsg
  funds : Option (List Coin)
deriving DecidableEq

-- The last one is a message of generateMsgSwap.
inductive SignedMessage where
  | executeContract (sender : String) (instruction : HandlerInstruction)
  | msgTransfer (value : MsgTransfer)
  | smartRoute (object : EncodeObject)

inductive EvmTransaction where
  | approve (contract spender amount owner : String)
  | bridgeFromETH (contract toToken : String) (minimumReceive : Int) (destination value : String)
  | swapExactTokensForETH (router amount : String) (minimumReceive : Int)
      (route : Option (List String)) (recipient : String) (deadline : Nat)
  | swapExactTokensForTokens (router amount : String) (minimumReceive : Int)
      (route : Option (List String)) (recipient : String) (deadline : Nat)
  | bridgeFromERC20 (contract fromToken toToken amount : String) (minimumReceive : Int)
      (destination : String)
  | sendToCosmos (contract : String) (token : Option String) (destination : String) (amount : Int)
      (owner : String)
deriving DecidableEq, Repr

inductive ChannelBalance where
  | native (amount : String)
  | cw20
deriving DecidableEq, Repr, Inhabited

structure PairMapping where
  remoteDecimals : Int
  isMintBurn : Bool
deriving DecidableEq, Repr, Inhabited

abbrev TronCall : Type := TriggerCall Unit

-- What the handler asks its wallets, their clients and the chains. A Tron transaction is its JSON
-- text, with the call it was built for beside it.
inductive Request where
  | getKeplrAddr (chainId : String)
  | getCosmWasmClient (chainId rpc : String) (gasPrice : Option String)
  | signAndBroadcast (chainId sender : String) (messages : List SignedMessage)
  | executeMultiple (sender : String) (messages : List HandlerInstruction)
  | getBalance (address denom : String)
  | tokenBalance (contract address : String)
  | channelWithKey (contract channelId denom : String)
  | pairMapping (contract key : String)
  | getEthAddress
  | switchNetwork (chainId : String)
  | checkTron
  | checkEthereum
  | getSigner
  | allowance (contract rpc owner spender : String)
  | swapRouter (contract : String)
  | getTime
  | transact (transaction : EvmTransaction)
  | wait (transactionHash : String)
  | triggerSmartContract (call : TronCall)
  | sign (call : TronCall) (transaction : String)
  | sendRawTransaction (call : TronCall) (signedTransaction : String)
  | getTonAddress
  | getHttpEndpoint
  | createTonBridgeHandler (rpc tonCenterUrl : String)
  | sendToCosmos (receiver : String) (amount : Number DecimalNumber) (denom memo : String)

abbrev Request.Answer : Request → Type
  | getKeplrAddr _ | signAndBroadcast .. | executeMultiple .. | getBalance .. | tokenBalance ..
  | getEthAddress | swapRouter _ | transact _ | wait _ | sign .. | sendRawTransaction ..
  | getTonAddress | getHttpEndpoint | createTonBridgeHandler .. => String
  | getCosmWasmClient .. | switchNetwork _ | getSigner | sendToCosmos .. => Unit
  | channelWithKey .. => ChannelBalance
  | pairMapping .. => PairMapping
  | checkTron | checkEthereum => Bool
  | allowance .. | getTime => Nat
  | triggerSmartContract _ => TriggerResult String

def Request.someAnswer : ∀ request : Request, request.Answer
  | getKeplrAddr _ | signAndBroadcast .. | executeMultiple .. | getBalance .. | tokenBalance ..
  | getEthAddress | swapRouter _ | transact _ | wait _ | sign .. | sendRawTransaction ..
  | getTonAddress | getHttpEndpoint | createTonBridgeHandler .. => "0x"
  | getCosmWasmClient .. | switchNetwork _ | getSigner | sendToCosmos .. => ()
  | channelWithKey .. => .cw20
  | pairMapping .. => default
  | checkTron | checkEthereum => true
  | allowance .. | getTime => (0 : Nat)
  | triggerSmartContract _ => ⟨some true, ""⟩

def approveSelector : String := "approve(address,uint256)"

-- What moves funds of the user: all that is signed and sent, apart from approvals.
def Request.moves : Request → Bool
  | signAndBroadcast .. | executeMultiple .. | sendToCosmos .. => true
  | transact (.approve ..) => false
  | transact _ => true
  | sendRawTransaction call _ => call.functionSelector ≠ approveSelector
  | _ => false

def Request.isReceipt : Request → Bool
  | wait _ => true
  | _ => false

theorem Request.not_moves_of_isReceipt {request : Request} (h : request.isReceipt = true) :
    ¬ request.moves = true := by
  cases request with
  | wait => exact ne_true_of_eq_false rfl
  | _ => cases h

abbrev requests : Interface := ⟨Request, Request.Answer⟩

abbrev Asked : Type := Event requests JsError

abbrev Handles (α : Type) : Type := Program requests JsError α

-- Nothing moves, or one request moves funds and only its receipt is asked for behind it.
abbrev MovesOnce {α : Type} (program : Handles α) : Prop :=
  program.Commits (fun request : Request => request.moves = true)
    fun request : Request => request.isReceipt = true

abbrev MovesNothing {α : Type} (program : Handles α) : Prop :=
  program.Asks fun request : Request => ¬ request.moves = true

def ask (request : Request) : Handles request.Answer := Program.request (I := requests) request

theorem ask_asks {P : Request → Prop} {request : Request} (h : P request) :
    (ask request).Asks P := Program.asks_request (I := requests) h

theorem ask_quiet {request : Request} (h : request.moves = false) : MovesNothing (ask request) :=
  ask_asks (ne_true_of_eq_false h)

theorem ask_movesOnce (request : Request) : MovesOnce (ask request) :=
  Program.commits_request (I := requests) request

end OraidexSdk.UniversalSwap
