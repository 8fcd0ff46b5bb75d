import OraidexSdk.UniversalSwap.SwapGuards

namespace OraidexSdk.UniversalSwap
open Js Outcome Message Interaction Program

namespace Handler

-- What is asked of a bridge behind what was asked before: the amount of the from token, to the
-- destination. On TON only the memo of the destination is handed on, to the sender that the bridge
-- handler answers.
inductive BridgeOrder (handler : Handler) (destination : String) (earlier : List Asked) :
    Request → Prop where
  | evm {contract owner : String} {amount : Int}
      (hcontract : gravityContracts handler.swapData.originalFromToken.chainId = some contract)
      (howner : handler.swapData.sender.evm = some owner)
      (hamount : toAmount handler.swapData.fromAmount handler.swapData.originalFromToken.decimals =
        .ok amount) :
      BridgeOrder handler destination earlier (.transact (.sendToCosmos contract
        handler.swapData.originalFromToken.contractAddress destination amount owner))
  | tron {contract address owner ethAddress issuer signedTransaction : String} {amount : Int}
      (hcontract : gravityContracts handler.swapData.originalFromToken.chainId = some contract)
      (haddress : handler.evmWallet.tronAddressOf contract = .ok address)
      (howner : handler.swapData.sender.tron = some owner)
      (heth : handler.tronToEthAddress (some owner) = .ok ethAddress)
      (hissuer : tronIssuer handler.evmWallet.ethers handler.evmWallet.ethersError ethAddress =
        .ok issuer)
      (hamount : toAmount handler.swapData.fromAmount handler.swapData.originalFromToken.decimals =
        .ok amount) :
      BridgeOrder handler destination earlier (.sendRawTransaction
        ⟨address, "sendToCosmos(address,string,uint256)", ⟨some (.finite 40000000)⟩,
          [⟨"address", handler.swapData.originalFromToken.contractAddress.elim (.other ()) .text⟩,
            ⟨"string", .text destination⟩, ⟨"uint256", .text (String.ofList (bigIntText amount))⟩],
          issuer⟩ signedTransaction)
  | ton {receiver tonCenterUrl : String}
      (hreceiver : ⟨.createTonBridgeHandler handler.swapData.originalToToken.rpc tonCenterUrl,
        .ok receiver⟩ ∈ earlier) :
      BridgeOrder handler destination earlier (.sendToCosmos receiver handler.swapData.fromAmount
        handler.swapData.originalFromToken.denom (tonMemo destination))

theorem BridgeOrder.mono {handler : Handler} {destination : String} {check earlier : List Asked}
    {request : Request} (h : handler.BridgeOrder destination check request) (hsub : check ⊆ earlier) :
    handler.BridgeOrder destination earlier request := by
  cases h with
  | evm hcontract howner hamount => exact .evm hcontract howner hamount
  | tron hcontract haddress howner heth hissuer hamount =>
    exact .tron hcontract haddress howner heth hissuer hamount
  | ton hreceiver => exact .ton (hsub hreceiver)

variable {handler : Handler} {destination : String} {request : Request}

end Handler

section Bsc

end Bsc

end OraidexSdk.UniversalSwap
