import Mathlib.Data.List.Basic

namespace OraidexSdk

-- The router answers with any string; only the three names of the enum matter.
inductive ActionType where
  | bridge
  | swap
  | convert
  | other (type : {s : String // s ∉ ["Bridge", "Swap", "Convert"]})
deriving DecidableEq

structure SwapInfo where
  poolId : String
  tokenOut : String
deriving DecidableEq, Repr

structure BridgeInfo where
  port : String
  channel : String
deriving DecidableEq, Repr

structure Action where
  type : ActionType
  tokenIn : String
  tokenInAmount : String
  tokenOut : String
  tokenOutAmount : String
  protocol : Option String
  swapInfo : Option (List SwapInfo)
  bridgeInfo : Option BridgeInfo
deriving DecidableEq

structure Path where
  chainId : String
  tokenIn : String
  tokenInAmount : String
  tokenOut : String
  tokenOutAmount : String
  tokenOutChainId : String
  actions : List Action
deriving DecidableEq

structure Route where
  swapAmount : String
  returnAmount : String
  paths : List Path
deriving DecidableEq

end OraidexSdk
