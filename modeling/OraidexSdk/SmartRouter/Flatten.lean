import OraidexSdk.SmartRouter.Data
import OraidexSdk.Js.Text

namespace OraidexSdk.SmartRouter
open Js

-- A key that the object literal does not have is none.
structure Entry where
  type : Option ActionType
  tokenIn : Option String
  tokenInAmount : Option String
  tokenOut : Option String
  tokenOutAmount : Option String
  protocol : Option String
  swapInfo : Option (List SwapInfo)
  bridgeInfo : Option BridgeInfo
  path : Option Nat
  chainId : Option String
  isLastPath : Option Bool
deriving DecidableEq

namespace Entry

-- { ...a, ...b }
def spread (a b : Entry) : Entry where
  type := b.type <|> a.type
  tokenIn := b.tokenIn <|> a.tokenIn
  tokenInAmount := b.tokenInAmount <|> a.tokenInAmount
  tokenOut := b.tokenOut <|> a.tokenOut
  tokenOutAmount := b.tokenOutAmount <|> a.tokenOutAmount
  protocol := b.protocol <|> a.protocol
  swapInfo := b.swapInfo <|> a.swapInfo
  bridgeInfo := b.bridgeInfo <|> a.bridgeInfo
  path := b.path <|> a.path
  chainId := b.chainId <|> a.chainId
  isLastPath := b.isLastPath <|> a.isLastPath

def ofAction (action : Action) (path : Nat) (chainId : String) (isLastPath : Bool) : Entry where
  type := some action.type
  tokenIn := some action.tokenIn
  tokenInAmount := some action.tokenInAmount
  tokenOut := some action.tokenOut
  tokenOutAmount := some action.tokenOutAmount
  protocol := action.protocol
  swapInfo := action.swapInfo
  bridgeInfo := action.bridgeInfo
  path := some path
  chainId := some chainId
  isLastPath := some isLastPath

def objActionSwap (path : Path) : Entry where
  type := some .swap
  tokenIn := some path.tokenIn
  tokenInAmount := some path.tokenInAmount
  tokenOut := some path.tokenOut
  tokenOutAmount := some path.tokenOutAmount
  protocol := none
  swapInfo := some []
  bridgeInfo := none
  path := none
  chainId := none
  isLastPath := none

end Entry

def isInOraichain (path : Path) : Bool := path.chainId = "Oraichain"

def isSwapInOraichain (path : Path) (action : Action) : Bool :=
  action.type = .swap && isInOraichain path

def pathsSwapInOraichain (path : Path) : List Action := path.actions.filter (isSwapInOraichain path)

-- The test under which a Swap action pushes the entry aggregated so far.
def pushes (path : Path) (actionIndex : Nat) : Bool :=
  let swaps := (pathsSwapInOraichain path).length
  (swaps > 1 && swaps - 1 = actionIndex) || swaps = 1

def spreadSwapInfo (obj : Entry) (action : Action) : Except JsError (List SwapInfo) :=
  match obj.swapInfo, action.swapInfo with
  | some a, some b => .ok (a ++ b)
  | _, _ => .error .typeError

def actionsPath (i : Nat) (isLastPath : Bool) (path : Path) (action : Action) (actionIndex : Nat) :
    Entry :=
  .ofAction action i path.chainId (isLastPath && path.actions.length ≤ actionIndex + 1)

def visitAction (i : Nat) (isLastPath : Bool) (path : Path) (state : Entry × List Entry)
    (x : Action × Nat) : Except JsError (Entry × List Entry) :=
  let (obj, routesFlatten) := state
  let (action, actionIndex) := x
  let entry := actionsPath i isLastPath path action actionIndex
  if isSwapInOraichain path action then do
    let swapInfo ← spreadSwapInfo obj action
    let obj := { entry.spread obj with
      tokenOutAmount := some action.tokenOutAmount, swapInfo := some swapInfo }
    return (obj, if pushes path actionIndex then routesFlatten ++ [obj] else routesFlatten)
  else return (obj, routesFlatten ++ [entry])

def visitPath (i pathCount : Nat) (routesFlatten : List Entry) (x : Path × Nat) :
    Except JsError (List Entry) :=
  let (path, pathIndex) := x
  Prod.snd <$> path.actions.zipIdx.foldlM (visitAction i (pathCount = pathIndex + 1) path)
    (.objActionSwap path, routesFlatten)

def visitRoute (routesFlatten : List Entry) (x : Route × Nat) : Except JsError (List Entry) :=
  x.1.paths.zipIdx.foldlM (visitPath x.2 x.1.paths.length) routesFlatten

def flattenSmartRouters (routers : List Route) : Except JsError (List Entry) :=
  routers.zipIdx.foldlM visitRoute []

end OraidexSdk.SmartRouter
