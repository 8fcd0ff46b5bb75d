import OraidexSdk.BigDecimal.Printing
import OraidexSdk.BigDecimal.Truncation
import OraidexSdk.BigDecimal.Operands
import OraidexSdk.BigDecimal.Literals
import OraidexSdk.BigDecimal.Flooring
import OraidexSdk.SmartRouter.Completeness
import OraidexSdk.Common.EvmAddress
import OraidexSdk.Message.Slippage
import OraidexSdk.Message.Nesting
import OraidexSdk.Message.Hops
import OraidexSdk.Message.EvmRecipient
import OraidexSdk.Loops.Walk
import OraidexSdk.Message.Chaining
import OraidexSdk.Message.Custody
import OraidexSdk.Js.Fields
import OraidexSdk.Js.Number
import OraidexSdk.OraiswapV3.PoolKey
import OraidexSdk.Js.Rendering
import OraidexSdk.Common.Display
import OraidexSdk.UniversalSwap.BridgeRoute
import OraidexSdk.UniversalSwap.Memo
import OraidexSdk.UniversalSwap.RouteV2
import OraidexSdk.Loops.Logged
import OraidexSdk.Loops.Lookup
import OraidexSdk.Message.Failures
import OraidexSdk.OraiswapV3.ZapIn
import OraidexSdk.Message.BridgeAddress
import OraidexSdk.OraiswapV3.SwapOperations
import OraidexSdk.UniversalSwap.RouteGrammar
import OraidexSdk.OraiswapV3.SingleSide
import OraidexSdk.Js.SparseArray
import OraidexSdk.OraiswapV3.LiquidityRanges
import OraidexSdk.Js.Value
import OraidexSdk.OraiswapV3.PriceImpact
import OraidexSdk.Js.Double
import OraidexSdk.OraiswapV3.MinimumLiquidity
import OraidexSdk.OraiswapV3.Probe
import OraidexSdk.Chart.Utils
import OraidexSdk.Loops.Runs
import OraidexSdk.Chart.Streaming
import OraidexSdk.Chart.Isolation
import OraidexSdk.Chart.History
import OraidexSdk.OraiswapV3.TokenAmounts
import OraidexSdk.BigDecimal.Ratio
import OraidexSdk.BigDecimal.Powers
import OraidexSdk.BigDecimal.Roots
import OraidexSdk.BigDecimal.Canonical
import OraidexSdk.BigDecimal.Soundness
import OraidexSdk.Common.FiniteNumbers
import OraidexSdk.OraiswapV3.RewardAmounts
import OraidexSdk.Common.NumberOperands
import OraidexSdk.OraiswapV3.ZapOut
import OraidexSdk.BigDecimal.HigherRoots
import OraidexSdk.SmartRouter.LastPath
import OraidexSdk.UniversalSwap.SwapRoute
import OraidexSdk.UniversalSwap.MemoRoutes
import OraidexSdk.Common.CosmosAddress
import OraidexSdk.Common.HexData
import OraidexSdk.OraiswapV3.TokenLookup
import OraidexSdk.Radix.Conversion
import OraidexSdk.Common.TronAddress
import OraidexSdk.UniversalSwap.Addresses
import OraidexSdk.UniversalSwap.EvmSwap
import OraidexSdk.UniversalSwap.RelayerFee
import OraidexSdk.OraiswapV3.PriceDistance
import OraidexSdk.Common.WasmEvents
import OraidexSdk.Common.TronParameters
import OraidexSdk.Js.PropertyOrder
import OraidexSdk.Loops.EarlyExit
import OraidexSdk.UniversalSwap.ConvertMessages
import OraidexSdk.Ordered.Distinct
import OraidexSdk.UniversalSwap.TokenFilter
import OraidexSdk.Loops.Fueled
import OraidexSdk.Loops.Paging
import OraidexSdk.OraiswapV3.Readers
import OraidexSdk.OraiswapV3.TokenPages
import OraidexSdk.OraiswapV3.LiquidityTicks
import OraidexSdk.Common.DecodeProto
import OraidexSdk.Chart.Buckets
import OraidexSdk.Chart.LiveCandle
import OraidexSdk.Chart.Gaps
import OraidexSdk.BigDecimal.RootLoop
import OraidexSdk.Js.Splice
import OraidexSdk.OraiswapV3.ShiftDecimal
import OraidexSdk.OraiswapV3.SliceSnaps
import OraidexSdk.OraiswapV3.Parse
import OraidexSdk.IbcRouting.Db
import OraidexSdk.Chart.SaveLoadAdapter
import OraidexSdk.Wire.Reader
import OraidexSdk.UniversalSwap.MemoCodec
import OraidexSdk.UniversalSwap.MemoText
import OraidexSdk.Interaction.Program
import OraidexSdk.Interaction.Requests
import OraidexSdk.Interaction.World
import OraidexSdk.UniversalSwap.Allowance
import OraidexSdk.UniversalSwap.BalanceChecks
import OraidexSdk.UniversalSwap.ProcessSwap
import OraidexSdk.UniversalSwap.SwapBundles
import OraidexSdk.UniversalSwap.SwapOrders
import OraidexSdk.UniversalSwap.SwapRefusals
import OraidexSdk.UniversalSwap.TransferSessions
