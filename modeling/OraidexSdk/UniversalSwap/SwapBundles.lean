import OraidexSdk.UniversalSwap.SwapGuards

namespace OraidexSdk.UniversalSwap
open Js Outcome Message Interaction Program

namespace Handler

variable {handler : Handler}

section Signs

variable {universalSwapType : UniversalSwapType} {trace : List Asked} {e : Asked}

end Signs

end Handler

end OraidexSdk.UniversalSwap
