import OraidexSdk.Js.Text

namespace OraidexSdk
open Js

structure CustomChainInfo where
  chainId : String
  bech32PrefixAccAddr : String
deriving DecidableEq, Repr

structure Bech32 where
  addressPrefix : String
  words : List Nat
deriving DecidableEq, Repr

-- The clock, and what getAddress and base58.decode of ethers.utils, bech32.decode
-- and Address.parse of @ton/core answer; an error carries its message.
structure Environment where
  dateNow : Nat
  getAddress : String → Option String
  base58Decode : String → Option (List UInt8)
  bech32Decode : String → Except String Bech32
  tonAddressParse : String → Except String Unit
  cosmosChains : List CustomChainInfo
  evmChains : List String

structure AddressCheck where
  isValid : Bool
  network : Option String
  error : Option String
deriving DecidableEq, Repr

namespace Environment

variable (env : Environment)

def isAddress (address : String) : Bool := (env.getAddress address).isSome

def isEthAddress (address : String) : Bool :=
  match env.getAddress address with
  | some checkSumAddress => env.isAddress checkSumAddress
  | none => false

def isCw20Token (address : String) : Bool :=
  match env.bech32Decode address with
  | .ok _ => true
  | .error _ => false

def isCosmosChain (chainId : String) : Bool := env.cosmosChains.any (·.chainId = chainId)

def isEvmChain (chainId : String) : Bool := env.evmChains.contains chainId

end Environment

def isTonChain (chainId : String) : Bool := chainId = "ton"

namespace AddressCheck

def accepted (network : String) : AddressCheck := ⟨true, some network, none⟩

def rejected (error : String) : AddressCheck := ⟨false, none, some error⟩

end AddressCheck

def isLowerAlnum (c : Char) : Bool := c.isLower || c.isDigit

-- /^[a-z]{1,6}[0-9a-z]{0,64}$/
def cosmosAddressRegex (cs : List Char) : Bool :=
  let letters := min (cs.takeWhile Char.isLower).length 6
  1 ≤ letters && cs.length ≤ letters + 64 && cs.all isLowerAlnum

-- /T[a-zA-Z0-9]{32}/, found anywhere in the text.
def tronAddressRegex : List Char → Bool
  | [] => false
  | c :: cs =>
      (c == 'T' && 32 ≤ cs.length && (cs.take 32).all Char.isAlphanum) || tronAddressRegex cs

def isValidTronAddress (address : String) : Bool := tronAddressRegex address.toList

-- ("0" + byte.toString(16)).slice(-2)
def hexByte (byte : UInt8) : List Char := sliceFrom ('0' :: Nat.toDigits 16 byte.toNat) (-2)

def tronToEthAddress (env : Environment) (base58 : String) : Option String :=
  (env.base58Decode base58).map fun bytes =>
    String.ofList ('0' :: 'x' :: ((bytes.take (bytes.length - 4)).drop 1).flatMap hexByte)

section Validation

variable (env : Environment) (address network : String)

def validateAndIdentifyCosmosAddress : AddressCheck :=
  if cosmosAddressRegex address.toList then
    match env.bech32Decode address with
    | .error message => .rejected message
    | .ok decodedAddress =>
      let chainInfo := (env.cosmosChains.filter (·.chainId = network)).getLast?
      if chainInfo.any (·.bech32PrefixAccAddr ≠ decodedAddress.addressPrefix) then
        .rejected "Network doesn't match"
      else if env.cosmosChains.any (·.bech32PrefixAccAddr = decodedAddress.addressPrefix) then
        .accepted network
      else .rejected "Unsupported address network"
  else .rejected "Invalid address"

def validateEvmAddress : AddressCheck :=
  if env.isAddress address then .accepted network else ⟨false, none, none⟩

def validateAddressTonTron : AddressCheck :=
  if network = "0x2b6653dc" then ⟨isValidTronAddress address, some network, none⟩
  else if network = "ton" then
    match env.tonAddressParse address with
    | .ok () => .accepted network
    | .error message => .rejected message
  else .rejected "Unsupported network"

def checkValidateAddressWithNetwork : AddressCheck :=
  if network = "0x01" ∨ network = "0x38" then validateEvmAddress env address network
  else if network = "0x2b6653dc" ∨ network = "ton" then validateAddressTonTron env address network
  else validateAndIdentifyCosmosAddress env address network

end Validation

end OraidexSdk
