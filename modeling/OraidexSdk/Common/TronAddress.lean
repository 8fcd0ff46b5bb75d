import OraidexSdk.Common.HexData
import OraidexSdk.Radix.Conversion

namespace OraidexSdk
open Js RadixConversion

-- base58.encode and sha256 of ethers.utils, on the bytes of their argument.
structure Ethers where
  base58Encode : List UInt8 → String
  sha256 : List UInt8 → List UInt8

def sha256Hex (ethers : Ethers) (data : String) : Option String :=
  (arrayify data).map fun bytes => hexlify (ethers.sha256 bytes)

def ethToTronAddress (ethers : Ethers) (address : String) : Option String := do
  let evmAddress := "0x41" ++ String.ofList (address.toList.drop 2)
  let hash ← sha256Hex ethers (← sha256Hex ethers evmAddress)
  let checkSum := String.ofList ((hash.toList.drop 2).take 8)
  return ethers.base58Encode (← arrayify (evmAddress ++ checkSum))

-- base58.decode reads exactly what base58.encode writes; a digest has 32 bytes.
structure TronLaws (env : Environment) (ethers : Ethers) : Prop where
  decode_encode : ∀ bytes, env.base58Decode (ethers.base58Encode bytes) = some bytes
  encode_decode : ∀ s bytes, env.base58Decode s = some bytes → ethers.base58Encode bytes = s
  digest_length : ∀ bytes, (ethers.sha256 bytes).length = 32

def withChecksum (ethers : Ethers) (account : List UInt8) : List UInt8 :=
  0x41 :: account ++ (ethers.sha256 (ethers.sha256 (0x41 :: account))).take 4

def Checked (env : Environment) (ethers : Ethers) (s : String) : Prop :=
  ∃ account, account.length = 20 ∧ env.base58Decode s = some (withChecksum ethers account)

def HexAddress (address : String) : Prop :=
  ∃ cs, hexAddressRegex cs = true ∧ address = String.ofList ('0' :: 'x' :: cs)

def Faithful (env : Environment) (ethers : Ethers) (s : String) : Prop :=
  ∃ address, tronToEthAddress env s = some address ∧ HexAddress address ∧
    ethToTronAddress ethers address = some s

section Conversion

variable {env : Environment} {ethers : Ethers} {s : String}

theorem ethToTronAddress_hex {cs : List Char} {account : List UInt8}
    (h : hexBytes cs = some account) :
    ethToTronAddress ethers (String.ofList ('0' :: 'x' :: cs)) =
      some (ethers.base58Encode (withChecksum ethers account)) := by
  have hevm : hexBytes ('4' :: '1' :: cs) = some (0x41 :: account) := by
    rw [hexBytes, h]
    rfl
  have htext : "0x41" ++ String.ofList ((String.ofList ('0' :: 'x' :: cs)).toList.drop 2) =
      String.ofList ('0' :: 'x' :: '4' :: '1' :: cs) := by
    rw [String.toList_ofList, show "0x41" = String.ofList ['0', 'x', '4', '1'] from rfl,
      ← String.ofList_append]
    rfl
  have hhash : sha256Hex ethers (String.ofList ('0' :: 'x' :: '4' :: '1' :: cs)) =
      some (hexlify (ethers.sha256 (0x41 :: account))) := by
    rw [sha256Hex, arrayify_ofList, hevm]
    rfl
  have hrehash (digest : List UInt8) :
      sha256Hex ethers (hexlify digest) = some (hexlify (ethers.sha256 digest)) := by
    rw [sha256Hex, arrayify_hexlify]
    rfl
  have hchecksum (digest : List UInt8) :
      ((hexlify digest).toList.drop 2).take 8 = hexChars (digest.take 4) := by
    rw [hexlify, String.toList_ofList]
    exact hexChars_take digest 4
  have hbytes (digest : List UInt8) :
      arrayify (String.ofList ('0' :: 'x' :: '4' :: '1' :: cs) ++ String.ofList (hexChars digest)) =
        some (0x41 :: account ++ digest) := by
    rw [← String.ofList_append]
    exact (arrayify_ofList _).trans ((hexBytes_append hevm).trans (by rw [hexBytes_hexChars]; rfl))
  rw [ethToTronAddress, htext]
  simp only [hhash, hrehash, hchecksum, hbytes, Option.bind_eq_bind, Option.bind_some,
    Option.pure_def]
  rfl

theorem withChecksum_length (hlaws : TronLaws env ethers) (account : List UInt8) :
    (withChecksum ethers account).length = account.length + 5 := by
  rw [withChecksum, List.length_append, List.length_take, hlaws.digest_length]
  rfl

theorem tronToEthAddress_withChecksum (hlaws : TronLaws env ethers) {account : List UInt8}
    (h : env.base58Decode s = some (withChecksum ethers account)) :
    tronToEthAddress env s = some (hexlify account) := by
  have hslice : (withChecksum ethers account).take (account.length + 5 - 4) = 0x41 :: account :=
    List.take_left' (List.length_cons ..)
  rw [tronToEthAddress, h, Option.map_some, withChecksum_length hlaws, hslice]
  rfl

theorem hexAddress_hexlify {account : List UInt8} (h : account.length = 20) :
    HexAddress (hexlify account) := by
  refine ⟨hexChars account, ?_, rfl⟩
  rw [hexAddressRegex, hexChars_length, h, hexChars_isHexDigit]
  rfl

theorem HexAddress.account {address : String} (h : HexAddress address) (ethers : Ethers) :
    ∃ account, account.length = 20 ∧ hexlify account = asciiLowerCase address ∧
      ethToTronAddress ethers address = some (ethers.base58Encode (withChecksum ethers account)) := by
  obtain ⟨cs, hregex, rfl⟩ := h
  rw [hexAddressRegex, Bool.and_eq_true, beq_iff_eq] at hregex
  obtain ⟨account, hbytes, hlength, hlower⟩ := exists_hexBytes 20 hregex.1 hregex.2
  refine ⟨account, hlength, ?_, ethToTronAddress_hex hbytes⟩
  rw [asciiLowerCase, String.toList_ofList, hexlify, hlower]
  rfl

theorem tronToEthAddress_ethToTronAddress (hlaws : TronLaws env ethers) {address : String}
    (h : HexAddress address) :
    ∃ tron, ethToTronAddress ethers address = some tron ∧
      tronToEthAddress env tron = some (asciiLowerCase address) := by
  obtain ⟨account, -, hlower, htron⟩ := h.account ethers
  refine ⟨_, htron, ?_⟩
  rw [tronToEthAddress_withChecksum hlaws (hlaws.decode_encode _), hlower]

theorem faithful_iff_checked (hlaws : TronLaws env ethers) :
    Faithful env ethers s ↔ Checked env ethers s := by
  constructor
  · rintro ⟨address, -, hhex, htron⟩
    obtain ⟨account, hlength, -, hencode⟩ := hhex.account ethers
    refine ⟨account, hlength, ?_⟩
    rw [← Option.some.inj (hencode.symm.trans htron), hlaws.decode_encode]
  · rintro ⟨account, hlength, hdecode⟩
    refine ⟨hexlify account, tronToEthAddress_withChecksum hlaws hdecode,
      hexAddress_hexlify hlength, ?_⟩
    rw [hexlify, ethToTronAddress_hex (hexBytes_hexChars account),
      hlaws.encode_decode s _ hdecode]

end Conversion

theorem tron_conversion_iff (env : Environment) (ethers : Ethers) (hlaws : TronLaws env ethers)
    (s : String) :
    (((validateAddressTonTron env s "0x2b6653dc").isValid = true → Faithful env ethers s) ∧
        ∀ address, HexAddress address → ∃ tron, ethToTronAddress ethers address = some tron ∧
          tronToEthAddress env tron = some (asciiLowerCase address)) ↔
      ((validateAddressTonTron env s "0x2b6653dc").isValid = true → Checked env ethers s) := by
  rw [faithful_iff_checked hlaws, and_iff_left]
  exact fun address haddress => tronToEthAddress_ethToTronAddress hlaws haddress

def base58Alphabet : List Char :=
  "123456789ABCDEFGHJKLMNPQRSTUVWXYZabcdefghijkmnopqrstuvwxyz".toList

def base58Char (d : Nat) : Char := base58Alphabet.getD d '1'

def base58Digit? (c : Char) : Option Nat := base58Alphabet.idxOf? c

def base58Encode (bytes : List UInt8) : String :=
  String.ofList ((convert 256 58 (bytes.map UInt8.toNat)).map base58Char)

def base58Decode (text : String) : Option (List UInt8) :=
  (text.toList.mapM base58Digit?).map fun digits => (convert 58 256 digits).map UInt8.ofNat

section Base58

theorem base58Digit_base58Char {d : Nat} (hd : d < 58) : base58Digit? (base58Char d) = some d := by
  have hall : ∀ d < 58, base58Digit? (base58Char d) = some d := by decide +kernel
  exact hall d hd

theorem base58Char_base58Digit {c : Char} {d : Nat} (h : base58Digit? c = some d) :
    d < 58 ∧ base58Char d = c := by
  obtain ⟨hlt, hchar, -⟩ := List.idxOf?_eq_some_iff.mp h
  refine ⟨hlt, ?_⟩
  rw [base58Char, List.getD_eq_getElem?_getD, List.getElem?_eq_getElem hlt, hchar]
  rfl

theorem mapM_base58Char {digits : List Nat} (h : ∀ d ∈ digits, d < 58) :
    (digits.map base58Char).mapM base58Digit? = some digits := by
  induction digits with
  | nil => rfl
  | cons d digits ih =>
    obtain ⟨hd, hdigits⟩ := List.forall_mem_cons.mp h
    rw [List.map_cons, List.mapM_cons, base58Digit_base58Char hd, ih hdigits]
    rfl

theorem mapM_base58Digit {cs : List Char} {digits : List Nat}
    (h : cs.mapM base58Digit? = some digits) :
    (∀ d ∈ digits, d < 58) ∧ digits.map base58Char = cs := by
  induction cs generalizing digits with
  | nil =>
    obtain rfl := Option.some.inj h
    simp
  | cons c cs ih =>
    rw [List.mapM_cons] at h
    obtain ⟨d, hd, hrest⟩ := Option.bind_eq_some_iff.mp h
    obtain ⟨rest, hcs, hdigits⟩ := Option.bind_eq_some_iff.mp hrest
    obtain rfl := Option.some.inj hdigits
    obtain ⟨hlt, hchar⟩ := base58Char_base58Digit hd
    obtain ⟨hrestlt, hchars⟩ := ih hcs
    exact ⟨List.forall_mem_cons.mpr ⟨hlt, hrestlt⟩, by simp [hchar, hchars]⟩

theorem base58Decode_base58Encode (bytes : List UInt8) :
    base58Decode (base58Encode bytes) = some bytes := by
  have hbytes : ∀ d ∈ bytes.map UInt8.toNat, d < 256 := by
    intro d hd
    obtain ⟨b, -, rfl⟩ := List.mem_map.mp hd
    exact b.toNat_lt
  rw [base58Decode, base58Encode, String.toList_ofList,
    mapM_base58Char (convert_lt (by decide) _), Option.map_some,
    convert_convert (by decide) 58 hbytes, List.map_map]
  exact congrArg some ((List.map_congr_left fun b _ => UInt8.ofNat_toNat).trans (List.map_id _))

theorem base58Encode_base58Decode {text : String} {bytes : List UInt8}
    (h : base58Decode text = some bytes) : base58Encode bytes = text := by
  obtain ⟨digits, hdigits, rfl⟩ := Option.map_eq_some_iff.mp h
  obtain ⟨hlt, hchars⟩ := mapM_base58Digit hdigits
  have hback : ((convert 58 256 digits).map UInt8.ofNat).map UInt8.toNat = convert 58 256 digits := by
    rw [List.map_map]
    refine List.map_congr_left (fun d hd => ?_) |>.trans (List.map_id _)
    exact UInt8.toNat_ofNat_of_lt' (convert_lt (by decide) digits d hd)
  rw [base58Encode, hback, convert_convert (by decide) 256 hlt, hchars, String.ofList_toList]

end Base58

def tronAccount : List UInt8 :=
  [0x99, 0x3d, 0x06, 0xfc, 0x97, 0xf4, 0x5f, 0x16, 0xe4, 0x80, 0x58, 0x83, 0xb9, 0x8a, 0x6c, 0x20,
    0xba, 0xb5, 0x49, 0x64]

def accountDigest : List UInt8 :=
  [106, 83, 130, 220, 234, 209, 240, 128, 17, 171, 85, 41, 85, 73, 141, 180, 70, 212, 237, 216, 33,
    218, 155, 233, 17, 126, 5, 223, 199, 102, 186, 73]

def digestDigest : List UInt8 :=
  [165, 210, 175, 47, 244, 117, 255, 134, 231, 75, 127, 97, 106, 143, 61, 46, 243, 65, 12, 178, 134,
    237, 124, 149, 105, 84, 117, 234, 24, 195, 217, 9]

-- Base58 itself, and SHA-256 on the two texts that the account is hashed through.
def exampleEthers : Ethers where
  base58Encode := base58Encode
  sha256 := fun bytes =>
    if bytes = 0x41 :: tronAccount then accountDigest
    else if bytes = accountDigest then digestDigest
    else List.replicate 32 0

def tronEnvironment : Environment where
  dateNow := 1700000000000
  getAddress := fun _ => none
  base58Decode := base58Decode
  bech32Decode := fun _ => .error "invalid"
  tonAddressParse := fun _ => .error "Unknown address type"
  cosmosChains := [⟨"Oraichain", "orai"⟩]
  evmChains := ["0x01", "0x38", "0x2b6653dc"]

theorem exampleEthers_tronLaws : TronLaws tronEnvironment exampleEthers where
  decode_encode := base58Decode_base58Encode
  encode_decode := fun _ _ => base58Encode_base58Decode
  digest_length := by
    intro bytes
    simp only [exampleEthers]
    split
    · rfl
    · split <;> rfl

theorem tronAccount_decodes :
    base58Decode "TPwTVfDDvmWSawsP7Ki1t3ecSBmaFeMMXc" =
      some (withChecksum exampleEthers tronAccount) := by
  decide +kernel

theorem tron_account_converts :
    Faithful tronEnvironment exampleEthers "TPwTVfDDvmWSawsP7Ki1t3ecSBmaFeMMXc" :=
  ((tron_conversion_iff tronEnvironment exampleEthers exampleEthers_tronLaws
    "TPwTVfDDvmWSawsP7Ki1t3ecSBmaFeMMXc").mpr fun _ => ⟨tronAccount, rfl, tronAccount_decodes⟩).1
    (by decide +kernel)

-- The last character is mistyped: accepted, but read as the account whose address it is not.
theorem mistyped_tron_converts :
    (validateAddressTonTron tronEnvironment "TPwTVfDDvmWSawsP7Ki1t3ecSBmaFeMMXd"
        "0x2b6653dc").isValid = true ∧
      tronToEthAddress tronEnvironment "TPwTVfDDvmWSawsP7Ki1t3ecSBmaFeMMXd" =
        some (hexlify tronAccount) ∧
      ¬ Faithful tronEnvironment exampleEthers "TPwTVfDDvmWSawsP7Ki1t3ecSBmaFeMMXd" := by
  have hread : tronToEthAddress tronEnvironment "TPwTVfDDvmWSawsP7Ki1t3ecSBmaFeMMXd" =
      some (hexlify tronAccount) := by decide +kernel
  refine ⟨by decide +kernel, hread, ?_⟩
  rintro ⟨address, haddress, -, htron⟩
  obtain rfl := Option.some.inj (hread.symm.trans haddress)
  have hback : ethToTronAddress exampleEthers (hexlify tronAccount) =
      some "TPwTVfDDvmWSawsP7Ki1t3ecSBmaFeMMXc" := by
    rw [hexlify, ethToTronAddress_hex (hexBytes_hexChars tronAccount)]
    exact congrArg some (base58Encode_base58Decode tronAccount_decodes)
  exact absurd (Option.some.inj (hback.symm.trans htron)) (by decide)

end OraidexSdk
