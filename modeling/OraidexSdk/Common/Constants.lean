import Mathlib.Data.List.Basic

namespace OraidexSdk

def IBC_TRANSFER_TIMEOUT : Nat := 3600

def CONVERTER_CONTRACT : String := "orai14wy8xndhnvjmx6zl2866xqvs7fqwv2arhhrqq9"

def IBC_WASM_CONTRACT : String := "orai195269awwnt5m6c843q6w7hp8rt0k7syfu9de4h0wz384slshuzps8y7ccm"

def TON_CONTRACT : String := "EQAAAAAAAAAAAAAAAAAAAAAAAAAAAAAAAAAAAAAAAAAAAM9c"

def TON20_USDT_CONTRACT : String := "EQCxE6mUtQJKFnGfaROTKOt1lZbDiiX1kCixRv7Nw2Id_sDs"

def HMSTR_TON_CONTRACT : String := "EQAJ8uWd7EBqsmpSWaRdf_I-8R8-XHwh3gsNKhy-UrdrPcUo"

def jUSDC_TON_CONTRACT : String := "EQB-MPwrd1G6WKNkLz_VnV6WqBDd142KMQv-g1O-8QUA3728"

def JETTONS_ADDRESS : List (String × String) :=
  [(TON_CONTRACT, TON_CONTRACT),
    (TON20_USDT_CONTRACT, "EQANiP_ggkS0lJbR12xmDNT7hgqphdnVG0cCiJN6BN35Z498"),
    (HMSTR_TON_CONTRACT, "EQC6hNI8R02lWfTV7wKXo9zueMoUP7ZBY4KZp5fkvN_Ad9Um"),
    (jUSDC_TON_CONTRACT, "EQAacZPtQpnIHS1PlQgVaceb_I4v2HE3rvrZC91ynSRqXd9d")]

def ORAI_BRIDGE_EVM_DENOM_PREFIX : String := "oraib"

def ORAI_BRIDGE_EVM_ETH_DENOM_PREFIX : String := "eth-mainnet"

def ORAI_BRIDGE_EVM_TRON_DENOM_PREFIX : String := "trontrx-mainnet"

def ORAI_BSC_CONTRACT : String := "0xA325Ad6D9c92B55A3Fc5aD7e412B1518F96441C0"

def AIRI_BSC_CONTRACT : String := "0x7e2A35C746F2f7C240B664F1Da4DD100141AE71F"

def USDT_BSC_CONTRACT : String := "0x55d398326f99059fF775485246999027B3197955"

def WRAP_BNB_CONTRACT : String := "0xbb4CdB9CBd36B01bD1cBaEBF2De08d9173bc095c"

def USDT_TRON_CONTRACT : String := "0xa614f803B6FD780986A42c78Ec9c7f77e6DeD13C"

def ORAI_ETH_CONTRACT : String := "0x4c11249814f11b9346808179Cf06e71ac328c1b5"

def USDC_ETH_CONTRACT : String := "0xA0b86991c6218b36c1d19D4a2e9Eb0cE3606eB48"

def WRAP_ETH_CONTRACT : String := "0xC02aaA39b223FE8D0A0e5C4F27eAD9083C756Cc2"

def USDT_ETH_CONTRACT : String := "0xdAC17F958D2ee523a2206206994597C13D831ec7"

def ORAI : String := "orai"

def ATOM_ORAICHAIN_DENOM : String :=
  "ibc/A2E2EEC9057A4A1C2C0A6A4C78B0239118DF5F278830F50B4A6BDD7A66506B78"

def NEUTARO_ORAICHAIN_DENOM : String :=
  "ibc/576B1D63E401B6A9A071C78A1D1316D016EC9333D2FEB14AD503FAC4B8731CD1"

def OSMOSIS_ORAICHAIN_DENOM : String :=
  "ibc/9C4DCD21B48231D0BC2AC3D1B74A864746B37E4292694C93C617324250D002FC"

def MAX_ORAICHAIN_DENOM : String :=
  "factory/orai1wuvhex9xqs3r539mvc6mtm7n20fcj3qr2m0y9khx6n5vtlngfzes3k0rq9/oraim8c9d1nkfuQk9EzGYEUGxqL3MHQYndRw1huVo5h"

def AIRI_CONTRACT : String := "orai10ldgzued6zjp0mkqwsv2mux3ml50l97c74x8sg"

def ORAIX_CONTRACT : String := "orai1lus0f0rhx8s03gdllx2n6vhkmf0536dv57wfge"

def USDT_CONTRACT : String := "orai12hzjxfh77wl572gdzct2fxv2arxcwh6gykc7qh"

def USDC_CONTRACT : String := "orai15un8msx3n5zf9ahlxmfeqd2kwa5wm0nrpxer304m9nd5q6qq0g6sku5pdd"

def KWT_CONTRACT : String := "orai1nd4r053e3kgedgld2ymen8l9yrw8xpjyaal7j5"

def MILKY_CONTRACT : String := "orai1gzvndtzceqwfymu2kqhta2jn6gmzxvzqwdgvjw"

def SCORAI_CONTRACT : String := "orai1065qe48g7aemju045aeyprflytemx7kecxkf5m7u5h5mphd0qlcs47pclp"

def TRX_CONTRACT : String := "orai1c7tpjenafvgjtgm9aqwm7afnke6c56hpdms8jc6md40xs3ugd0es5encn0"

def SCATOM_CONTRACT : String := "orai19q4qak2g3cj2xc2y3060t0quzn3gfhzx08rjlrdd3vqxhjtat0cq668phq"

def INJECTIVE_CONTRACT : String := "orai19rtmkk6sn4tppvjmp5d5zj6gfsdykrl5rw2euu5gwur3luheuuusesqn49"

def WETH_CONTRACT : String := "orai1dqa52a7hxxuv8ghe7q5v0s36ra0cthea960q2cukznleqhk0wpnshfegez"

def BTC_CONTRACT : String := "orai10g6frpysmdgw5tdqke47als6f97aqmr8s3cljsvjce4n5enjftcqtamzsd"

def OCH_CONTRACT : String := "orai1hn8w33cqvysun2aujk5sv33tku4pgcxhhnsxmvnkfvdxagcx0p8qa4l98q"

end OraidexSdk
