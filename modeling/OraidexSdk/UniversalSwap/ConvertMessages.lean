import OraidexSdk.Js.PropertyOrder
import OraidexSdk.Loops.EarlyExit
import OraidexSdk.Message.Data
import OraidexSdk.OraiswapV3.SwapOperations
import OraidexSdk.UniversalSwap.EvmSwap

namespace OraidexSdk.UniversalSwap
open Js Outcome EarlyExit

structure MappedTokenItem extends TokenItemType where
  evmDenoms : Option (List String)

structure NetworkConfig where
  converter : String

-- The base64 JSON that toBinary makes of it is left aside.
inductive ConverterHook where
  | convert
  | convertReverse (fromAsset : OraiswapV3.AssetInfo)
deriving DecidableEq, Repr

inductive ConvertInput where
  | convert
  | convertReverse (fromAsset : OraiswapV3.AssetInfo)
  | send (contract amount : String) (msg : ConverterHook)
deriving DecidableEq, Repr

structure ExecuteInstruction where
  contractAddress : String
  msg : ConvertInput
  funds : Option (List Message.Coin)
deriving DecidableEq, Repr

inductive ConvertType where
  | convertToken (sender : Option String) (inputToken : Option TokenItemType) (inputAmount : String)
  | convertTokenReverse (sender : Option String) (inputToken : Option TokenItemType)
      (inputAmount : String) (outputToken : Option TokenItemType)

abbrev AmountDetails := String → Option String

abbrev TokenMap := String → Option TokenItemType

def getSubAmountDetails (amounts : Option AmountDetails) (tokenInfo : MappedTokenItem) :
    List (String × Option String) :=
  match tokenInfo.evmDenoms with
  | none => []
  | some evmDenoms =>
    (propertyOrder evmDenoms.eraseDups).map fun denom => (denom, amounts.bind (· denom))

-- The fund of parseTokenInfo, which only a token without a contract has.
def tokenFund (tokenInfo : TokenItemType) (amount : String) : Option Message.Coin :=
  match truthy tokenInfo.contractAddress with
  | none => (truthy (some amount)).map fun amount => ⟨tokenInfo.denom, amount⟩
  | some _ => none

-- One fund needs no sorting.
def handleSentFunds (fund : Option Message.Coin) : Option (List Message.Coin) :=
  fund.map fun fund => [fund]

def convertInstruction (network : NetworkConfig) (inputToken : TokenItemType) (inputAmount : String)
    (nativeInput : ConvertInput) (hook : ConverterHook) : ExecuteInstruction :=
  match OraiswapV3.parseTokenInfo inputToken.toTokenItem with
  | .nativeToken _ =>
    ⟨network.converter, nativeInput, handleSentFunds (tokenFund inputToken inputAmount)⟩
  | .token contractAddr => ⟨contractAddr, .send network.converter inputAmount hook, none⟩

def generateConvertMsgs (data : ConvertType) (network : NetworkConfig) :
    Except JsError ExecuteInstruction :=
  match data with
  | .convertToken _ inputToken inputAmount => do
    let inputToken ← readDefined inputToken
    return convertInstruction network inputToken inputAmount .convert .convert
  | .convertTokenReverse _ inputToken inputAmount outputToken => do
    let inputToken ← readDefined inputToken
    let outputToken ← readDefined outputToken
    let outputAssetInfo := OraiswapV3.parseTokenInfo outputToken.toTokenItem
    return convertInstruction network inputToken inputAmount (.convertReverse outputAssetInfo)
      (.convertReverse outputAssetInfo)

def subBalance (amount : Option String) : Except JsError Int := bigInt (amount.getD "0").toList

section Convert

variable (tokenMap : TokenMap) (network : NetworkConfig) (sender : Option String)

def convertSubAmount (subAmount : String × Option String) :
    Except JsError (Option ExecuteInstruction) := do
  let balance ← subBalance subAmount.2
  let erc20TokenInfo := tokenMap subAmount.1
  if balance > 0 then
    let msgConvert ← generateConvertMsgs
      (.convertToken sender erc20TokenInfo (String.ofList (bigIntText balance))) network
    return some msgConvert
  else return none

def generateConvertErc20Cw20Message (amounts : Option AmountDetails) (tokenInfo : MappedTokenItem) :
    Except JsError (List ExecuteInstruction) :=
  match tokenInfo.evmDenoms with
  | none => .ok []
  | some _ => do
    let returned ← (getSubAmountDetails amounts tokenInfo).findSomeM?
      (convertSubAmount tokenMap network sender)
    return returned.toList

end Convert

def positiveBalance (amounts : Option AmountDetails) (denom : String) : Option Int :=
  (subBalance (amounts.bind (· denom))).toOption.filter (0 < ·)

def positiveBalances (amounts : Option AmountDetails) (tokenInfo : MappedTokenItem) :
    List (String × Int) :=
  (tokenInfo.evmDenoms.getD []).eraseDups.filterMap fun denom =>
    (positiveBalance amounts denom).map fun balance => (denom, balance)

def Converts (tokenMap : TokenMap) (network : NetworkConfig) (subBalance : String × Int)
    (msg : ExecuteInstruction) : Prop :=
  ∃ token, tokenMap subBalance.1 = some token ∧
    ((truthy token.contractAddress = none ∧ msg = ⟨network.converter, .convert,
        some [⟨subBalance.1, String.ofList (bigIntText subBalance.2)⟩]⟩) ∨
      ∃ contractAddr, truthy token.contractAddress = some contractAddr ∧ msg = ⟨contractAddr,
        .send network.converter (String.ofList (bigIntText subBalance.2)) .convert, none⟩)

def ConvertsAllMapped (tokenMap : TokenMap) (network : NetworkConfig) (sender : Option String)
    (amounts : Option AmountDetails) (tokenInfo : MappedTokenItem) : Prop :=
  ∃ msgs, generateConvertErc20Cw20Message tokenMap network sender amounts tokenInfo = .ok msgs ∧
    List.Forall₂ (Converts tokenMap network) (positiveBalances amounts tokenInfo) msgs

def MappedDenom (tokenMap : TokenMap) (denom : String) : Prop :=
  ∃ token, tokenMap denom = some token ∧ (truthy token.contractAddress = none → token.denom = denom)

def subDenoms (tokenInfo : MappedTokenItem) : List String :=
  propertyOrder (tokenInfo.evmDenoms.getD []).eraseDups

structure ConvertsAtMostOne (tokenMap : TokenMap) (amounts : Option AmountDetails)
    (tokenInfo : MappedTokenItem) : Prop where
  atMostOne : (positiveBalances amounts tokenInfo).length ≤ 1
  mapped : ∀ subBalance ∈ positiveBalances amounts tokenInfo, MappedDenom tokenMap subBalance.1
  -- The loop reads the balances up to the first positive one.
  numerals : ∀ before denom after, subDenoms tokenInfo = before ++ denom :: after →
    (∀ other ∈ before, positiveBalance amounts other = none) →
      ∃ balance, subBalance (amounts.bind (· denom)) = .ok balance

section Rounds

variable {tokenMap : TokenMap} {network : NetworkConfig} {sender : Option String}
variable {amounts : Option AmountDetails} {tokenInfo : MappedTokenItem} {denom : String}

theorem positiveBalance_eq_some_iff {balance : Int} :
    positiveBalance amounts denom = some balance ↔
      subBalance (amounts.bind (· denom)) = .ok balance ∧ 0 < balance := by
  unfold positiveBalance
  cases subBalance (amounts.bind (· denom)) with
  | error e => simp [Except.toOption]
  | ok b =>
    simp only [Except.toOption, Option.filter_eq_some_iff, Option.some.injEq, decide_eq_true_eq,
      Except.ok.injEq]

theorem positiveBalance_eq_none_of_ok {balance : Int}
    (hread : subBalance (amounts.bind (· denom)) = .ok balance) :
    positiveBalance amounts denom = none ↔ ¬ 0 < balance := by
  simp [positiveBalance, hread, Except.toOption]

theorem round_eq_none_iff :
    convertSubAmount tokenMap network sender (denom, amounts.bind (· denom)) = .ok none ↔
      (∃ balance, subBalance (amounts.bind (· denom)) = .ok balance) ∧
        positiveBalance amounts denom = none := by
  unfold convertSubAmount
  cases hread : subBalance (amounts.bind (· denom)) with
  | error e => exact iff_of_false nofun fun h => nomatch h.1
  | ok balance =>
    rw [ok_bind, positiveBalance_eq_none_of_ok hread]
    by_cases hpos : 0 < balance
    · rw [if_pos hpos, bind_eq_ok]
      refine iff_of_false ?_ fun h => h.2 hpos
      rintro ⟨msg, -, hmsg⟩
      cases hmsg
    · rw [if_neg hpos]
      exact iff_of_true rfl ⟨⟨balance, rfl⟩, hpos⟩

theorem round_eq_some_iff {msg : ExecuteInstruction} :
    convertSubAmount tokenMap network sender (denom, amounts.bind (· denom)) = .ok (some msg) ↔
      ∃ balance token, positiveBalance amounts denom = some balance ∧ tokenMap denom = some token ∧
        msg = convertInstruction network token (String.ofList (bigIntText balance)) .convert
          .convert := by
  unfold convertSubAmount
  cases hread : subBalance (amounts.bind (· denom)) with
  | error e => simp [positiveBalance_eq_some_iff, hread, bind, Except.bind]
  | ok balance =>
    rw [ok_bind]
    by_cases hpos : 0 < balance
    · cases htoken : tokenMap denom with
      | none => simp [hpos, generateConvertMsgs, readDefined, bind, Except.bind]
      | some token =>
        have hsome := positiveBalance_eq_some_iff.mpr ⟨hread, hpos⟩
        simp [hpos, hsome, generateConvertMsgs, readDefined, bind, Except.bind, pure, Except.pure,
          eq_comm]
    · have hnone := (positiveBalance_eq_none_of_ok hread).mpr hpos
      simp [hpos, hnone, pure, Except.pure]

theorem bigIntText_truthy (n : Int) :
    truthy (some (String.ofList (bigIntText n))) = some (String.ofList (bigIntText n)) := by
  have hne : String.ofList (bigIntText n) ≠ "" := by
    simpa [← String.toList_inj] using bigIntText_ne_nil n
  simp [truthy, hne]

theorem converts_convertInstruction_iff {token : TokenItemType} {balance : Int}
    (htoken : tokenMap denom = some token) :
    Converts tokenMap network (denom, balance)
        (convertInstruction network token (String.ofList (bigIntText balance)) .convert .convert) ↔
      (truthy token.contractAddress = none → token.denom = denom) := by
  unfold Converts convertInstruction OraiswapV3.parseTokenInfo
  cases hcontract : truthy token.contractAddress with
  | none => simp [htoken, hcontract, handleSentFunds, tokenFund, bigIntText_truthy]
  | some contractAddr => simp [htoken, hcontract]

theorem mem_positiveBalances {balance : Int} :
    (denom, balance) ∈ positiveBalances amounts tokenInfo ↔
      denom ∈ subDenoms tokenInfo ∧ positiveBalance amounts denom = some balance := by
  rw [positiveBalances, subDenoms, (propertyOrder_perm _).mem_iff, List.mem_filterMap]
  constructor
  · rintro ⟨other, hmem, hother⟩
    obtain ⟨b, hb, heq⟩ := Option.map_eq_some_iff.mp hother
    cases heq
    exact ⟨hmem, hb⟩
  · rintro ⟨hmem, hb⟩
    exact ⟨denom, hmem, by rw [hb]; rfl⟩

theorem positiveBalances_eq_nil
    (h : ∀ denom ∈ subDenoms tokenInfo, positiveBalance amounts denom = none) :
    positiveBalances amounts tokenInfo = [] := by
  refine List.eq_nil_iff_forall_not_mem.mpr fun subBalance hmem => ?_
  obtain ⟨hdenom, hpos⟩ := mem_positiveBalances.mp hmem
  rw [h _ hdenom] at hpos
  cases hpos

end Rounds

section Loop

variable {tokenMap : TokenMap} {network : NetworkConfig} {sender : Option String}
variable {amounts : Option AmountDetails} {tokenInfo : MappedTokenItem}

theorem generateConvertErc20Cw20Message_eq :
    generateConvertErc20Cw20Message tokenMap network sender amounts tokenInfo =
      Option.toList <$> (subDenoms tokenInfo).findSomeM? fun denom =>
        convertSubAmount tokenMap network sender (denom, amounts.bind (· denom)) := by
  unfold generateConvertErc20Cw20Message getSubAmountDetails subDenoms
  cases tokenInfo.evmDenoms with
  | none => simp [propertyOrder]; rfl
  | some evmDenoms => rw [findSomeM?_map]; rfl

theorem ConvertsAllMapped.condition
    (h : ConvertsAllMapped tokenMap network sender amounts tokenInfo) :
    ConvertsAtMostOne tokenMap amounts tokenInfo := by
  obtain ⟨msgs, hrun, hall⟩ := h
  rw [generateConvertErc20Cw20Message_eq] at hrun
  obtain ⟨returned, hloop, rfl⟩ := map_eq_ok.mp hrun
  rcases cases_of_findSomeM? hloop with
    ⟨rfl, hnone⟩ | ⟨before, denom, after, msg, hkeys, hbefore, hround, rfl⟩
  · have hnil : positiveBalances amounts tokenInfo = [] := List.forall₂_nil_right_iff.mp hall
    refine ⟨by simp [hnil], by simp [hnil], fun before denom after hkeys _ => ?_⟩
    have hmem : denom ∈ subDenoms tokenInfo := hkeys ▸ List.mem_append_right _ List.mem_cons_self
    exact (round_eq_none_iff.mp (hnone denom hmem)).1
  · obtain ⟨balance, token, hpos, htoken, rfl⟩ := round_eq_some_iff.mp hround
    have hmem : (denom, balance) ∈ positiveBalances amounts tokenInfo :=
      mem_positiveBalances.mpr ⟨hkeys ▸ List.mem_append_right _ List.mem_cons_self, hpos⟩
    obtain ⟨only, honly⟩ := List.length_eq_one_iff.mp hall.length_eq
    rw [honly, List.mem_singleton] at hmem
    subst hmem
    rw [honly] at hall
    have hconverts := (List.forall₂_cons.mp hall).1
    refine ⟨by simp [honly], ?_, fun before' other after' hkeys' hbefore' => ?_⟩
    · rw [honly]
      refine List.forall_mem_singleton.mpr ⟨token, htoken, ?_⟩
      exact (converts_convertInstruction_iff htoken).mp hconverts
    · have hreached : other ∈ before ∨ other = denom := by
        refine mem_or_eq_of_append_eq (hkeys.symm.trans hkeys') fun hdenom => ?_
        rw [hbefore' denom hdenom] at hpos
        cases hpos
      rcases hreached with hmem | rfl
      · exact (round_eq_none_iff.mp (hbefore other hmem)).1
      · exact ⟨balance, (positiveBalance_eq_some_iff.mp hpos).1⟩

theorem ConvertsAtMostOne.rounds_before (h : ConvertsAtMostOne tokenMap amounts tokenInfo)
    {before rest : List String} (hkeys : subDenoms tokenInfo = before ++ rest)
    (hbefore : ∀ other ∈ before, positiveBalance amounts other = none) :
    ∀ other ∈ before,
      convertSubAmount tokenMap network sender (other, amounts.bind (· other)) = .ok none := by
  intro other hother
  obtain ⟨first, last, rfl⟩ := List.append_of_mem hother
  rw [List.append_assoc] at hkeys
  refine round_eq_none_iff.mpr ⟨h.numerals first other _ hkeys fun earlier hearlier => ?_,
    hbefore other hother⟩
  exact hbefore earlier (List.mem_append_left _ hearlier)

theorem ConvertsAtMostOne.eq_singleton (h : ConvertsAtMostOne tokenMap amounts tokenInfo)
    {subBalance : String × Int} (hmem : subBalance ∈ positiveBalances amounts tokenInfo) :
    positiveBalances amounts tokenInfo = [subBalance] := by
  obtain ⟨only, hsingle⟩ := List.length_eq_one_iff.mp
    (le_antisymm h.atMostOne (List.length_pos_of_mem hmem))
  rw [hsingle, List.mem_singleton] at hmem
  rw [hsingle, hmem]

theorem ConvertsAtMostOne.converts (h : ConvertsAtMostOne tokenMap amounts tokenInfo)
    (network : NetworkConfig) (sender : Option String) :
    ConvertsAllMapped tokenMap network sender amounts tokenInfo := by
  unfold ConvertsAllMapped
  rw [generateConvertErc20Cw20Message_eq]
  cases hfind : (subDenoms tokenInfo).find? fun denom => (positiveBalance amounts denom).isSome with
  | none =>
    have hnone : ∀ denom ∈ subDenoms tokenInfo, positiveBalance amounts denom = none := by
      simpa using List.find?_eq_none.mp hfind
    rw [findSomeM?_none (h.rounds_before (List.append_nil _).symm hnone),
      positiveBalances_eq_nil hnone]
    exact ⟨[], rfl, .nil⟩
  | some denom =>
    obtain ⟨hsome, before, after, hkeys, hothers⟩ := List.find?_eq_some_iff_append.mp hfind
    obtain ⟨balance, hpos⟩ := Option.isSome_iff_exists.mp hsome
    have hbefore : ∀ other ∈ before, positiveBalance amounts other = none := by simpa using hothers
    have hmem : (denom, balance) ∈ positiveBalances amounts tokenInfo :=
      mem_positiveBalances.mpr ⟨hkeys ▸ List.mem_append_right _ List.mem_cons_self, hpos⟩
    obtain ⟨token, htoken, hnative⟩ := h.mapped _ hmem
    have hround : convertSubAmount tokenMap network sender (denom, amounts.bind (· denom)) =
        .ok (some _) := round_eq_some_iff.mpr ⟨balance, token, hpos, htoken, rfl⟩
    rw [hkeys, findSomeM?_some (h.rounds_before hkeys hbefore) hround, h.eq_singleton hmem]
    refine ⟨_, rfl, .cons ?_ .nil⟩
    exact (converts_convertInstruction_iff htoken).mpr hnative

theorem length_le_one {msgs : List ExecuteInstruction}
    (hrun : generateConvertErc20Cw20Message tokenMap network sender amounts tokenInfo = .ok msgs) :
    msgs.length ≤ 1 := by
  rw [generateConvertErc20Cw20Message_eq] at hrun
  obtain ⟨returned, -, rfl⟩ := map_eq_ok.mp hrun
  cases returned with
  | none => exact zero_le_one
  | some msg => exact le_rfl

end Loop

theorem generateConvertErc20Cw20Message_convertsAllMapped_iff (tokenMap : TokenMap)
    (network : NetworkConfig) (sender : Option String) (amounts : Option AmountDetails)
    (tokenInfo : MappedTokenItem) :
    ConvertsAllMapped tokenMap network sender amounts tokenInfo ↔
      ConvertsAtMostOne tokenMap amounts tokenInfo :=
  ⟨ConvertsAllMapped.condition, fun h => h.converts network sender⟩

def mappedKwt : MappedTokenItem where
  name := "KWT"
  contractAddress := some "orai1nd4r053e3kgedgld2ymen8l9yrw8xpjyaal7j5"
  denom := "kwt"
  chainId := "Oraichain"
  decimals := 6
  coinGeckoId := some "kawaii-islands"
  rpc := "https://rpc.orai.io"
  evmDenoms := some
    ["ibc/4F7464EEE736CCFB6B444EB72DE60B3B43C0DD509FFA2B87E05D584467AAE8C8",
      "ibc/E12A2298AC40011C79F02F26C324BD54DF20F4B2904CB9028BFDEDCFAA89B906"]

def nativeTokenMap : TokenMap := fun denom =>
  some { mappedKwt.toTokenItemType with denom := denom, contractAddress := none }

-- The second of two balances is left as it is.
theorem generateConvertErc20Cw20Message_two_balances :
    ¬ ConvertsAllMapped nativeTokenMap ⟨CONVERTER_CONTRACT⟩ none (some fun _ => some "10")
      mappedKwt := by
  rintro ⟨msgs, hrun, hall⟩
  have hpositive : (positiveBalances (some fun _ => some "10") mappedKwt).length = 2 := by decide
  have hle := length_le_one hrun
  rw [← hall.length_eq, hpositive] at hle
  omega

end OraidexSdk.UniversalSwap
