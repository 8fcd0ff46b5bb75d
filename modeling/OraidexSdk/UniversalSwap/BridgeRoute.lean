import OraidexSdk.Js.Fields
import OraidexSdk.Message.Chains.Chain

namespace OraidexSdk.UniversalSwap
open Js SeparatedFields Message

def oraib2oraichain : String := "channel-1"

def oraib2oraichainTest : String := "channel-6"

def KWT_BSC_CONTRACT : String := "0x257a8d1E03D17B8535a182301f15290F11674b53"

def MILKY_BSC_CONTRACT : String := "0x6fE3d0F096FC932A905accd1EB1783F6e4cEc717"

def onlyOldChannel (contractAddress : Option String) : Bool :=
  contractAddress = some KWT_BSC_CONTRACT ∨ contractAddress = some MILKY_BSC_CONTRACT

def getSourceReceiver (env : Environment) (oraiAddress : String) (contractAddress : Option String)
    (isSourceReceiverTest : Bool) : Except JsError String :=
  if (checkValidateAddressWithNetwork env oraiAddress "Oraichain").isValid then
    .ok <|
      if onlyOldChannel contractAddress then oraiAddress
      else if isSourceReceiverTest then oraib2oraichainTest ++ "/" ++ oraiAddress
      else oraib2oraichain ++ "/" ++ oraiAddress
  else generateError "orai Address get source receiver invalid!"

-- swapRoute is what getRoute, getRouteV2 or generateMemoSwap leaves in the variable.
def addOraiBridgeRoute (env : Environment) (sourceReceiver : String)
    (contractAddress : Option String) (isSourceReceiverTest : Bool)
    (swapRoute : Except JsError String) : Except JsError String :=
  if sourceReceiver = "" then generateError "Cannot get source if the sourceReceiver is empty!"
  else do
    let source ← getSourceReceiver env sourceReceiver contractAddress isSourceReceiverTest
    let swapRoute ← swapRoute
    return if swapRoute.length > 0 then source ++ ":" ++ swapRoute else source

def splitOnce (s : List Char) (seperator : Char) : List (List Char) :=
  match s.span (· ≠ seperator) with
  | (whole, []) => [whole]
  | (before, _ :: after) => [before, after]

def quotedChar (c : Char) : List Char :=
  match c with
  | '"' => ['\\', '"']
  | '\\' => ['\\', '\\']
  | '\n' => ['\\', 'n']
  | '\r' => ['\\', 'r']
  | '\t' => ['\\', 't']
  | '\x08' => ['\\', 'b']
  | '\x0c' => ['\\', 'f']
  | c =>
    if c.toNat < 32 then '\\' :: 'u' :: '0' :: '0' :: hexByte (UInt8.ofNat c.toNat) else [c]

-- JSON.stringify of a list of strings
def jsonStringify (parts : List (List Char)) : String :=
  let quoted := parts.map fun part => '"' :: (part.flatMap quotedChar ++ ['"'])
  String.ofList ('[' :: ([','].intercalate quoted ++ [']']))

structure OraiBridgeRouteData where
  oraiBridgeChannel : String
  oraiReceiver : String
  finalDestinationChannel : String
  finalReceiver : String
  tokenIdentifier : String
deriving DecidableEq, Repr

def readFirstDestination (destination : String) (first : List Char) :
    Except JsError OraiBridgeRouteData :=
  match first.splitOn '/' with
  | [oraiBridgeChannel, oraiReceiver] =>
    .ok ⟨String.ofList oraiBridgeChannel, String.ofList oraiReceiver, "", "", ""⟩
  | [oraiReceiver] => .ok ⟨"", String.ofList oraiReceiver, "", "", ""⟩
  | firstDestination => generateError
      ("First destination " ++ jsonStringify firstDestination ++ " of " ++ destination ++
        " is malformed")

def readFinalDestination (routeData : OraiBridgeRouteData) (final : List Char) :
    Except JsError OraiBridgeRouteData :=
  match final.splitOn ':' with
  | [finalReceiver] => .ok { routeData with finalReceiver := String.ofList finalReceiver }
  | [data, tokenIdentifier] =>
    match data.splitOn '/' with
    | [finalReceiver] =>
      .ok { routeData with
        tokenIdentifier := String.ofList tokenIdentifier
        finalReceiver := String.ofList finalReceiver }
    | [finalDestinationChannel, finalReceiver] =>
      .ok { routeData with
        tokenIdentifier := String.ofList tokenIdentifier
        finalDestinationChannel := String.ofList finalDestinationChannel
        finalReceiver := String.ofList finalReceiver }
    | splittedFinalDestinationData => generateError
        ("splitted final destination data " ++ jsonStringify splittedFinalDestinationData ++
          " is malformed")
  | finalDestinationData => generateError
      ("Final destination data " ++ jsonStringify finalDestinationData ++ " is malformed")

def unmarshalOraiBridgeRoute (destination : String) : Except JsError OraiBridgeRouteData :=
  match splitOnce destination.toList ':' with
  | [first] => readFirstDestination destination first
  | [first, final] => do readFinalDestination (← readFirstDestination destination first) final
  | _ => generateError ("The destination data is malformed: " ++ destination)

-- The args that swapCosmosToOtherNetwork takes from the route.
def hookArgs (completeSwapRoute : String) : String :=
  let swapRouteSplit := completeSwapRoute.toList.splitOn ':'
  if swapRouteSplit.length = 1 then "" else String.ofList (swapRouteSplit[1]?.getD [])

-- The memo that transferAndSwapTon takes from the route.
def tonMemo (swapRoute : String) : String := (truthy (splitAt swapRoute ':' 1)).getD ""

def isBase64 (c : Char) : Bool := c.isAlphanum || c = '+' || c = '/' || c = '='

theorem splitOnce_whole {s : List Char} {sep : Char} (h : sep ∉ s) : splitOnce s sep = [s] := by
  have hall : ∀ c ∈ s, decide (c ≠ sep) = true := fun c hc => decide_eq_true fun he => h (he ▸ hc)
  rw [splitOnce, List.span_eq_takeWhile_dropWhile, List.takeWhile_eq_self_iff.mpr hall,
    List.dropWhile_eq_nil_iff.mpr hall]

theorem splitOnce_cut {before : List Char} {sep : Char} (h : sep ∉ before) (after : List Char) :
    splitOnce (before ++ sep :: after) sep = [before, after] := by
  have hall : ∀ c ∈ before, decide (c ≠ sep) = true :=
    fun c hc => decide_eq_true fun he => h (he ▸ hc)
  have hstop : decide (sep ≠ sep) = false := decide_eq_false fun he => he rfl
  rw [splitOnce, List.span_eq_takeWhile_dropWhile, List.takeWhile_append_of_pos hall,
    List.dropWhile_append_of_pos hall, List.takeWhile_cons, List.dropWhile_cons, hstop]
  simp

theorem isLowerAlnum_of_valid {env : Environment} {address : String}
    (h : (checkValidateAddressWithNetwork env address "Oraichain").isValid = true) :
    address.toList ≠ [] ∧ ∀ c ∈ address.toList, isLowerAlnum c = true := by
  have hcosmos : checkValidateAddressWithNetwork env address "Oraichain" =
      validateAndIdentifyCosmosAddress env address "Oraichain" := rfl
  rw [hcosmos, validateAndIdentifyCosmosAddress] at h
  split at h
  · rename_i hregex
    simp only [cosmosAddressRegex, Bool.and_eq_true, decide_eq_true_eq] at hregex
    refine ⟨?_, List.all_eq_true.mp hregex.2⟩
    intro hnil
    rw [hnil] at hregex
    exact absurd hregex.1.1 (by decide)
  · cases h

theorem separator_not_mem {cs : List Char} (h : ∀ c ∈ cs, isLowerAlnum c = true) :
    ':' ∉ cs ∧ '/' ∉ cs :=
  ⟨fun hmem => absurd (h ':' hmem) (by decide), fun hmem => absurd (h '/' hmem) (by decide)⟩

def sourceChannel (contractAddress : Option String) (isSourceReceiverTest : Bool) : String :=
  if onlyOldChannel contractAddress then ""
  else if isSourceReceiverTest then oraib2oraichainTest
  else oraib2oraichain

theorem readFirstDestination_address {address : List Char} (h : '/' ∉ address)
    (destination : String) :
    readFirstDestination destination address = .ok ⟨"", String.ofList address, "", "", ""⟩ := by
  rw [readFirstDestination, List.splitOn_eq_singleton h]

theorem readFirstDestination_channel {channel address : List Char} (hchannel : '/' ∉ channel)
    (haddress : '/' ∉ address) (destination : String) :
    readFirstDestination destination (channel ++ '/' :: address) =
      .ok ⟨String.ofList channel, String.ofList address, "", "", ""⟩ := by
  rw [readFirstDestination, List.splitOn_append_cons_self_of_not_mem hchannel,
    List.splitOn_eq_singleton haddress]

-- A source that the last readers see as one part before the colon.
structure Source (source channel oraiAddress : String) : Prop where
  no_colon : ':' ∉ source.toList
  reads : ∀ destination, readFirstDestination destination source.toList =
    .ok ⟨channel, oraiAddress, "", "", ""⟩

theorem source_address {oraiAddress : String} (h : ∀ c ∈ oraiAddress.toList, isLowerAlnum c = true) :
    Source oraiAddress "" oraiAddress := by
  obtain ⟨hcolon, hslash⟩ := separator_not_mem h
  refine ⟨hcolon, fun destination => ?_⟩
  rw [readFirstDestination_address hslash, String.ofList_toList]

theorem source_channel {oraiAddress channel : String}
    (h : ∀ c ∈ oraiAddress.toList, isLowerAlnum c = true) (hcolon : ':' ∉ channel.toList)
    (hslash : '/' ∉ channel.toList) :
    Source (channel ++ "/" ++ oraiAddress) channel oraiAddress := by
  obtain ⟨hcolon', hslash'⟩ := separator_not_mem h
  have htext : (channel ++ "/" ++ oraiAddress).toList =
      channel.toList ++ '/' :: oraiAddress.toList := by simp
  refine ⟨?_, fun destination => ?_⟩
  · rw [htext, List.mem_append, List.mem_cons, not_or, not_or]
    exact ⟨hcolon, by decide, hcolon'⟩
  · rw [htext, readFirstDestination_channel hslash hslash', String.ofList_toList,
      String.ofList_toList]

theorem getSourceReceiver_source {env : Environment} {oraiAddress : String}
    (hvalid : (checkValidateAddressWithNetwork env oraiAddress "Oraichain").isValid = true)
    (contractAddress : Option String) (isSourceReceiverTest : Bool) :
    ∃ source, getSourceReceiver env oraiAddress contractAddress isSourceReceiverTest = .ok source ∧
      Source source (sourceChannel contractAddress isSourceReceiverTest) oraiAddress := by
  obtain ⟨-, halnum⟩ := isLowerAlnum_of_valid hvalid
  rw [getSourceReceiver, if_pos hvalid, sourceChannel]
  refine ⟨_, rfl, ?_⟩
  split
  · exact source_address halnum
  · split
    · exact source_channel halnum (by decide) (by decide)
    · exact source_channel halnum (by decide) (by decide)

theorem colon_not_mem {memo : String} (h : ∀ c ∈ memo.toList, isBase64 c = true) :
    ':' ∉ memo.toList := fun hmem => absurd (h ':' hmem) (by decide)

structure Decodes (swapRoute : String) (routeData : OraiBridgeRouteData) : Prop where
  unmarshal : unmarshalOraiBridgeRoute swapRoute = .ok routeData
  hookArgs : hookArgs swapRoute = routeData.finalReceiver
  tonMemo : tonMemo swapRoute = routeData.finalReceiver

theorem decodes_source {source channel oraiAddress : String}
    (h : Source source channel oraiAddress) :
    Decodes source ⟨channel, oraiAddress, "", "", ""⟩ := by
  have hsplit := List.splitOn_eq_singleton h.no_colon
  constructor
  · rw [unmarshalOraiBridgeRoute, splitOnce_whole h.no_colon]
    exact h.reads source
  · rw [UniversalSwap.hookArgs, hsplit]
    rfl
  · rw [UniversalSwap.tonMemo, splitAt, hsplit]
    rfl

theorem decodes_memo {source channel oraiAddress memo : String}
    (h : Source source channel oraiAddress) (hmemo : ':' ∉ memo.toList) (hne : memo ≠ "") :
    Decodes (source ++ ":" ++ memo) ⟨channel, oraiAddress, "", memo, ""⟩ := by
  have htext : (source ++ ":" ++ memo).toList = source.toList ++ ':' :: memo.toList := by simp
  have hsplit : (source ++ ":" ++ memo).toList.splitOn ':' = [source.toList, memo.toList] := by
    rw [htext, List.splitOn_append_cons_self_of_not_mem h.no_colon, List.splitOn_eq_singleton hmemo]
  constructor
  · rw [unmarshalOraiBridgeRoute, htext, splitOnce_cut h.no_colon]
    simp only [h.reads, bind, Except.bind]
    rw [readFinalDestination, List.splitOn_eq_singleton hmemo]
    simp only [String.ofList_toList]
  · rw [UniversalSwap.hookArgs, hsplit]
    exact String.ofList_toList
  · rw [UniversalSwap.tonMemo, splitAt, hsplit]
    change (truthy (some (String.ofList memo.toList))).getD "" = memo
    rw [String.ofList_toList, truthy, Option.filter_some, if_pos (decide_eq_true hne)]
    rfl

theorem bridge_route_decodes (env : Environment) {oraiAddress memo : String}
    (hvalid : (checkValidateAddressWithNetwork env oraiAddress "Oraichain").isValid = true)
    (hmemo : ∀ c ∈ memo.toList, isBase64 c = true) (contractAddress : Option String)
    (isSourceReceiverTest : Bool) :
    ∃ swapRoute,
      addOraiBridgeRoute env oraiAddress contractAddress isSourceReceiverTest (.ok memo) =
        .ok swapRoute ∧
      Decodes swapRoute
        ⟨sourceChannel contractAddress isSourceReceiverTest, oraiAddress, "", memo, ""⟩ := by
  obtain ⟨source, hsource, hreads⟩ :=
    getSourceReceiver_source hvalid contractAddress isSourceReceiverTest
  have haddress : oraiAddress ≠ "" := by
    rintro rfl
    exact (isLowerAlnum_of_valid hvalid).1 rfl
  rw [addOraiBridgeRoute, if_neg haddress, hsource]
  by_cases hempty : memo = ""
  · refine ⟨source, ?_, ?_⟩
    · rw [hempty]
      rfl
    · rw [hempty]
      exact decodes_source hreads
  · have hlength : memo.length > 0 :=
      Nat.pos_of_ne_zero fun h => hempty (String.length_eq_zero_iff.mp h)
    refine ⟨source ++ ":" ++ memo, ?_, decodes_memo hreads (colon_not_mem hmemo) hempty⟩
    exact congrArg Except.ok (if_pos hlength)

def exampleAddress : String := "orai1g4h64yjt0fvzv5v2j8tyfnpe5kmnetejvfgs7g"

def oraiEnvironment : Environment where
  dateNow := 1700000000000
  getAddress := fun _ => none
  base58Decode := fun _ => none
  bech32Decode := fun s =>
    if s = exampleAddress then .ok ⟨"orai", [8, 21, 23, 26, 21, 4, 18, 11, 15, 9, 12, 2, 12, 20, 12, 10,
      18, 7, 11, 4, 9, 19, 1, 25, 20, 22, 27, 19, 25, 11, 25, 18]⟩
    else .error "invalid"
  tonAddressParse := fun _ => .error "Unknown address type"
  cosmosChains := [⟨"Oraichain", "orai"⟩]
  evmChains := ["0x01", "0x38", "0x2b6653dc"]

theorem memo_with_slash_decodes :
    ∃ swapRoute,
      addOraiBridgeRoute oraiEnvironment exampleAddress none false (.ok "Cg4/aB+==") =
        .ok swapRoute ∧
      Decodes swapRoute ⟨"channel-1", exampleAddress, "", "Cg4/aB+==", ""⟩ :=
  bridge_route_decodes oraiEnvironment (by decide) (List.all_eq_true.mp (by decide)) none false

end OraidexSdk.UniversalSwap
