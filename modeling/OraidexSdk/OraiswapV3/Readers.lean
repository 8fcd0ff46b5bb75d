import OraidexSdk.Js.Number
import OraidexSdk.Loops.Paging
import OraidexSdk.OraiswapV3.ZapIn

namespace OraidexSdk.OraiswapV3Handler
open Js OraiswapV3 Fueled Keyed Outcome Paging

def CHUNK_QUERY : Nat := 100

structure Approval (E : Type) where
  spender : String
  expires : E

-- The base64 JSON that toBinary makes of nft_info is left aside.
structure NftInfoQuery where
  address : String
  tokenId : Nat

-- The queries of the contract and of the multicall contract, and what fromBinary reads as the
-- extension of an answer. The requests of allTokens are numbered: the store may change between
-- them.
structure Client (P E : Type) where
  contractAddress : String
  positions : (ownerId : String) → (limit offset : Nat) → Except JsError (List P)
  pools : (limit : Nat) → (startAfter : Option (PoolKey String Nat)) →
    Except JsError (List PoolWithPoolKey)
  approvedForAll : (owner : String) → (includeExpired : Bool) → (limit : Nat) →
    (startAfter : Option String) → Except JsError (List (Approval E))
  tokens : (owner : String) → (startAfter limit : Nat) → Except JsError (List Nat)
  allTokens : (request : Nat) → (startAfter : Option Nat) → (limit : Nat) →
    Except JsError (List Nat)
  numTokens : Except JsError Nat
  aggregate : List NftInfoQuery → Except JsError (List String)
  extension : String → Except JsError P

section Readers

variable {P E : Type} (client : Client P E)

def getPositions (owner : String) : Fueled JsError (List P) :=
  loop (shortRound CHUNK_QUERY fun positions =>
    client.positions owner CHUNK_QUERY positions.length) []

def getPools : Fueled JsError (List PoolWithPoolKey) :=
  loop (shortRound CHUNK_QUERY fun pools =>
    client.pools CHUNK_QUERY (pools.getLast?.map (·.poolKey))) []

def approveForAll (owner : String) (includeExpired : Bool) : Fueled JsError (List (Approval E)) :=
  loop (shortRound CHUNK_QUERY fun approvals =>
    client.approvedForAll owner includeExpired CHUNK_QUERY (approvals.getLast?.map (·.spender))) []

def allTokens : Fueled JsError (List Nat) := do
  let numTokens ← lift client.numTokens
  loop (countRound numTokens fun request tokens =>
    client.allTokens request tokens.getLast? CHUNK_QUERY) (0, [])

def aggregatePositions (tokens : List Nat) : Except JsError (List P) := do
  let res ← client.aggregate (tokens.map fun tokenId => ⟨client.contractAddress, tokenId⟩)
  tokens.zipIdx.mapM fun token => do
    match res[token.2]? with
    | none => .error .typeError
    | some data => client.extension data

def allPositions : Fueled JsError (List P) := do
  let allTokens ← allTokens client
  loop (spliceLastRound 40 (aggregatePositions client)) (allTokens, [])

end Readers

-- A contract store that no transaction changes. The keys of pools and approvals have an order.
structure Store (P E K : Type) [LinearOrder K] where
  positions : String → List P
  pools : List PoolWithPoolKey
  poolOrder : PoolKey String Nat → K
  pools_ascending : Ascending (fun pool => poolOrder pool.poolKey) pools
  approvals : String → Bool → List (Approval E)
  spenderOrder : String → K
  approvals_ascending : ∀ owner includeExpired,
    Ascending (fun approval => spenderOrder approval.spender) (approvals owner includeExpired)
  tokens : List Nat
  tokens_ascending : Ascending id tokens
  nftInfo : Nat → P

structure Answers {P E K : Type} [LinearOrder K] (client : Client P E) (store : Store P E K) :
    Prop where
  positions : ∀ owner offset,
    client.positions owner CHUNK_QUERY offset =
      .ok (pageFrom (store.positions owner) CHUNK_QUERY offset)
  pools : ∀ startAfter, client.pools CHUNK_QUERY startAfter =
    .ok (pageAfter (fun pool => store.poolOrder pool.poolKey) store.pools CHUNK_QUERY
      (startAfter.map store.poolOrder))
  approvedForAll : ∀ owner includeExpired startAfter,
    client.approvedForAll owner includeExpired CHUNK_QUERY startAfter =
      .ok (pageAfter (fun approval => store.spenderOrder approval.spender)
        (store.approvals owner includeExpired) CHUNK_QUERY (startAfter.map store.spenderOrder))
  numTokens : client.numTokens = .ok store.tokens.length
  allTokens : ∀ request startAfter, client.allTokens request startAfter CHUNK_QUERY =
    .ok (pageAfter id store.tokens CHUNK_QUERY startAfter)
  aggregate : ∃ answer : Nat → String,
    (∀ tokens ⊆ store.tokens,
      client.aggregate (tokens.map fun tokenId => ⟨client.contractAddress, tokenId⟩) =
        .ok (tokens.map answer)) ∧
      ∀ tokenId ∈ store.tokens, client.extension (answer tokenId) = .ok (store.nftInfo tokenId)

section Complete

variable {P E K : Type} [LinearOrder K] {client : Client P E} {store : Store P E K}
variable (h : Answers client store)
include h

theorem getPositions_complete (owner : String) :
    Ends (getPositions client owner) (.ok (store.positions owner)) := by
  have hserves : Serves (store.positions owner) CHUNK_QUERY fun positions =>
      client.positions owner CHUNK_QUERY positions.length :=
    (serves_pageFrom (store.positions owner) CHUNK_QUERY).congr fun _ => h.positions owner _
  exact ends_shortRound hserves (by decide)

theorem getPools_complete : Ends (getPools client) (.ok store.pools) := by
  have hserves : Serves store.pools CHUNK_QUERY fun pools =>
      client.pools CHUNK_QUERY (pools.getLast?.map (·.poolKey)) := by
    refine (serves_pageAfter store.pools_ascending CHUNK_QUERY).congr fun pools => ?_
    rw [h.pools, Option.map_map]
    rfl
  exact ends_shortRound hserves (by decide)

theorem approveForAll_complete (owner : String) (includeExpired : Bool) :
    Ends (approveForAll client owner includeExpired)
      (.ok (store.approvals owner includeExpired)) := by
  have hserves : Serves (store.approvals owner includeExpired) CHUNK_QUERY fun approvals =>
      client.approvedForAll owner includeExpired CHUNK_QUERY
        (approvals.getLast?.map (·.spender)) := by
    refine (serves_pageAfter (store.approvals_ascending owner includeExpired) CHUNK_QUERY).congr
      fun approvals => ?_
    rw [h.approvedForAll, Option.map_map]
    rfl
  exact ends_shortRound hserves (by decide)

theorem allTokens_complete : Ends (allTokens client) (.ok store.tokens) := by
  have hserves : ∀ request, Serves store.tokens CHUNK_QUERY fun tokens =>
      client.allTokens request tokens.getLast? CHUNK_QUERY := by
    intro request
    refine (serves_pageAfter store.tokens_ascending CHUNK_QUERY).congr fun tokens => ?_
    rw [h.allTokens, Option.map_id, id_eq]
  rw [allTokens, h.numTokens, ends_lift_bind_iff]
  exact ends_countRound hserves (by decide)

theorem aggregatePositions_eq {tokens : List Nat} (htokens : tokens ⊆ store.tokens) :
    aggregatePositions client tokens = .ok (tokens.map store.nftInfo) := by
  obtain ⟨answer, haggregate, hextension⟩ := h.aggregate
  have hfst : tokens.zipIdx.map (store.nftInfo ∘ Prod.fst) = tokens.map store.nftInfo := by
    rw [← List.map_map, List.zipIdx_map_fst]
  rw [aggregatePositions, haggregate tokens htokens, ok_bind, ← hfst]
  refine mapM_eq_map fun token htoken => ?_
  have hat := List.mem_zipIdx_iff_getElem?.mp htoken
  rw [List.getElem?_map, hat]
  exact hextension token.1 (htokens (List.mem_of_getElem? hat))

theorem allPositions_complete :
    Ends (allPositions client) (.ok (store.tokens.map store.nftInfo)) :=
  ends_bind (allTokens_complete h)
    (ends_spliceLastRound (fun _ htokens _ => aggregatePositions_eq h htokens) (by decide))

end Complete

theorem readers_complete {P E K : Type} [LinearOrder K] {client : Client P E}
    {store : Store P E K} (h : Answers client store) :
    (∀ owner, Ends (getPositions client owner) (.ok (store.positions owner))) ∧
      Ends (getPools client) (.ok store.pools) ∧
      (∀ owner includeExpired, Ends (approveForAll client owner includeExpired)
        (.ok (store.approvals owner includeExpired))) ∧
      Ends (allTokens client) (.ok store.tokens) ∧
      Ends (allPositions client) (.ok (store.tokens.map store.nftInfo)) :=
  ⟨getPositions_complete h, getPools_complete h, approveForAll_complete h, allTokens_complete h,
    allPositions_complete h⟩

def storeClient {P E K : Type} [LinearOrder K] (store : Store P E K) : Client P E where
  contractAddress := "orai1"
  positions owner limit offset := .ok (pageFrom (store.positions owner) limit offset)
  pools limit startAfter := .ok (pageAfter (fun pool => store.poolOrder pool.poolKey) store.pools
    limit (startAfter.map store.poolOrder))
  approvedForAll owner includeExpired limit startAfter :=
    .ok (pageAfter (fun approval => store.spenderOrder approval.spender)
      (store.approvals owner includeExpired) limit (startAfter.map store.spenderOrder))
  tokens _ startAfter limit := .ok (pageAfter id store.tokens limit (some startAfter))
  allTokens _ startAfter limit := .ok (pageAfter id store.tokens limit startAfter)
  numTokens := .ok store.tokens.length
  aggregate queries := .ok (queries.map fun query => naturalText query.tokenId)
  extension data := .ok (store.nftInfo (DigitText.numeral data.toList))

theorem answers_storeClient {P E K : Type} [LinearOrder K] (store : Store P E K) :
    Answers (storeClient store) store where
  positions _ _ := rfl
  pools _ := rfl
  approvedForAll _ _ _ := rfl
  numTokens := rfl
  allTokens _ _ := rfl
  aggregate := by
    refine ⟨naturalText, fun tokens _ => ?_, fun tokenId _ => ?_⟩
    · change Except.ok ((tokens.map _).map _) = _
      rw [List.map_map]
      rfl
    · change Except.ok (store.nftInfo (DigitText.numeral (naturalText tokenId).toList)) = _
      rw [naturalText, String.toList_ofList, DigitText.numeral_toDigits]

def twoTokens : Store Nat Unit Nat where
  positions _ := [7, 9]
  pools := []
  poolOrder _ := 0
  pools_ascending := .nil
  approvals _ _ := []
  spenderOrder _ := 0
  approvals_ascending _ _ := .nil
  tokens := [1, 4]
  tokens_ascending := by decide
  nftInfo tokenId := tokenId + 6

theorem readers_complete_two_tokens :
    (∀ owner, Ends (getPositions (storeClient twoTokens) owner) (.ok [7, 9])) ∧
      Ends (getPools (storeClient twoTokens)) (.ok []) ∧
      (∀ owner includeExpired,
        Ends (approveForAll (storeClient twoTokens) owner includeExpired) (.ok [])) ∧
      Ends (allTokens (storeClient twoTokens)) (.ok [1, 4]) ∧
      Ends (allPositions (storeClient twoTokens)) (.ok [7, 10]) :=
  readers_complete (answers_storeClient twoTokens)

end OraidexSdk.OraiswapV3Handler
