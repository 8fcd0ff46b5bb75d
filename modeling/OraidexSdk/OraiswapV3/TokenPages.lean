import OraidexSdk.OraiswapV3.Readers
import OraidexSdk.Ordered.Stride

namespace OraidexSdk.OraiswapV3Handler
open Js Fueled Paging Keyed Outcome Stride

section AllTokens

variable {P E : Type}

-- A client whose count and pages are these, whatever happens in between.
def Client.replying (client : Client P E) (numTokens : Except JsError Nat)
    (pages : Nat → Except JsError (List Nat)) : Client P E :=
  { client with
    numTokens := numTokens
    allTokens := fun request _ _ => pages request }

def StopsCollecting (numTokens : Except JsError Nat) (pages : Nat → Except JsError (List Nat)) :
    Prop :=
  ∀ count, numTokens = .ok count →
    (∃ i e, pages i = .error e) ∨ ∃ k, count ≤ (collected pages k).length

theorem allTokens_terminates_iff (client : Client P E) (numTokens : Except JsError Nat)
    (pages : Nat → Except JsError (List Nat)) :
    Terminates (allTokens (client.replying numTokens pages)) ↔ StopsCollecting numTokens pages := by
  cases numTokens with
  | error e =>
    refine iff_of_true ⟨.error e, 0, rfl⟩ ?_
    intro count hcount
    cases hcount
  | ok count =>
    have hstops : StopsCollecting (.ok count) pages ↔ ∃ k, Stops count pages k := by
      unfold Stops
      rw [exists_or]
      constructor
      · exact fun h => h count rfl
      · intro h count' hcount
        cases hcount
        exact h
    rw [hstops]
    exact countRound_terminates_iff

-- The only token is burned after it was counted.
theorem allTokens_burned :
    ¬ Terminates (allTokens ((storeClient twoTokens).replying (.ok 1) fun _ => .ok [])) :=
  not_terminates_of_orbit (fun i => (i, [])) fun _ => rfl

end AllTokens

section Tokens

variable {P E : Type}

def tokens (client : Client P E) (owner : String) : Except JsError (List Nat) := do
  let numTokens ← client.numTokens
  (steps numTokens CHUNK_QUERY).foldlM (fun tokens i => do
    let res ← client.tokens owner i CHUNK_QUERY
    return tokens ++ res) []

structure NftStore where
  nfts : List (Nat × String)
  nfts_ascending : Ascending Prod.fst nfts

def NftStore.owned (store : NftStore) (owner : String) : List Nat :=
  (store.nfts.filter fun nft => nft.2 = owner).map Prod.fst

structure AnswersTokens (client : Client P E) (store : NftStore) : Prop where
  numTokens : client.numTokens = .ok store.nfts.length
  tokens : ∀ owner startAfter, client.tokens owner startAfter CHUNK_QUERY =
    .ok (pageAfter id (store.owned owner) CHUNK_QUERY (some startAfter))

def ReturnsOwned (client : Client P E) (store : NftStore) (owner : String) : Prop :=
  ∃ ids, tokens client owner = .ok ids ∧ ids.Perm (store.owned owner)

def NftStore.requests (store : NftStore) : Nat := (store.nfts.length + CHUNK_QUERY - 1) / CHUNK_QUERY

theorem owned_ascending (store : NftStore) (owner : String) :
    (store.owned owner).Pairwise (· < ·) :=
  List.pairwise_map.mpr (store.nfts_ascending.filter _)

theorem tokens_eq {client : Client P E} {store : NftStore} (h : AnswersTokens client store)
    (owner : String) :
    tokens client owner = .ok (pages (store.owned owner) CHUNK_QUERY store.requests) := by
  have hanswer : ∀ i ∈ steps store.nfts.length CHUNK_QUERY, client.tokens owner i CHUNK_QUERY =
      .ok ((above (store.owned owner) i).take CHUNK_QUERY) := fun i _ => h.tokens owner i
  rw [tokens, h.numTokens, ok_bind]
  refine (foldlM_append_eq hanswer []).trans ?_
  rw [List.nil_append, steps_eq_map, List.flatMap_map]
  rfl

theorem tokens_returnsOwned_iff {client : Client P E} {store : NftStore}
    (h : AnswersTokens client store) (owner : String) :
    ReturnsOwned client store owner ↔ Dense (store.owned owner) CHUNK_QUERY store.requests := by
  have hreturns : ReturnsOwned client store owner ↔
      (pages (store.owned owner) CHUNK_QUERY store.requests).Perm (store.owned owner) := by
    rw [ReturnsOwned, tokens_eq h]
    constructor
    · rintro ⟨ids, heq, hperm⟩
      cases heq
      exact hperm
    · exact fun hperm => ⟨_, rfl, hperm⟩
  rw [hreturns]
  cases hrequests : store.requests with
  | zero =>
    have hempty : store.nfts = [] := by
      rw [NftStore.requests, CHUNK_QUERY] at hrequests
      exact List.eq_nil_of_length_eq_zero (by omega)
    have howned : store.owned owner = [] := by rw [NftStore.owned, hempty]; rfl
    rw [howned]
    refine iff_of_true (List.Perm.refl _) ⟨List.not_mem_nil, fun j hj => ?_, ?_⟩
    · exact absurd hj (Nat.not_lt_zero _)
    · exact Nat.zero_le _
  | succ m => exact pages_perm_iff (owned_ascending store owner) (by decide)

def twoOwners : NftStore where
  nfts := [(0, "orai1alice"), (1, "orai1bob")]
  nfts_ascending := by decide

def nftClient (store : NftStore) : Client Nat Unit :=
  { storeClient twoTokens with
    numTokens := .ok store.nfts.length
    tokens := fun owner startAfter limit =>
      .ok (pageAfter id (store.owned owner) limit (some startAfter)) }

theorem answersTokens_nftClient (store : NftStore) : AnswersTokens (nftClient store) store where
  numTokens := rfl
  tokens _ _ := rfl

theorem tokens_returnsOwned_iff_bob :
    ReturnsOwned (nftClient twoOwners) twoOwners "orai1bob" ↔
      Dense (twoOwners.owned "orai1bob") CHUNK_QUERY twoOwners.requests :=
  tokens_returnsOwned_iff (answersTokens_nftClient twoOwners) "orai1bob"

-- The tokens before 50 are burned; the pages after 0 and after 100 overlap.
def fiftyToOneFifty : NftStore where
  nfts := (List.range' 50 101).map fun tokenId => (tokenId, "orai1bob")
  nfts_ascending := List.pairwise_map.mpr List.pairwise_lt_range'

theorem tokens_overlapping_pages :
    ¬ ReturnsOwned (nftClient fiftyToOneFifty) fiftyToOneFifty "orai1bob" := by
  rintro ⟨ids, hrun, hperm⟩
  rw [tokens_eq (answersTokens_nftClient fiftyToOneFifty)] at hrun
  cases hrun
  have hlength : (fiftyToOneFifty.owned "orai1bob").length = 101 := by decide +kernel
  have hpages : (pages (fiftyToOneFifty.owned "orai1bob") CHUNK_QUERY
      fiftyToOneFifty.requests).length = 150 := by decide +kernel
  have heq := hperm.length_eq
  rw [hlength, hpages] at heq
  omega

end Tokens

end OraidexSdk.OraiswapV3Handler
