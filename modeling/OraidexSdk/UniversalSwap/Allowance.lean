import OraidexSdk.OraiswapV3.Parse
import OraidexSdk.UniversalSwap.EvmWallet

namespace OraidexSdk.UniversalSwap
open Js Outcome Interaction Program

-- A transaction of the owner on its way: an approval of the spender, or one in which the spender
-- takes tokens of the owner.
inductive Sent where
  | approval (amount : Nat)
  | spending (amount : Nat)
deriving DecidableEq, Repr

-- What a token contract holds of one owner and one spender, and the transaction that no block
-- holds yet.
@[ext] structure Ledger where
  allowance : Nat
  taken : Nat
  sent : Option Sent
deriving DecidableEq, Repr

-- A strict contract refuses to change an allowance that is not zero to another one. A reliable
-- environment fails only where the contract refuses.
structure TokenContract where
  contract : String
  owner : String
  spender : String
  strict : Bool
  connected : Bool
  reliable : Bool

namespace TokenContract

variable (k : TokenContract)

-- The ledger after a transaction, where the contract does not revert it.
def mined (s : Ledger) : Sent → Option Ledger
  | .approval amount =>
    if k.strict ∧ s.allowance ≠ 0 ∧ amount ≠ 0 then none
    else some { s with allowance := amount, sent := none }
  | .spending amount =>
    if amount ≤ s.allowance then
      some { s with allowance := s.allowance - amount, taken := s.taken + amount, sent := none }
    else none

def amountOf (amount : String) : Option Nat := (bigInt amount.toList).toOption.bind Int.toNat?

def sentBy : EvmTransaction → Option Sent
  | .approve contract spender amount owner =>
    if contract = k.contract ∧ spender = k.spender ∧ owner = k.owner then
      (amountOf amount).map .approval
    else none
  | .sendToCosmos contract token _ amount owner =>
    if contract = k.spender ∧ token = some k.contract ∧ owner = k.owner then
      amount.toNat?.map .spending
    else none
  | _ => none

-- A wait that fails still decides its transaction. An allowance is spent whatever its size:
-- there is no infinite one.
def Step (s : Ledger) : Asked → Ledger → Prop
  | ⟨.allowance contract _ owner spender, .ok amount⟩, t =>
    t = s ∧ (contract = k.contract ∧ owner = k.owner ∧ spender = k.spender → amount = s.allowance)
  | ⟨.checkEthereum, .ok connected⟩, t => t = s ∧ connected = k.connected
  | ⟨.transact transaction, .ok _⟩, t => t = { s with sent := k.sentBy transaction <|> s.sent }
  | ⟨.wait _, .ok _⟩, t =>
    match s.sent with
    | some sent => k.mined s sent = some t
    | none => t = s
  | ⟨.wait _, .error _⟩, t =>
    match s.sent with
    | some sent => (k.reliable = true → k.mined s sent = none) ∧
        (t = { s with sent := none } ∨ k.mined s sent = some t)
    | none => k.reliable = false ∧ t = s
  | ⟨_, .ok _⟩, t => t = s
  | ⟨_, .error _⟩, t => k.reliable = false ∧ t = s

def world : World requests JsError Ledger := ⟨k.Step⟩

def respond (s : Ledger) : ∀ request : Request, Except JsError request.Answer × Ledger
  | .allowance .. => (.ok s.allowance, s)
  | .checkEthereum => (.ok k.connected, s)
  | .transact transaction => (.ok "0x", { s with sent := k.sentBy transaction <|> s.sent })
  | .wait _ =>
    match s.sent with
    | none => (.ok "0x", s)
    | some sent =>
      match k.mined s sent with
      | some t => (.ok "0x", t)
      | none => (.error .typeError, { s with sent := none })
  | request => (.ok request.someAnswer, s)

theorem respond_step (s : Ledger) (request : Request) :
    k.world.Step s ⟨request, (k.respond s request).1⟩ (k.respond s request).2 := by
  cases request with
  | allowance contract rpc owner spender => exact ⟨rfl, fun _ => rfl⟩
  | checkEthereum => exact ⟨rfl, rfl⟩
  | wait transactionHash =>
    cases hsent : s.sent with
    | none => simp [world, Step, respond, hsent]
    | some sent => cases hmined : k.mined s sent <;> simp [world, Step, respond, hsent, hmined]
  | _ => rfl

inductive Settled {α : Type} (s : Ledger) (sent : Sent) : Except JsError α → Ledger → Prop where
  | mined {t : Ledger} (h : k.mined s sent = some t) (result : α) : Settled s sent (.ok result) t
  | refused (h : k.reliable = true → k.mined s sent = none) (e : JsError) :
      Settled s sent (.error e) s
  | lost {t : Ledger} (h : k.mined s sent = some t) (hreliable : k.reliable = false)
      (e : JsError) : Settled s sent (.error e) t

variable {k} {s t : Ledger} {α β : Type}

theorem Settled.map {sent : Sent} {outcome : Except JsError α} (h : k.Settled s sent outcome t)
    (g : α → β) : k.Settled s sent (g <$> outcome) t := by
  cases h with
  | mined hmined result => exact .mined hmined (g result)
  | refused hrefused e => exact .refused hrefused e
  | lost hmined hreliable e => exact .lost hmined hreliable e

theorem bigInt_natural (n : Nat) : bigInt (bigIntText n) = .ok n := by
  have hread := BigDecimal.bigInt_digits (s := .unsigned) Nat.toDigits_ne_nil
    (DigitText.allDigits_toDigits n)
  rw [DigitText.numeral_toDigits] at hread
  simpa [bigIntText_natCast, DecimalLiteral.Sign.text, DecimalLiteral.Sign.factor] using hread

theorem mined_approval (amount : Nat) :
    k.mined s (.approval amount) = if k.strict = true ∧ s.allowance ≠ 0 ∧ amount ≠ 0 then none
      else some { s with allowance := amount, sent := none } := rfl

theorem mined_zero : k.mined s (.approval 0) = some { s with allowance := 0, sent := none } := by
  simp [mined_approval]

theorem mined_sent (pending : Option Sent) (sent : Sent) :
    k.mined { s with sent := pending } sent = k.mined s sent := by
  cases sent <;> rfl

theorem sendAndWait_settles {transaction : EvmTransaction} {sent : Sent}
    (hsent : k.sentBy transaction = some sent) (hquiet : s.sent = none) :
    (EvmWallet.sendAndWait transaction).Ensures k.world (k.Settled s sent) s := by
  refine ensures_bind.mpr (ensures_request.mpr fun answer t hstep => ?_)
  cases answer with
  | error e =>
    obtain ⟨hreliable, rfl⟩ : k.reliable = false ∧ t = s := hstep
    exact .refused (by simp [hreliable]) e
  | ok result =>
    obtain rfl : t = { s with sent := k.sentBy transaction <|> s.sent } := hstep
    rw [hsent]
    refine ensures_bind.mpr (ensures_request.mpr fun receipt u hwait => ?_)
    cases receipt with
    | error e =>
      change k.Settled s sent (.error e) u
      obtain ⟨hmined, hsame | hlost⟩ := hwait
      · obtain rfl : u = s := by rw [hsame, ← hquiet]
        rw [mined_sent] at hmined
        exact .refused hmined e
      · rw [mined_sent] at hmined hlost
        refine .lost hlost (Bool.eq_false_iff.mpr fun hreliable => ?_) e
        cases (hmined hreliable).symm.trans hlost
    | ok receipt =>
      refine ensures_pure.mpr ?_
      exact .mined ((mined_sent _ sent).symm.trans hwait) (result, receipt)

theorem sentBy_approve {amount : String} {n : Nat} (h : bigInt amount.toList = .ok n) :
    k.sentBy (.approve k.contract k.spender amount k.owner) = some (.approval n) := by
  simp [sentBy, amountOf, h, Except.toOption, Int.toNat?]

structure Approves (k : TokenContract) (s : Ledger) (amount : Nat) (takes : Prop)
    (outcome : Except JsError String) (t : Ledger) : Prop where
  settled : t.sent = none
  taken : t.taken = s.taken
  approved : ∀ hash, outcome = .ok hash → takes ∧ t.allowance = amount
  failed : ∀ e, outcome = .error e → t.allowance ∈ [s.allowance, 0, amount]
  reliable : k.reliable = true → ∀ e, outcome = .error e → ¬ takes ∧ t.allowance = s.allowance

theorem Approves.unreliable {amount : Nat} {takes : Prop} (hquiet : s.sent = none)
    (h : k.reliable = false) (e : JsError) : k.Approves s amount takes (.error e) s :=
  ⟨hquiet, rfl, nofun, fun _ _ => List.mem_cons_self, by simp [h]⟩

theorem Settled.approves {amount : Nat} {outcome : Except JsError String}
    (h : k.Settled s (.approval amount) outcome t) (hquiet : s.sent = none) (hamount : amount ≠ 0) :
    k.Approves s amount (k.strict = false ∨ s.allowance = 0) outcome t := by
  cases h with
  | mined hmined result =>
    rw [mined_approval] at hmined
    split at hmined
    · cases hmined
    · rename_i htakes
      obtain rfl := Option.some.inj hmined
      refine ⟨rfl, rfl, fun _ _ => ⟨?_, rfl⟩, nofun, nofun⟩
      cases hstrict : k.strict with
      | false => exact .inl rfl
      | true => exact .inr (by simpa [hstrict, hamount] using htakes)
  | refused hrefused e =>
    refine ⟨hquiet, rfl, nofun, fun _ _ => List.mem_cons_self, fun hreliable _ _ => ⟨?_, rfl⟩⟩
    have hnone := hrefused hreliable
    rw [mined_approval] at hnone
    split at hnone
    · rename_i hstrict
      simp [hstrict.1, hstrict.2.1]
    · cases hnone
  | lost hmined hreliable e =>
    rw [mined_approval] at hmined
    split at hmined
    · cases hmined
    · obtain rfl := Option.some.inj hmined
      exact ⟨rfl, rfl, nofun, fun _ _ => by simp, by simp [hreliable]⟩

-- The contract takes a new allowance: it is not strict, the code resets the allowance first, or
-- there is nothing to reset.
def Takes (k : TokenContract) (token : SwapToken) (allowance : Nat) : Prop :=
  k.strict = false ∨ isUsdtErc20 token = true ∨ allowance = 0

theorem approve_ensures {token : SwapToken} {n : Nat} {amount : String}
    (hamount : bigInt amount.toList = .ok n) (hn : n ≠ 0) (hquiet : s.sent = none) :
    (EvmWallet.approve token k.contract k.spender amount k.owner).Ensures k.world
      (k.Approves s n (k.Takes token s.allowance)) s := by
  have hset := sentBy_approve (k := k) hamount
  refine ensures_bind.mpr (ensures_request.mpr fun signer t hsigner => ?_)
  cases signer with
  | error e =>
    obtain ⟨hreliable, rfl⟩ : k.reliable = false ∧ t = s := hsigner
    exact .unreliable hquiet hreliable e
  | ok signer =>
    obtain rfl : t = s := hsigner
    change Ensures k.world (if isUsdtErc20 token = true then _ else _) _ _
    split
    · rename_i husdt
      have htakes : k.Takes token t.allowance := .inr (.inl husdt)
      have hreset : k.sentBy (.approve k.contract k.spender "0" k.owner) = some (.approval 0) :=
        sentBy_approve rfl
      refine ensures_bind.mpr ((sendAndWait_settles hreset hquiet).mono ?_)
      intro outcome u hsettled
      cases hsettled with
      | mined hmined result =>
        obtain rfl := Option.some.inj (mined_zero.symm.trans hmined)
        refine ensures_map.mpr ((sendAndWait_settles hset rfl).mono fun outcome u hsettled => ?_)
        obtain ⟨hsent, htaken, hok, hfailed, hreliable⟩ := (hsettled.map Prod.fst).approves rfl hn
        refine ⟨hsent, htaken, fun hash h => ⟨htakes, (hok hash h).2⟩, fun e h => ?_, fun hr e h => ?_⟩
        · have hleft := hfailed e h
          simp only [List.mem_cons, List.not_mem_nil, or_false] at hleft ⊢
          tauto
        · exact absurd (.inr rfl) (hreliable hr e h).1
      | refused hrefused e =>
        refine ⟨hquiet, rfl, nofun, fun _ _ => List.mem_cons_self, fun hr => ?_⟩
        cases mined_zero.symm.trans (hrefused hr)
      | lost hmined hreliable e =>
        obtain rfl := Option.some.inj (mined_zero.symm.trans hmined)
        exact ⟨rfl, rfl, nofun, fun _ _ => by simp, by simp [hreliable]⟩
    · rename_i husdt
      refine ensures_map.mpr ((sendAndWait_settles hset hquiet).mono fun outcome u hsettled => ?_)
      have htakes : k.Takes token t.allowance ↔ k.strict = false ∨ t.allowance = 0 := by
        simp [Takes, husdt]
      rw [htakes]
      exact (hsettled.map Prod.fst).approves hquiet hn

structure Allowed (k : TokenContract) (token : SwapToken) (s : Ledger) (needed : Int)
    (outcome : Except JsError (Option String)) (t : Ledger) : Prop where
  settled : t.sent = none
  taken : t.taken = s.taken
  approved : ∀ hash, outcome = .ok (some hash) → k.connected = true ∧ s.allowance < needed ∧
    k.Takes token s.allowance ∧ t.allowance = needed
  kept : outcome = .ok none →
    t.allowance = s.allowance ∧ (needed ≤ s.allowance ∨ k.connected = false)
  failed : ∀ e, outcome = .error e → t.allowance ∈ [s.allowance, 0, needed.toNat]
  reliable : k.reliable = true → ∀ e, outcome = .error e → k.connected = true ∧
    s.allowance < needed ∧ ¬ k.Takes token s.allowance ∧ t.allowance = s.allowance

variable {wallet : EvmWallet} {token : SwapToken} {owner : Option String} {amount : String}
  {needed : Int}

theorem Allowed.unreliable (hquiet : s.sent = none) (h : k.reliable = false) (e : JsError) :
    k.Allowed token s needed (.error e) s :=
  ⟨hquiet, rfl, nofun, nofun, fun _ _ => List.mem_cons_self, by simp [h]⟩

theorem Allowed.unchanged (hquiet : s.sent = none)
    (h : needed ≤ s.allowance ∨ k.connected = false) : k.Allowed token s needed (.ok none) s :=
  ⟨hquiet, rfl, nofun, fun _ => ⟨rfl, h⟩, nofun, nofun⟩

theorem Approves.allowed {n : Nat} {outcome : Except JsError String}
    (h : k.Approves s n (k.Takes token s.allowance) outcome t) (hconnected : k.connected = true)
    (hshort : s.allowance < n) : k.Allowed token s n (some <$> outcome) t := by
  cases outcome with
  | error e =>
    refine ⟨h.settled, h.taken, nofun, nofun, fun _ _ => h.failed e rfl, fun hr _ _ => ?_⟩
    exact ⟨hconnected, Int.ofNat_lt.mpr hshort, h.reliable hr e rfl⟩
  | ok hash =>
    obtain ⟨htakes, hleft⟩ := h.approved hash rfl
    exact ⟨h.settled, h.taken, fun _ _ => ⟨hconnected, Int.ofNat_lt.mpr hshort, htakes,
      congrArg _ hleft⟩, nofun, nofun, nofun⟩

theorem checkOrIncreaseAllowance_ensures (hevm : isTron token.chainId = false)
    (hcontract : truthy token.contractAddress = some k.contract)
    (howner : wallet.ownerHex token owner = .ok k.owner) (hamount : bigInt amount.toList = .ok needed)
    (hquiet : s.sent = none) :
    (wallet.checkOrIncreaseAllowance token owner k.spender amount).Ensures k.world
      (k.Allowed token s needed) s := by
  rw [EvmWallet.checkOrIncreaseAllowance, hcontract, howner]
  refine ensures_bind.mpr (ensures_lift.mpr ?_)
  refine ensures_bind.mpr (ensures_request.mpr fun answer t hstep => ?_)
  cases answer with
  | error e =>
    obtain ⟨hreliable, rfl⟩ : k.reliable = false ∧ t = s := hstep
    exact .unreliable hquiet hreliable e
  | ok current =>
    obtain ⟨rfl, hcurrent⟩ := hstep
    obtain rfl := hcurrent ⟨rfl, rfl, rfl⟩
    rw [hamount]
    refine ensures_bind.mpr (ensures_lift.mpr ?_)
    change Ensures k.world (if (t.allowance : Int) ≥ needed then _ else if isTron token.chainId
      then _ else _) _ _
    split
    · rename_i hcovered
      exact ensures_pure.mpr (.unchanged hquiet (.inl hcovered))
    · rename_i hshort
      obtain ⟨n, rfl⟩ := Int.eq_ofNat_of_zero_le (by omega : 0 ≤ needed)
      rw [if_neg (by simp [hevm])]
      refine ensures_bind.mpr (ensures_request.mpr fun answer u hstep => ?_)
      cases answer with
      | error e =>
        obtain ⟨hreliable, rfl⟩ : k.reliable = false ∧ u = t := hstep
        exact .unreliable hquiet hreliable e
      | ok connected =>
        obtain ⟨rfl, hconnected⟩ := hstep
        change Ensures k.world (if connected = true then _ else _) _ _
        split
        · rename_i htrue
          refine ensures_map.mpr ((approve_ensures hamount (by omega) hquiet).mono ?_)
          exact fun outcome t h => h.allowed (hconnected ▸ htrue) (by omega)
        · rename_i hfalse
          have hoff : k.connected = false := by
            rw [← hconnected]
            exact Bool.eq_false_iff.mpr hfalse
          exact ensures_pure.mpr (.unchanged hquiet (.inr hoff))

theorem allowance_raised_to_need (hevm : isTron token.chainId = false)
    (hcontract : truthy token.contractAddress = some k.contract)
    (howner : wallet.ownerHex token owner = .ok k.owner) (hamount : bigInt amount.toList = .ok needed)
    (hquiet : s.sent = none) {trace : List Asked} {outcome : Except JsError (Option String)}
    (hrun : Runs (wallet.checkOrIncreaseAllowance token owner k.spender amount) trace outcome)
    (hpath : k.world.Path s trace t) :
    k.Allowed token s needed outcome t ∧
      (k.reliable = true → ((∃ hash, outcome = .ok hash) ↔
        needed ≤ s.allowance ∨ k.connected = false ∨ k.Takes token s.allowance)) := by
  have hallowed := ensures_iff.mp
    (checkOrIncreaseAllowance_ensures hevm hcontract howner hamount hquiet) trace outcome t hrun hpath
  refine ⟨hallowed, fun hr => ⟨?_, fun hcan => ?_⟩⟩
  · rintro ⟨hash, rfl⟩
    cases hash with
    | none => exact (hallowed.kept rfl).2.imp_right .inl
    | some hash => exact .inr (.inr (hallowed.approved hash rfl).2.2.1)
  · cases outcome with
    | ok hash => exact ⟨hash, rfl⟩
    | error e =>
      obtain ⟨hon, hshort, hrefuses, -⟩ := hallowed.reliable hr e rfl
      rcases hcan with hle | hoff | htakes
      · omega
      · cases hon.symm.trans hoff
      · exact absurd htakes hrefuses

end TokenContract

section Tether

def bscEnvironment : Environment where
  dateNow := 1710000000000
  getAddress := some
  base58Decode := fun _ => none
  bech32Decode := fun _ => .error "not read here"
  tonAddressParse := fun _ => .error "not read here"
  cosmosChains := []
  evmChains := ["0x01", "0x38", "0x2b6653dc"]

def browserWallet : EvmWallet :=
  ⟨bscEnvironment, exampleEthers, .typeError, fun _ => "", false⟩

def tether (chainId contract : String) : SwapToken where
  name := "USDT"
  contractAddress := some contract
  denom := "usdt"
  chainId := chainId
  decimals := 6
  coinGeckoId := some "tether"
  rpc := "rpc"
  evmDenoms := none
  denomPrefix := none
  bridgeNetworkIdentifier := none
  cosmosBased := false
  feeCurrencies := none
  gasPriceAverage := none

def strictContract (contract : String) : TokenContract :=
  ⟨contract, "0xowner", "0xspender", true, true, true⟩

-- The reset that USDT on Ethereum needs is sent there and nowhere else.
theorem tether_allowance_raised :
    let run := (browserWallet.checkOrIncreaseAllowance (tether "0x01" "0xusdt") (some "0xowner")
      "0xspender" "70").simulate (strictContract "0xusdt").respond ⟨50, 0, none⟩
    (strictContract "0xusdt").Allowed (tether "0x01" "0xusdt") ⟨50, 0, none⟩ 70 run.2.1 run.2.2 ∧
      run.2 = (.ok (some "0x"), ⟨70, 0, none⟩) ∧
      ((browserWallet.checkOrIncreaseAllowance (tether "0x38" "0xusdt") (some "0xowner") "0xspender"
        "70").simulate (strictContract "0xusdt").respond ⟨50, 0, none⟩).2 =
          (.error .typeError, ⟨50, 0, none⟩) := by
  intro run
  obtain ⟨hrun, hpath⟩ := simulate_runs (strictContract "0xusdt").respond_step
    (browserWallet.checkOrIncreaseAllowance (tether "0x01" "0xusdt") (some "0xowner") "0xspender" "70")
    ⟨50, 0, none⟩
  exact ⟨(TokenContract.allowance_raised_to_need (by decide +kernel) (by decide) rfl
    (by decide +kernel) rfl hrun hpath).1, by decide +kernel, by decide +kernel⟩

end Tether

end OraidexSdk.UniversalSwap
