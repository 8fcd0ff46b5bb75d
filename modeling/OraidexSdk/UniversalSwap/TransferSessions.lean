import OraidexSdk.UniversalSwap.EvmTransfers

namespace OraidexSdk.UniversalSwap
open Js Outcome Message Interaction Program

namespace TokenContract

variable (k : TokenContract)

structure TransfersTo (handler : Handler) (swapRoute : String) (n : Nat) : Prop where
  wallet : handler.hasEvmWallet = true
  evm : isTron handler.swapData.originalFromToken.chainId = false
  token : handler.swapData.originalFromToken.contractAddress = some k.contract
  contract : k.contract ≠ ""
  gravity : gravityContracts handler.swapData.originalFromToken.chainId = some k.spender
  owner : handler.swapData.sender.evm = some k.owner
  owned : k.owner ≠ ""
  amount : toAmount handler.swapData.fromAmount handler.swapData.originalFromToken.decimals = .ok n
  route : swapRoute ≠ ""

structure Transferred (token : SwapToken) (s : Ledger) (n : Nat)
    (outcome : Except JsError (Option String)) (t : Ledger) : Prop where
  settled : t.sent = none
  sent : ∀ hash, outcome = .ok (some hash) →
    t.allowance = s.allowance - n ∧ t.taken = s.taken + n
  kept : outcome = .ok none → k.connected = false ∧ t = s
  failed : ∀ e, outcome = .error e →
    t.allowance ≤ max s.allowance n ∧ (t.taken = s.taken ∨ t.taken = s.taken + n)
  reliable : k.reliable = true → ∀ e, outcome = .error e → k.connected = true ∧ s.allowance < n ∧
    ¬ k.Takes token s.allowance ∧ t = s

variable {k} {s t u : Ledger} {handler : Handler} {swapRoute : String} {n : Nat}

theorem gravityContracts_ne {chainId gravity : String} (h : gravityContracts chainId = some gravity) :
    gravity ≠ "" := by
  rintro rfl
  unfold gravityContracts at h
  split at h
  all_goals first | cases h | exact absurd (Option.some.inj h) (by decide)

theorem mined_spending :
    k.mined s (.spending n) = if n ≤ s.allowance then
      some { s with allowance := s.allowance - n, taken := s.taken + n, sent := none } else none := rfl

def Sends (k : TokenContract) (s : Ledger) (n : Nat) (outcome : Except JsError (Option String))
    (t : Ledger) : Prop :=
  (outcome = .ok none ∧ k.connected = false ∧ t = s) ∨
    (outcome ≠ .ok none ∧ k.Settled s (.spending n) outcome t ∧
      (k.reliable = true → k.connected = true))

theorem transferToGravity_ensures (h : k.TransfersTo handler swapRoute n) (hquiet : s.sent = none) :
    (handler.transferToGravity swapRoute).Ensures k.world (k.Sends s n) s := by
  have hunreliable (hr : k.reliable = false) (e : JsError) : k.Sends s n (.error e) s :=
    .inr ⟨by simp, .refused (by simp [hr]) e, by simp [hr]⟩
  rw [Handler.transferToGravity, h.amount]
  refine ensures_bind.mpr (ensures_lift.mpr ?_)
  change Ensures k.world (if handler.hasEvmWallet = true then if _ then _ else _ else _) _ _
  rw [if_pos h.wallet, if_neg (by simp [h.evm])]
  refine ensures_bind.mpr (ensures_request.mpr fun answer t hstep => ?_)
  cases answer with
  | error e =>
    obtain ⟨hr, rfl⟩ : k.reliable = false ∧ t = s := hstep
    exact hunreliable hr e
  | ok connected =>
    obtain ⟨rfl, hconnected⟩ := hstep
    change Ensures k.world (if connected = true then _ else _) _ _
    split
    · rename_i htrue
      have hon : k.connected = true := hconnected ▸ htrue
      have hsent : k.sentBy (.sendToCosmos k.spender (some k.contract) swapRoute n k.owner) =
          some (.spending n) := by
        simp [sentBy, Int.toNat?]
      rw [Handler.sendToCosmosOnEvm, h.gravity, h.owner, h.token,
        truthy_some (gravityContracts_ne h.gravity), truthy_some h.owned, truthy_some h.route]
      refine ensures_map.mpr (ensures_bind.mpr (ensures_request.mpr fun signer u hsigner => ?_))
      cases signer with
      | error e =>
        obtain ⟨hr, rfl⟩ : k.reliable = false ∧ u = t := hsigner
        exact hunreliable hr e
      | ok signer =>
        obtain rfl : u = t := hsigner
        refine ensures_map.mpr ((sendAndWait_settles hsent hquiet).mono fun outcome v hv => ?_)
        refine .inr ⟨?_, (hv.map Prod.snd).map some, fun _ => hon⟩
        cases outcome <;> simp
    · rename_i hfalse
      exact ensures_pure.mpr <| .inl ⟨rfl, hconnected ▸ Bool.eq_false_iff.mpr hfalse, rfl⟩

theorem Sends.transferred {token : SwapToken} {outcome : Except JsError (Option String)}
    (h : k.Sends s n outcome t) (hquiet : s.sent = none)
    (hcovered : n ≤ s.allowance ∨ k.connected = false) : k.Transferred token s n outcome t := by
  rcases h with ⟨rfl, hoff, rfl⟩ | ⟨hne, hsettled, hon⟩
  · exact ⟨hquiet, nofun, fun _ => ⟨hoff, rfl⟩, nofun, nofun⟩
  · cases hsettled with
    | mined hmined result =>
      rw [mined_spending] at hmined
      split at hmined
      · cases hmined
        exact ⟨rfl, fun _ _ => ⟨rfl, rfl⟩, fun h => absurd h hne, nofun, nofun⟩
      · cases hmined
    | refused hrefused e =>
      refine ⟨hquiet, nofun, nofun, fun _ _ => ⟨le_max_left _ _, .inl rfl⟩, fun hr _ _ => ?_⟩
      have hnone := hrefused hr
      rw [mined_spending, ite_eq_right_iff] at hnone
      rcases hcovered with hle | hoff
      · cases hnone hle
      · cases (hon hr).symm.trans hoff
    | lost hmined hr e =>
      rw [mined_spending] at hmined
      split at hmined
      · cases hmined
        exact ⟨rfl, nofun, nofun, fun _ _ => ⟨le_max_of_le_left (Nat.sub_le _ _), .inr rfl⟩,
          by simp [hr]⟩
      · cases hmined

theorem Allowed.eq_of_allowance {token : SwapToken} {needed : Int}
    {approval : Except JsError (Option String)} (h : k.Allowed token s needed approval t)
    (hquiet : s.sent = none) (hsame : t.allowance = s.allowance) : t = s := by
  rw [Ledger.ext_iff]
  exact ⟨hsame, h.taken, h.settled.trans hquiet.symm⟩

theorem Allowed.not_transferred {token : SwapToken} {e : JsError}
    (h : k.Allowed token s n (.error e) t) (hquiet : s.sent = none) :
    k.Transferred token s n (.error e) t := by
  refine ⟨h.settled, by simp, by simp, fun _ _ => ⟨?_, .inl h.taken⟩, fun hr _ _ => ?_⟩
  · have hleft := h.failed e rfl
    simp only [Int.toNat_natCast, List.mem_cons, List.not_mem_nil, or_false] at hleft
    omega
  · obtain ⟨hon, hshort, hrefuses, hsame⟩ := h.reliable hr e rfl
    exact ⟨hon, by omega, hrefuses, h.eq_of_allowance hquiet hsame⟩

theorem Transferred.after_approval {token : SwapToken} {outcome : Except JsError (Option String)}
    (h : k.Transferred token t n outcome u) (hon : k.connected = true) (hshort : s.allowance < n)
    (hleft : t.allowance = n) (htaken : t.taken = s.taken) : k.Transferred token s n outcome u := by
  refine ⟨h.settled, fun hash hdone => ?_, fun hkept => ?_, fun e he => ?_, fun hr e he => ?_⟩
  · have := h.sent hash hdone
    omega
  · cases (h.kept hkept).1.symm.trans hon
  · obtain ⟨hle, htook⟩ := h.failed e he
    omega
  · have hcontra := (h.reliable hr e he).2.1
    omega

theorem transferEvmToIBC_ensures (h : k.TransfersTo handler swapRoute n) (hquiet : s.sent = none) :
    (handler.transferEvmToIBC swapRoute).Ensures k.world
      (k.Transferred handler.swapData.originalFromToken s n) s := by
  have howner : handler.evmWallet.ownerHex handler.swapData.originalFromToken
      (getFinalEvmAddress handler.swapData.originalFromToken.chainId handler.swapData.sender.evm
        handler.swapData.sender.tron) = .ok k.owner := by
    rw [EvmWallet.ownerHex, getFinalEvmAddress, if_neg (by simp [h.evm]), if_neg (by simp [h.evm]),
      h.owner]
    rfl
  have hcontract : truthy handler.swapData.originalFromToken.contractAddress = some k.contract := by
    rw [h.token, truthy_some h.contract]
  have hneeded : bigInt (String.ofList (bigIntText n)).toList = .ok (n : Int) := by
    rw [String.toList_ofList, bigInt_natural]
  change Ensures k.world (if handler.hasEvmWallet = true then _ else _) _ _
  rw [if_pos h.wallet, h.gravity]
  dsimp only
  rw [h.amount]
  refine ensures_bind.mpr (ensures_lift.mpr (ensures_bind.mpr ?_))
  refine (checkOrIncreaseAllowance_ensures h.evm hcontract howner hneeded hquiet).mono ?_
  intro approval t hallowed
  cases approval with
  | error e => exact hallowed.not_transferred hquiet
  | ok approval =>
    refine onward_ok.mpr ((transferToGravity_ensures h hallowed.settled).mono ?_)
    intro outcome u hsends
    cases approval with
    | none =>
      obtain ⟨hsame, hcovered⟩ := hallowed.kept rfl
      obtain rfl : t = s := hallowed.eq_of_allowance hquiet hsame
      exact hsends.transferred hquiet (hcovered.imp_left Int.ofNat_le.mp)
    | some hash =>
      obtain ⟨hon, hshort, -, hleft⟩ := hallowed.approved hash rfl
      have hended : k.Transferred handler.swapData.originalFromToken t n outcome u :=
        hsends.transferred hallowed.settled (.inl (by omega))
      exact hended.after_approval hon (by omega) (by omega) hallowed.taken

inductive Session (k : TokenContract) :
    Ledger → List (Nat × Except JsError (Option String)) → Ledger → Prop where
  | nil (s : Ledger) : Session k s [] s
  | cons {s t u : Ledger} {handler : Handler} {swapRoute : String} {n : Nat}
      {outcome : Except JsError (Option String)} {trace : List Asked}
      {later : List (Nat × Except JsError (Option String))}
      (transfer : k.TransfersTo handler swapRoute n)
      (run : Runs (handler.transferEvmToIBC swapRoute) trace outcome)
      (path : k.world.Path s trace t) (rest : Session k t later u) :
      Session k s ((n, outcome) :: later) u

def asked (transfers : List (Nat × Except JsError (Option String))) : Nat :=
  (transfers.map Prod.fst).sum

def moved (transfers : List (Nat × Except JsError (Option String))) : Nat :=
  (transfers.map fun
    | (n, .ok (some _)) => n
    | _ => 0).sum

structure Accounts (k : TokenContract) (s : Ledger)
    (transfers : List (Nat × Except JsError (Option String))) (u : Ledger) : Prop where
  settled : u.sent = none
  allowed : ∀ bound, s.allowance ≤ bound → (∀ transfer ∈ transfers, transfer.1 ≤ bound) →
    u.allowance ≤ bound
  taken : s.taken + moved transfers ≤ u.taken ∧ u.taken ≤ s.taken + asked transfers
  sent : (∀ transfer ∈ transfers, ∃ hash, transfer.2 = .ok (some hash)) →
    u.allowance = s.allowance - asked transfers ∧ u.taken = s.taken + asked transfers
  reliable : k.reliable = true →
    u.allowance = s.allowance - moved transfers ∧ u.taken = s.taken + moved transfers

theorem session_accounts {transfers : List (Nat × Except JsError (Option String))}
    (h : k.Session s transfers u) (hquiet : s.sent = none) : k.Accounts s transfers u := by
  induction h with
  | nil s => exact ⟨hquiet, fun _ h _ => h, ⟨le_rfl, le_rfl⟩, fun _ => ⟨rfl, rfl⟩, fun _ => ⟨rfl, rfl⟩⟩
  | @cons s t u handler swapRoute n outcome trace later transfer run path rest ih =>
    obtain ⟨hsettled, hsent, hkept, hfailed, hreliable⟩ := ensures_iff.mp
      (transferEvmToIBC_ensures transfer hquiet) trace outcome t run path
    obtain ⟨hquiet', hallowed, htaken, hall, hr⟩ := ih hsettled
    have hasked : asked ((n, outcome) :: later) = n + asked later := List.sum_cons
    rcases outcome with e | _ | hash
    · obtain ⟨hle, htook⟩ := hfailed e rfl
      have hmoved : moved ((n, .error e) :: later) = moved later := by simp [moved]
      refine ⟨hquiet', fun bound hs hbound => ?_, by omega, fun hsuccess => ?_, fun hrel => ?_⟩
      · obtain ⟨hn, hlater⟩ := List.forall_mem_cons.mp hbound
        exact hallowed bound (by omega) hlater
      · obtain ⟨hash, hcontra⟩ := (List.forall_mem_cons.mp hsuccess).1
        cases hcontra
      · obtain ⟨-, -, -, rfl⟩ := hreliable hrel e rfl
        rw [hmoved]
        exact hr hrel
    · obtain ⟨-, rfl⟩ := hkept rfl
      have hmoved : moved ((n, .ok none) :: later) = moved later := by simp [moved]
      refine ⟨hquiet', fun bound hs hbound => ?_, by omega, fun hsuccess => ?_, fun hrel => ?_⟩
      · exact hallowed bound hs (List.forall_mem_cons.mp hbound).2
      · obtain ⟨hash, hcontra⟩ := (List.forall_mem_cons.mp hsuccess).1
        cases hcontra
      · rw [hmoved]
        exact hr hrel
    · obtain ⟨hleft, htook⟩ := hsent hash rfl
      have hmoved : moved ((n, .ok (some hash)) :: later) = n + moved later := by simp [moved]
      refine ⟨hquiet', fun bound hs hbound => ?_, by omega, fun hsuccess => ?_, fun hrel => ?_⟩
      · exact hallowed bound (by omega) (List.forall_mem_cons.mp hbound).2
      · have := hall (List.forall_mem_cons.mp hsuccess).2
        omega
      · have := hr hrel
        omega

theorem Session.simulated {later : List (Nat × Except JsError (Option String))}
    {outcome : Except JsError (Option String)} (transfer : k.TransfersTo handler swapRoute n)
    (hrun : ((handler.transferEvmToIBC swapRoute).simulate k.respond s).2 = (outcome, t))
    (hlater : k.Session t later u) : k.Session s ((n, outcome) :: later) u := by
  have hsimulated := simulate_runs k.respond_step (handler.transferEvmToIBC swapRoute) s
  rw [hrun] at hsimulated
  exact .cons transfer hsimulated.1 hsimulated.2 hlater

end TokenContract

section Bsc

theorem tether_transfers (units : Int) {n : Nat} (h : toAmount (.finite ⟨units, 0⟩) 6 = .ok n) :
    (bridgeOf "0xusdt").TransfersTo (tetherHandler "0x38" "0xusdt" units) "channel-1/orai1" n where
  wallet := rfl
  evm := (by decide +kernel : isTron "0x38" = false)
  token := rfl
  contract := by decide
  gravity := rfl
  owner := rfl
  owned := by decide
  amount := h
  route := by decide

-- What is left of a larger allowance stops the next transfer that it does not cover.
theorem tether_session_accounts :
    (bridgeOf "0xusdt").Accounts ⟨4000000, 0, none⟩
      [(3000000, .ok (some "0x")), (5000000, .error .typeError), (1000000, .ok (some "0x"))]
      ⟨0, 4000000, none⟩ :=
  TokenContract.session_accounts
    (.simulated (t := ⟨1000000, 3000000, none⟩) (tether_transfers 3 (by decide +kernel))
      (by decide +kernel)
      (.simulated (t := ⟨1000000, 3000000, none⟩) (tether_transfers 5 (by decide +kernel))
        (by decide +kernel)
        (.simulated (tether_transfers 1 (by decide +kernel)) (by decide +kernel) (.nil _))))
    rfl

end Bsc

end OraidexSdk.UniversalSwap
