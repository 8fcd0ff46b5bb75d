import OraidexSdk.Common.NumberOperands
import OraidexSdk.Js.Shortest
import OraidexSdk.UniversalSwap.HandlerData

namespace OraidexSdk.UniversalSwap
open Js BigDecimal DigitText Script Outcome

def AFFILIATE_DECIMAL : ℚ := 10000

def floatText (x : Number ℚ) : String := String.ofList x.toText

-- Math.trunc(x.toNumber()).toString()
def truncatedText (x : BigDecimal) : String := floatText x.toNumber.rounded.trunc

def decimalLike : Option String → Except JsError DecimalLike
  | some text => .ok (.string text)
  | none => .error (.error "value is not `DecimalLike`")

-- (100 - userSlippage) / 100
def slippageShare : Option DecimalNumber → Number ℚ
  | some userSlippage =>
    ((Number.finite (100 - double userSlippage.value)).rounded.div (.finite 100)).rounded
  | none => .nan

def calculateMinReceive (simulateAverage : Option String) (fromAmount : String)
    (userSlippage : Option DecimalNumber) (decimals : Nat) : Except JsError String := do
  let average ← decimalLike simulateAverage
  let received ← contents (do
    let amount ← mul (← new average none) (.string fromAmount)
    let kept ← mul amount (.number (floatText (slippageShare userSlippage)))
    div kept (.bigint (10 ^ decimals))) emptyHeap
  return truncatedText received

-- The minimum of buildSwapMsgsFromSmartRoute.
def smartMinimumReceive (returnAmount : Option String) (userSlippage : Option DecimalNumber) :
    Except JsError String := do
  let amount ← decimalLike returnAmount
  let received ← contents (do
    mul (← new amount none) (.number (floatText (slippageShare userSlippage)))) emptyHeap
  return truncatedText received

def totalBasisPoints (affiliates : List Affiliate) : Number ℚ :=
  affiliates.foldl
    (fun acc cur => (acc.add (parseFloat cur.basisPointsFee.toList)).rounded) (.finite 0)

-- The tokenAmount of combineSwapMsgOraichain for some affiliates.
def withoutAffiliates (tokenAmount : String) (affiliates : List Affiliate) : Except JsError String := do
  let amountAffilate := ((totalBasisPoints affiliates).div (.finite AFFILIATE_DECIMAL)).rounded
  let fee := ((parseFloat tokenAmount.toList).mul amountAffilate).rounded
  let rest ← contents (do
    sub (← new (.string tokenAmount) none) (.number (floatText fee))) emptyHeap
  return truncatedText rest

-- toLocaleString("fullwide", { useGrouping: false }) of a whole number that is not negative
def fullwideText : Number ℚ → String
  | .nan => "NaN"
  | .infinity negative => if negative then "-∞" else "∞"
  | .finite x => naturalText ⌊(shortest x).value⌋₊

-- (percent * amount) / 100
def percentOf (percent : ℚ) (amount : Number ℚ) : Number ℚ :=
  (((Number.finite percent).mul amount).rounded.div (.finite 100)).rounded

-- What calculateMinimumReceive returns for the relayer's fee.
def minimumReceiveText (simulateAmount : String) (bridgeFee userSlippage : Option DecimalNumber)
    (subRelayerFee : String) : Except JsError String := do
  let amount := (number simulateAmount.toList).rounded
  let bridgeFeeAdjustment := percentOf (double (bridgeFee.getD ⟨1, 0⟩).value) amount
  let slippageAdjustment := percentOf (double (userSlippage.getD ⟨0, 0⟩).value) amount
  let minimumReceive ← contents (do
    let bridged ← sub (← new (.string simulateAmount) none) (.number (floatText bridgeFeeAdjustment))
    let slipped ← sub bridged (.number (floatText slippageAdjustment))
    sub slipped (.string subRelayerFee)) emptyHeap
  return fullwideText ((Number.finite 0).max minimumReceive.toNumber.rounded.floor)

section NotANumber

theorem parse_nan (decimals : Option Nat) : parse ['N', 'a', 'N'] decimals = .error .syntaxError := by
  have hchars : ∀ c ∈ ['N', 'a', 'N'], NumberChar c ∧ c ≠ '.' := numberChars_of_all rfl
  exact parse_word hchars List.mem_cons_self rfl (by decide) decimals

-- No arithmetic of BigDecimal takes NaN.
theorem contents_nan (f : Kernel) (value : DecimalLike) {x : Number ℚ} (hx : x = .nan) :
    ¬ ∃ result, contents (do inPlace f (← clone (← new value none)) (.number (floatText x)))
      emptyHeap = .ok result := by
  subst hx
  rintro ⟨result, hresult⟩
  rw [contents_fresh f emptyHeap value (number_not_object _)] at hresult
  obtain ⟨t, -, houtcome⟩ := bind_eq_ok.mp hresult
  have htext : (floatText .nan).toList = ['N', 'a', 'N'] := String.toList_ofList
  rw [outcome_number, htext, parse_nan] at houtcome
  cases houtcome

theorem rounded_add_nan (x y : Number ℚ) (h : x = .nan ∨ y = .nan) : (x.add y).rounded = .nan := by
  rcases h with rfl | rfl
  · rfl
  · cases x <;> rfl

theorem totalBasisPoints_nan {affiliates : List Affiliate}
    (h : ∃ affiliate ∈ affiliates, parseFloat affiliate.basisPointsFee.toList = .nan) :
    totalBasisPoints affiliates = .nan := by
  suffices hfold : ∀ acc : Number ℚ, acc = .nan ∨
      (∃ affiliate ∈ affiliates, parseFloat affiliate.basisPointsFee.toList = .nan) →
      affiliates.foldl (fun acc cur => (acc.add (parseFloat cur.basisPointsFee.toList)).rounded) acc =
        .nan from hfold _ (.inr h)
  clear h
  induction affiliates with
  | nil => exact fun acc h => h.resolve_right (by simp)
  | cons affiliate affiliates ih =>
    intro acc h
    refine ih _ ?_
    rw [List.exists_mem_cons_iff] at h
    rcases h with hacc | hfee | hrest
    · exact .inl (rounded_add_nan _ _ (.inl hacc))
    · exact .inl (rounded_add_nan _ _ (.inr hfee))
    · exact .inr hrest

theorem withoutAffiliates_unreadable (tokenAmount : String) {affiliates : List Affiliate}
    (h : ∃ affiliate ∈ affiliates, parseFloat affiliate.basisPointsFee.toList = .nan) :
    ¬ ∃ text, withoutAffiliates tokenAmount affiliates = .ok text := by
  rintro ⟨text, htext⟩
  obtain ⟨rest, hrest, -⟩ := bind_eq_ok.mp htext
  have hfee : ((parseFloat tokenAmount.toList).mul
      ((totalBasisPoints affiliates).div (.finite AFFILIATE_DECIMAL)).rounded).rounded = .nan := by
    rw [totalBasisPoints_nan h, Number.nan_div]
    exact congrArg Number.rounded (Number.mul_nan _)
  exact contents_nan subKernel _ hfee ⟨rest, hrest⟩

theorem smartMinimumReceive_none (returnAmount : Option String) :
    ¬ ∃ text, smartMinimumReceive returnAmount none = .ok text := by
  rintro ⟨text, htext⟩
  obtain ⟨amount, -, htext⟩ := bind_eq_ok.mp htext
  obtain ⟨received, hreceived, -⟩ := bind_eq_ok.mp htext
  exact contents_nan mulKernel amount rfl ⟨received, hreceived⟩

end NotANumber

end OraidexSdk.UniversalSwap
