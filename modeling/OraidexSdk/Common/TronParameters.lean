import OraidexSdk.Common.TronAddress
import OraidexSdk.Js.Value
import OraidexSdk.Loops.Logged

namespace OraidexSdk
open Js

inductive ParameterValue (V : Type) where
  | bigint (n : Int)
  | text (s : String)
  | other (v : V)
deriving DecidableEq

structure Parameter (V : Type) where
  type : String
  value : ParameterValue V
deriving DecidableEq

structure TriggerOptions where
  feeLimit : Option (Number ℚ)
deriving DecidableEq

structure TriggerCall (V : Type) where
  address : String
  functionSelector : String
  options : TriggerOptions
  parameters : List (Parameter V)
  issuerAddress : String
deriving DecidableEq

structure TriggerResult (T : Type) where
  result : Option Bool
  transaction : T

-- The calls on tronWeb.transactionBuilder and tronWeb.trx, and JSON.stringify of a transaction.
structure TronWeb (V T S : Type) where
  triggerSmartContract : TriggerCall V → Except JsError (TriggerResult T)
  sign : T → Except JsError S
  sendRawTransaction : S → Except JsError String
  stringify : T → String

variable {V T S : Type}

def findIndex (parameters : List (Parameter V)) (p : Parameter V → Bool) : Int :=
  match parameters.findIdx? p with
  | some i => i
  | none => -1

-- parameters[i]
def parameterAt (parameters : List (Parameter V)) (i : Int) : Option (Parameter V) :=
  if i < 0 then none else parameters[i.toNat]?

def isUint256 (param : Parameter V) : Bool := param.type = "uint256"

def ParameterValue.toText : ParameterValue V → ParameterValue V
  | .bigint n => .text (String.ofList (bigIntText n))
  | value => value

def convertFirstUint256 (parameters : List (Parameter V)) : Except JsError (List (Parameter V)) :=
  let uint256Index := findIndex parameters isUint256
  if uint256Index ≠ 0 ∧ (parameters.length : Int) > uint256Index then
    match parameterAt parameters uint256Index with
    | none => .error .typeError
    | some param =>
      .ok (parameters.set uint256Index.toNat { param with value := param.value.toText })
  else .ok parameters

section Submit

-- What arrayify throws, and String(error).
variable (ethers : Ethers) (arrayifyError : JsError) (errorText : JsError → String)

def tronIssuer (issuerAddress : String) : Except JsError String :=
  match ethToTronAddress ethers issuerAddress with
  | some tronAddress => .ok tronAddress
  | none => .error arrayifyError

def signAndSend (tronWeb : TronWeb V T S) (call : TriggerCall V) : Except JsError String := do
  let transaction ← tronWeb.triggerSmartContract call
  if transaction.result = some true then
    let signedTransaction ← tronWeb.sign transaction.transaction
    tronWeb.sendRawTransaction signedTransaction
  else
    .error (.error ("Unknown trigger error: " ++ tronWeb.stringify transaction.transaction))

def buildAndSend (tronWeb : TronWeb V T S) (address functionSelector : String)
    (options : TriggerOptions) (parameters : List (Parameter V)) (issuerAddress : String) :
    Logged (TriggerCall V) JsError String := do
  let parameters ← .lift (convertFirstUint256 parameters)
  let tronAddress ← .lift (tronIssuer ethers arrayifyError issuerAddress)
  let call : TriggerCall V :=
    ⟨address, functionSelector, ⟨some (options.feeLimit.getD (.finite 40000000))⟩, parameters,
      tronAddress⟩
  .record call
  .lift (signAndSend tronWeb call)

-- The log holds the calls of triggerSmartContract.
def submitTronSmartContract (tronWeb : Option (TronWeb V T S)) (address functionSelector : String)
    (options : Option TriggerOptions) (parameters : List (Parameter V)) (issuerAddress : String) :
    Logged (TriggerCall V) JsError String :=
  match options, tronWeb with
  | none, _ => .lift (.error (.error "options is not defined"))
  | some _, none =>
    .lift (.error (.error
      "You need to initialize tron web before calling submitTronSmartContract."))
  | some options, some tronWeb =>
    .mapError (fun error => .error (errorText error))
      (buildAndSend ethers arrayifyError tronWeb address functionSelector options parameters
        issuerAddress)

end Submit

def converted (param : Parameter V) : Parameter V :=
  { param with value := if isUint256 param then param.value.toText else param.value }

def CallsConverted (run : Logged (TriggerCall V) JsError String)
    (parameters : List (Parameter V)) : Prop :=
  run.log.map (·.parameters) = [parameters.map converted]

def Settled (param : Parameter V) : Prop := isUint256 param → ∀ n, param.value ≠ .bigint n

def FirstUint256Suffices (parameters : List (Parameter V)) : Prop :=
  ∃ before param after, parameters = before ++ param :: after ∧
    (∀ other ∈ before, isUint256 other = false) ∧ isUint256 param = true ∧
    (before = [] → Settled param) ∧ ∀ other ∈ after, Settled other

section Conversion

theorem findIndex_eq_neg_one {parameters : List (Parameter V)} {p : Parameter V → Bool}
    (h : ∀ param ∈ parameters, p param = false) : findIndex parameters p = -1 := by
  rw [findIndex, List.findIdx?_eq_none_iff.mpr h]

theorem findIndex_append {before after : List (Parameter V)} {param : Parameter V}
    {p : Parameter V → Bool} (hbefore : ∀ other ∈ before, p other = false) (hp : p param = true) :
    findIndex (before ++ param :: after) p = before.length := by
  have hfirst : (before ++ param :: after).findIdx? p = some before.length := by
    induction before with
    | nil => simp [List.findIdx?_cons, hp]
    | cons other before ih =>
      obtain ⟨hother, hrest⟩ := List.forall_mem_cons.mp hbefore
      simp [List.findIdx?_cons, hother, ih hrest]
  rw [findIndex, hfirst]

@[simp] theorem toText_eq_self_iff {value : ParameterValue V} :
    value.toText = value ↔ ∀ n, value ≠ .bigint n := by
  cases value <;> simp [ParameterValue.toText]

theorem converted_eq_self_iff {param : Parameter V} : converted param = param ↔ Settled param := by
  obtain ⟨type, value⟩ := param
  cases h : isUint256 ⟨type, value⟩ <;> simp [converted, Settled, h]

theorem map_converted_eq_self_iff {parameters : List (Parameter V)} :
    parameters.map converted = parameters ↔ ∀ param ∈ parameters, Settled param := by
  induction parameters with
  | nil => simp
  | cons param parameters ih =>
    rw [List.map_cons, List.cons.injEq, converted_eq_self_iff, ih, List.forall_mem_cons]

theorem map_converted_append {before after : List (Parameter V)} {param : Parameter V}
    (hbefore : ∀ other ∈ before, isUint256 other = false) :
    (before ++ param :: after).map converted =
      before ++ converted param :: after.map converted := by
  rw [List.map_append, List.map_cons,
    map_converted_eq_self_iff.mpr fun other hother huint =>
      absurd huint (Bool.eq_false_iff.mp (hbefore other hother))]

theorem convertFirstUint256_none {parameters : List (Parameter V)}
    (h : ∀ param ∈ parameters, isUint256 param = false) :
    convertFirstUint256 parameters = .error .typeError := by
  rw [convertFirstUint256, findIndex_eq_neg_one h, if_pos ⟨by decide, by omega⟩]
  rfl

theorem convertFirstUint256_head {param : Parameter V} (after : List (Parameter V))
    (hparam : isUint256 param = true) :
    convertFirstUint256 (param :: after) = .ok (param :: after) := by
  have hindex : findIndex (param :: after) isUint256 = 0 :=
    findIndex_append (List.forall_mem_nil _) hparam
  rw [convertFirstUint256, hindex, if_neg (fun h => h.1 rfl)]

theorem convertFirstUint256_inner {before : List (Parameter V)} {param : Parameter V}
    (after : List (Parameter V)) (hbefore : ∀ other ∈ before, isUint256 other = false)
    (hparam : isUint256 param = true) (hne : before ≠ []) :
    convertFirstUint256 (before ++ param :: after) = .ok (before ++ converted param :: after) := by
  have hlength : before.length ≠ 0 := fun h => hne (List.eq_nil_of_length_eq_zero h)
  have hguard : (before.length : Int) ≠ 0 ∧
      ((before ++ param :: after).length : Int) > before.length := by
    rw [List.length_append, List.length_cons]
    omega
  have hat : parameterAt (before ++ param :: after) before.length = some param := by
    rw [parameterAt, if_neg (by omega), Int.toNat_natCast]
    simp
  rw [convertFirstUint256, findIndex_append hbefore hparam, if_pos hguard, hat]
  simp [converted, hparam]

end Conversion

section Suffices

theorem not_firstUint256Suffices {parameters : List (Parameter V)}
    (h : ∀ param ∈ parameters, isUint256 param = false) : ¬ FirstUint256Suffices parameters := by
  rintro ⟨before, param, after, rfl, -, hparam, -⟩
  have hfalse := h param (List.mem_append_right _ List.mem_cons_self)
  rw [hparam] at hfalse
  cases hfalse

theorem firstUint256Suffices_append_iff {before after : List (Parameter V)} {param : Parameter V}
    (hbefore : ∀ other ∈ before, isUint256 other = false) (hparam : isUint256 param = true) :
    FirstUint256Suffices (before ++ param :: after) ↔
      (before = [] → Settled param) ∧ ∀ other ∈ after, Settled other := by
  constructor
  · rintro ⟨before', param', after', heq, hbefore', hparam', hsettled⟩
    have hindex : findIndex (before ++ param :: after) isUint256 = before.length :=
      findIndex_append hbefore hparam
    rw [heq, findIndex_append hbefore' hparam'] at hindex
    obtain ⟨rfl, htail⟩ := List.append_inj heq (Int.natCast_inj.mp hindex).symm
    cases htail
    exact hsettled
  · exact fun hsettled => ⟨before, param, after, rfl, hbefore, hparam, hsettled⟩

theorem convertFirstUint256_eq_iff (parameters : List (Parameter V)) :
    convertFirstUint256 parameters = .ok (parameters.map converted) ↔
      FirstUint256Suffices parameters := by
  cases hfind : parameters.find? isUint256 with
  | none =>
    have hnone : ∀ param ∈ parameters, isUint256 param = false := by
      simpa using List.find?_eq_none.mp hfind
    rw [convertFirstUint256_none hnone]
    exact iff_of_false nofun (not_firstUint256Suffices hnone)
  | some param =>
    obtain ⟨hparam, before, after, rfl, hothers⟩ := List.find?_eq_some_iff_append.mp hfind
    have hbefore : ∀ other ∈ before, isUint256 other = false := by simpa using hothers
    rw [firstUint256Suffices_append_iff hbefore hparam, map_converted_append hbefore]
    cases before with
    | nil =>
      rw [List.nil_append, List.nil_append, convertFirstUint256_head after hparam, Except.ok.injEq,
        List.cons.injEq, eq_comm (a := param), converted_eq_self_iff, eq_comm (a := after),
        map_converted_eq_self_iff]
      simp
    | cons first before =>
      rw [convertFirstUint256_inner after hbefore hparam (List.cons_ne_nil _ _), Except.ok.injEq,
        List.append_cancel_left_eq, List.cons.injEq, eq_comm (a := after),
        map_converted_eq_self_iff]
      simp

end Suffices

section Calls

variable {ethers : Ethers} {arrayifyError : JsError} {errorText : JsError → String}
variable {address functionSelector issuerAddress : String} {parameters : List (Parameter V)}

theorem log_buildAndSend_ok (tronWeb : TronWeb V T S) (options : TriggerOptions)
    {passed : List (Parameter V)} {tronAddress : String}
    (hpassed : convertFirstUint256 parameters = .ok passed)
    (haddress : ethToTronAddress ethers issuerAddress = some tronAddress) :
    (buildAndSend ethers arrayifyError tronWeb address functionSelector options parameters
      issuerAddress).log.map (·.parameters) = [passed] := by
  rw [buildAndSend, hpassed, Logged.log_lift_ok_bind, tronIssuer, haddress,
    Logged.log_lift_ok_bind, Logged.log_record_bind]
  rfl

theorem log_buildAndSend_error (tronWeb : TronWeb V T S) (options : TriggerOptions) {e : JsError}
    (hpassed : convertFirstUint256 parameters = .error e) :
    (buildAndSend ethers arrayifyError tronWeb address functionSelector options parameters
      issuerAddress).log = [] := by
  rw [buildAndSend, hpassed, Logged.log_lift_error_bind]

theorem log_buildAndSend_none (tronWeb : TronWeb V T S) (options : TriggerOptions)
    {passed : List (Parameter V)} (hpassed : convertFirstUint256 parameters = .ok passed)
    (haddress : ethToTronAddress ethers issuerAddress = none) :
    (buildAndSend ethers arrayifyError tronWeb address functionSelector options parameters
      issuerAddress).log = [] := by
  rw [buildAndSend, hpassed, Logged.log_lift_ok_bind, tronIssuer, haddress,
    Logged.log_lift_error_bind]

theorem not_callsConverted {run : Logged (TriggerCall V) JsError String} (h : run.log = []) :
    ¬ CallsConverted run parameters := by
  rw [CallsConverted, h]
  exact nofun

theorem buildAndSend_callsConverted_iff (tronWeb : TronWeb V T S) (options : TriggerOptions) :
    CallsConverted (buildAndSend ethers arrayifyError tronWeb address functionSelector options
        parameters issuerAddress) parameters ↔
      (ethToTronAddress ethers issuerAddress).isSome = true ∧ FirstUint256Suffices parameters := by
  rw [← convertFirstUint256_eq_iff]
  cases hpassed : convertFirstUint256 parameters with
  | error e =>
    exact iff_of_false (not_callsConverted (log_buildAndSend_error tronWeb options hpassed))
      fun h => nomatch h.2
  | ok passed =>
    cases haddress : ethToTronAddress ethers issuerAddress with
    | none =>
      exact iff_of_false
        (not_callsConverted (log_buildAndSend_none tronWeb options hpassed haddress))
        fun h => nomatch h.1
    | some tronAddress =>
      rw [CallsConverted, log_buildAndSend_ok tronWeb options hpassed haddress]
      simp

end Calls

theorem submitTronSmartContract_callsConverted_iff (ethers : Ethers) (arrayifyError : JsError)
    (errorText : JsError → String) (tronWeb : Option (TronWeb V T S))
    (address functionSelector : String) (options : Option TriggerOptions)
    (parameters : List (Parameter V)) (issuerAddress : String) :
    CallsConverted (submitTronSmartContract ethers arrayifyError errorText tronWeb address
        functionSelector options parameters issuerAddress) parameters ↔
      options.isSome = true ∧ tronWeb.isSome = true ∧
        (ethToTronAddress ethers issuerAddress).isSome = true ∧ FirstUint256Suffices parameters := by
  cases options with
  | none => exact iff_of_false (not_callsConverted rfl) fun h => nomatch h.1
  | some options =>
    cases tronWeb with
    | none => exact iff_of_false (not_callsConverted rfl) fun h => nomatch h.2.1
    | some tronWeb =>
      rw [submitTronSmartContract, CallsConverted, Logged.log_mapError, ← CallsConverted,
        buildAndSend_callsConverted_iff]
      simp

def acceptingTronWeb : TronWeb Unit Unit Unit where
  triggerSmartContract _ := .ok ⟨some true, ()⟩
  sign _ := .ok ()
  sendRawTransaction _ := .ok "txid"
  stringify _ := "{}"

-- parameters[-1].value is read when no parameter is a uint256.
theorem submitTronSmartContract_without_uint256 :
    ¬ CallsConverted (submitTronSmartContract ⟨fun _ => "T", fun bytes => bytes⟩ .typeError
        (fun _ => "TypeError") (some acceptingTronWeb) "T" "transfer(address)" (some ⟨none⟩)
        [⟨"address", .text "0x8f3d"⟩] "0x0000000000000000000000000000000000000001")
      [⟨"address", .text "0x8f3d"⟩] :=
  not_callsConverted rfl

end OraidexSdk
