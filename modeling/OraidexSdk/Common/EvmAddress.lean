import OraidexSdk.Common.Address

namespace OraidexSdk
open Js

def isHexDigit (c : Char) : Bool :=
  c.isDigit || ('a' ≤ c && c ≤ 'f') || ('A' ≤ c && c ≤ 'F')

-- /^[0-9a-fA-F]{40}$/
def hexAddressRegex (cs : List Char) : Bool := cs.length == 40 && cs.all isHexDigit

-- /^XE[0-9]{2}[0-9A-Za-z]{30,31}$/
def icapAddressRegex : List Char → Bool
  | 'X' :: 'E' :: a :: b :: cs =>
      a.isDigit && b.isDigit && 30 ≤ cs.length && cs.length ≤ 31 && cs.all Char.isAlphanum
  | _ => false

-- The texts that getAddress of ethers.utils reads at all.
inductive EvmForm : List Char → Prop where
  | prefixed {cs : List Char} (h : hexAddressRegex cs = true) : EvmForm ('0' :: 'x' :: cs)
  | bare {cs : List Char} (h : hexAddressRegex cs = true) : EvmForm cs
  | icap {cs : List Char} (h : icapAddressRegex cs = true) : EvmForm cs

-- What getAddress of ethers.utils is documented to do: it reads those texts only,
-- answers a checksummed 0x-address, and leaves a checksummed address as it is.
structure ChecksumsAddresses (env : Environment) : Prop where
  form : ∀ s c, env.getAddress s = some c → EvmForm s.toList
  hex : ∀ s c, env.getAddress s = some c → startsWith c "0x" = true
  again : ∀ s c, env.getAddress s = some c → env.getAddress c = some c

theorem isEthAddress_of_isAddress {env : Environment} (hlaws : ChecksumsAddresses env)
    {address : String} (h : env.isAddress address = true) : env.isEthAddress address = true := by
  obtain ⟨c, hc⟩ := Option.isSome_iff_exists.mp h
  rw [Environment.isEthAddress, hc]
  exact Option.isSome_iff_exists.mpr ⟨c, hlaws.again address c hc⟩

theorem form_of_isEthAddress {env : Environment} (hlaws : ChecksumsAddresses env) {address : String}
    (h : env.isEthAddress address = true) : EvmForm address.toList := by
  rw [Environment.isEthAddress] at h
  split at h
  · rename_i c hc
    exact hlaws.form address c hc
  · cases h

theorem tronAddressRegex_tail {cs : List Char} (h : tronAddressRegex cs = true) :
    ∃ pre post, cs = pre ++ 'T' :: post ∧ 32 ≤ post.length := by
  induction cs with
  | nil => cases h
  | cons c cs ih =>
    rw [tronAddressRegex, Bool.or_eq_true] at h
    rcases h with hhere | hlater
    · simp only [Bool.and_eq_true, beq_iff_eq, decide_eq_true_eq] at hhere
      exact ⟨[], cs, by rw [hhere.1.1, List.nil_append], hhere.1.2⟩
    · obtain ⟨pre, post, rfl, hlen⟩ := ih hlater
      exact ⟨c :: pre, post, rfl, hlen⟩

theorem hexAddress_no_T {cs : List Char} (h : hexAddressRegex cs = true) : 'T' ∉ cs := by
  intro hmem
  rw [hexAddressRegex, Bool.and_eq_true] at h
  have hT := List.all_eq_true.mp h.2 'T' hmem
  exact absurd hT (by decide)

-- T and 32 characters after it do not fit behind the two digits of an ICAP text.
theorem icapAddress_not_tron {cs : List Char} (h : icapAddressRegex cs = true) :
    tronAddressRegex cs = false := by
  rw [Bool.eq_false_iff]
  intro htron
  obtain ⟨pre, post, rfl, hlen⟩ := tronAddressRegex_tail htron
  rw [icapAddressRegex.eq_def] at h
  split at h
  · rename_i a b cs hcs
    simp only [Bool.and_eq_true, decide_eq_true_eq] at h
    have hlength := congrArg List.length hcs
    simp only [List.length_append, List.length_cons] at hlength
    have hpre : pre.length < 3 := by omega
    have hthird : a ≠ 'T' := by
      rintro rfl
      exact absurd h.1.1.1.1 (by decide)
    match pre, hpre with
    | [], _ => cases hcs
    | [_], _ => cases hcs
    | [_, _], _ =>
      simp only [List.cons_append, List.nil_append, List.cons.injEq] at hcs
      exact hthird hcs.2.2.1.symm
  · cases h

theorem EvmForm.not_tron {cs : List Char} (h : EvmForm cs) : tronAddressRegex cs = false := by
  have hno {cs : List Char} (hT : 'T' ∉ cs) : tronAddressRegex cs = false := by
    rw [Bool.eq_false_iff]
    intro htron
    obtain ⟨pre, post, rfl, -⟩ := tronAddressRegex_tail htron
    exact hT (by simp)
  cases h with
  | prefixed h =>
    refine hno fun hmem => hexAddress_no_T h ?_
    simpa using hmem
  | bare h => exact hno (hexAddress_no_T h)
  | icap h => exact icapAddress_not_tron h

theorem isEthAddress_of_tron {env : Environment} (hlaws : ChecksumsAddresses env) {address : String}
    (h : isValidTronAddress address = true) : env.isEthAddress address = false := by
  rw [Bool.eq_false_iff]
  intro heth
  rw [isValidTronAddress, (form_of_isEthAddress hlaws heth).not_tron] at h
  cases h

end OraidexSdk
