import Mathlib.Data.Finset.Card
import Mathlib.Order.Interval.Finset.Nat
import OraidexSdk.Ordered.Keyed

namespace Stride
open Keyed

-- for (let i = 0; i < bound; i += stride)
def steps (bound stride : Nat) : List Nat :=
  List.range' 0 ((bound + stride - 1) / stride) stride

theorem steps_eq_map (bound stride : Nat) :
    steps bound stride = (List.range ((bound + stride - 1) / stride)).map (stride * ·) := by
  unfold steps
  induction (bound + stride - 1) / stride with
  | zero => rfl
  | succ m ih => rw [List.range'_concat, ih, List.range_succ, List.map_append, Nat.zero_add]; rfl

example : steps 250 100 = [0, 100, 200] := by decide

section Blocks

variable {ids : List Nat} {a b : Nat}

def above (ids : List Nat) (a : Nat) : List Nat := ids.filter (a < ·)

def block (ids : List Nat) (a b : Nat) : List Nat := ids.filter fun id => a < id && id ≤ b

theorem mem_above {id : Nat} : id ∈ above ids a ↔ id ∈ ids ∧ a < id := by
  rw [above, List.mem_filter, decide_eq_true_eq]

theorem mem_block {id : Nat} : id ∈ block ids a b ↔ id ∈ ids ∧ a < id ∧ id ≤ b := by
  rw [block, List.mem_filter, Bool.and_eq_true_iff, decide_eq_true_eq, decide_eq_true_eq]

theorem block_subset_Ioc (ids : List Nat) (a b : Nat) :
    (block ids a b).toFinset ⊆ Finset.Ioc a b := by
  intro id hid
  exact Finset.mem_Ioc.mpr (mem_block.mp (List.mem_toFinset.mp hid)).2

variable (hascending : ids.Pairwise (· < ·))
include hascending

theorem above_eq_append (hab : a ≤ b) : above ids a = block ids a b ++ above ids b := by
  have hleft : Ascending (fun id => id) (above ids a) := hascending.filter _
  have hright : Ascending (fun id => id) (block ids a b ++ above ids b) := by
    refine List.pairwise_append.mpr ⟨hascending.filter _, hascending.filter _, ?_⟩
    intro id hid other hother
    exact (mem_block.mp hid).2.2.trans_lt (mem_above.mp hother).2
  have hmem : ∀ id, id ∈ above ids a ↔ id ∈ block ids a b ++ above ids b := by
    intro id
    rw [List.mem_append, mem_block, mem_above, mem_above]
    constructor
    · rintro ⟨hid, ha⟩
      exact (le_or_gt id b).imp (fun hb => ⟨hid, ha, hb⟩) fun hb => ⟨hid, hb⟩
    · rintro (⟨hid, ha, -⟩ | ⟨hid, hb⟩)
      · exact ⟨hid, ha⟩
      · exact ⟨hid, hab.trans_lt hb⟩
  exact hleft.eq_of_mem_iff hright hmem

theorem card_block : (block ids a b).toFinset.card = (block ids a b).length :=
  List.toFinset_card_of_nodup (hascending.nodup.filter _)

theorem length_block_le : (block ids a b).length ≤ b - a := by
  rw [← card_block hascending, ← Nat.card_Ioc]
  exact Finset.card_le_card (block_subset_Ioc ids a b)

theorem length_block_eq_iff :
    (block ids a b).length = b - a ↔ ∀ id, a < id → id ≤ b → id ∈ ids := by
  rw [← card_block hascending, ← Nat.card_Ioc]
  constructor
  · intro hcard id ha hb
    have heq := Finset.eq_of_subset_of_card_le (block_subset_Ioc ids a b) hcard.ge
    have hmem : id ∈ (block ids a b).toFinset := heq ▸ Finset.mem_Ioc.mpr ⟨ha, hb⟩
    exact (mem_block.mp (List.mem_toFinset.mp hmem)).1
  · intro hall
    refine congrArg Finset.card ((block_subset_Ioc ids a b).antisymm fun id hid => ?_)
    obtain ⟨ha, hb⟩ := Finset.mem_Ioc.mp hid
    exact List.mem_toFinset.mpr (mem_block.mpr ⟨hall id ha hb, ha, hb⟩)

end Blocks

section Pages

def page (ids : List Nat) (stride j : Nat) : List Nat := (above ids (stride * j)).take stride

def pages (ids : List Nat) (stride m : Nat) : List Nat :=
  (List.range m).flatMap (page ids stride)

structure Dense (ids : List Nat) (stride m : Nat) : Prop where
  positive : 0 ∉ ids
  -- Under an id that a later page holds there is no gap in the earlier pages.
  full : ∀ j, j + 1 < m → above ids (stride * (j + 1)) ≠ [] →
    ∀ id, stride * j < id → id ≤ stride * (j + 1) → id ∈ ids
  last : (above ids (stride * (m - 1))).length ≤ stride

variable {ids : List Nat} {stride : Nat} (hascending : ids.Pairwise (· < ·))
include hascending

theorem above_stride (j : Nat) :
    above ids (stride * j) =
      block ids (stride * j) (stride * (j + 1)) ++ above ids (stride * (j + 1)) :=
  above_eq_append hascending (Nat.mul_le_mul_left stride (Nat.le_succ j))

theorem length_block_stride (j : Nat) :
    (block ids (stride * j) (stride * (j + 1))).length ≤ stride := by
  refine (length_block_le hascending).trans ?_
  rw [Nat.mul_succ]
  omega

theorem page_append_above {j : Nat}
    (hfull : above ids (stride * (j + 1)) ≠ [] →
      ∀ id, stride * j < id → id ≤ stride * (j + 1) → id ∈ ids) :
    page ids stride j ++ above ids (stride * (j + 1)) = above ids (stride * j) := by
  have hblock : (block ids (stride * j) (stride * (j + 1))).length ≤ stride :=
    length_block_stride hascending j
  rw [page, above_stride hascending j]
  by_cases hnext : above ids (stride * (j + 1)) = []
  · rw [hnext, List.append_nil, List.append_nil, List.take_of_length_le hblock]
  · have hlength := (length_block_eq_iff hascending).mpr (hfull hnext)
    have hstride : stride * (j + 1) - stride * j = stride := by
      rw [Nat.mul_succ]
      omega
    rw [hstride] at hlength
    rw [List.take_left' hlength]

theorem pages_append_above {m : Nat}
    (hfull : ∀ j, j < m → above ids (stride * (j + 1)) ≠ [] →
      ∀ id, stride * j < id → id ≤ stride * (j + 1) → id ∈ ids) :
    pages ids stride m ++ above ids (stride * m) = above ids 0 := by
  induction m with
  | zero => rfl
  | succ m ih =>
    rw [pages, List.range_succ, List.flatMap_append, List.flatMap_singleton, List.append_assoc,
      page_append_above hascending (hfull m (Nat.lt_succ_self m))]
    exact ih fun j hj => hfull j (Nat.lt_succ_of_lt hj)

theorem pages_succ_of_full {m : Nat}
    (hfull : ∀ j, j < m → above ids (stride * (j + 1)) ≠ [] →
      ∀ id, stride * j < id → id ≤ stride * (j + 1) → id ∈ ids) :
    pages ids stride (m + 1) ++ (above ids (stride * m)).drop stride = above ids 0 := by
  rw [pages, List.range_succ, List.flatMap_append, List.flatMap_singleton, List.append_assoc, page,
    List.take_append_drop]
  exact pages_append_above hascending hfull

omit hascending in
theorem above_zero (hpositive : 0 ∉ ids) : above ids 0 = ids :=
  List.filter_eq_self.mpr fun _ hid =>
    decide_eq_true (Nat.pos_of_ne_zero fun hzero => hpositive (hzero ▸ hid))

omit hascending in
theorem zero_not_mem_pages (ids : List Nat) (stride m : Nat) : 0 ∉ pages ids stride m := by
  intro hzero
  obtain ⟨j, -, hpage⟩ := List.mem_flatMap.mp hzero
  exact absurd (mem_above.mp (List.mem_of_mem_take hpage)).2 (Nat.not_lt_zero _)

theorem mem_page_of_gap {j next : Nat} {rest : List Nat}
    (hnext : above ids (stride * (j + 1)) = next :: rest)
    (hgap : ¬ ∀ id, stride * j < id → id ≤ stride * (j + 1) → id ∈ ids) :
    next ∈ page ids stride j := by
  have hshort : (block ids (stride * j) (stride * (j + 1))).length < stride := by
    refine lt_of_le_of_ne (length_block_stride hascending j) fun heq => ?_
    have hstride : stride * (j + 1) - stride * j = stride := by
      rw [Nat.mul_succ]
      omega
    exact hgap ((length_block_eq_iff hascending).mp (heq.trans hstride.symm))
  obtain ⟨n, hn⟩ := Nat.exists_eq_add_of_lt hshort
  rw [page, above_stride hascending j, hnext, List.take_append]
  refine List.mem_append_right _ ?_
  rw [show stride - (block ids (stride * j) (stride * (j + 1))).length = n + 1 by omega,
    List.take_succ_cons]
  exact List.mem_cons_self

theorem full_of_nodup {m : Nat} (hnodup : (pages ids stride m).Nodup) (hstride : 0 < stride)
    {j : Nat} (hj : j + 1 < m) (hnext : above ids (stride * (j + 1)) ≠ []) :
    ∀ id, stride * j < id → id ≤ stride * (j + 1) → id ∈ ids := by
  obtain ⟨id, rest, hcons⟩ := List.exists_cons_of_ne_nil hnext
  by_contra hgap
  have hdisjoint := List.pairwise_iff_getElem.mp (List.nodup_flatMap.mp hnodup).2 j (j + 1)
    (by rw [List.length_range]; omega) (by rw [List.length_range]; omega) (Nat.lt_succ_self j)
  rw [List.getElem_range, List.getElem_range] at hdisjoint
  refine hdisjoint (mem_page_of_gap hascending hcons hgap) ?_
  obtain ⟨n, rfl⟩ := Nat.exists_eq_succ_of_ne_zero hstride.ne'
  rw [page, hcons, List.take_succ_cons]
  exact List.mem_cons_self

theorem pages_perm_iff {m : Nat} (hstride : 0 < stride) :
    (pages ids stride (m + 1)).Perm ids ↔ Dense ids stride (m + 1) := by
  constructor
  · intro hperm
    have hpositive : 0 ∉ ids := fun hzero =>
      zero_not_mem_pages ids stride (m + 1) (hperm.mem_iff.mpr hzero)
    have hnodup : (pages ids stride (m + 1)).Nodup := hperm.nodup_iff.mpr hascending.nodup
    have hfull : ∀ j, j + 1 < m + 1 → above ids (stride * (j + 1)) ≠ [] →
        ∀ id, stride * j < id → id ≤ stride * (j + 1) → id ∈ ids :=
      fun j hj hnext => full_of_nodup hascending hnodup hstride hj hnext
    refine ⟨hpositive, hfull, ?_⟩
    have hlength := congrArg List.length
      (pages_succ_of_full hascending fun j hj => hfull j (Nat.succ_lt_succ hj))
    rw [above_zero hpositive, List.length_append, hperm.length_eq, List.length_drop] at hlength
    rw [Nat.add_sub_cancel]
    omega
  · intro hdense
    have hpages := pages_succ_of_full hascending fun j hj => hdense.full j (Nat.succ_lt_succ hj)
    have hlast := hdense.last
    rw [Nat.add_sub_cancel] at hlast
    rw [List.drop_of_length_le hlast, List.append_nil, above_zero hdense.positive] at hpages
    rw [hpages]

end Pages

end Stride
