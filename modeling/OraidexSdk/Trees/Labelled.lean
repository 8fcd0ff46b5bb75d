import Mathlib.Data.List.Basic

inductive LabelledTree (K L : Type) where
  | leaf (label : L)
  | array (elements : List (LabelledTree K L))
  | object (fields : List (K × LabelledTree K L))

namespace LabelledTree

variable {K L M : Type}

@[induction_eliminator]
theorem induction {P : LabelledTree K L → Prop} (leaf : ∀ label, P (.leaf label))
    (array : ∀ elements, (∀ element ∈ elements, P element) → P (.array elements))
    (object : ∀ fields, (∀ field ∈ fields, P field.2) → P (.object fields)) (t : LabelledTree K L) :
    P t := by
  refine @LabelledTree.rec K L P (fun elements => ∀ element ∈ elements, P element)
    (fun fields => ∀ field ∈ fields, P field.2) (fun field => P field.2)
    leaf array object ?_ ?_ ?_ ?_ ?_ t
  · exact List.forall_mem_nil _
  · exact fun element elements hhead htail => List.forall_mem_cons.mpr ⟨hhead, htail⟩
  · exact List.forall_mem_nil _
  · exact fun field fields hhead htail => List.forall_mem_cons.mpr ⟨hhead, htail⟩
  · exact fun key element h => h

section Definitions

variable (f : L → M) (keep : K → Bool)

-- New labels at the leaves, and the fields of the kept keys only.
mutual

def rebuild : LabelledTree K L → LabelledTree K M
  | leaf label => leaf (f label)
  | array elements => array (rebuildElements elements)
  | object fields => object (rebuildFields fields)

def rebuildElements : List (LabelledTree K L) → List (LabelledTree K M)
  | [] => []
  | element :: elements => rebuild element :: rebuildElements elements

def rebuildFields : List (K × LabelledTree K L) → List (K × LabelledTree K M)
  | [] => []
  | (key, element) :: fields =>
    if keep key then (key, rebuild element) :: rebuildFields fields else rebuildFields fields

end

def map (t : LabelledTree K L) : LabelledTree K M := rebuild f (fun _ => true) t

mutual

def leaves : LabelledTree K L → List L
  | leaf label => [label]
  | array elements => elementLeaves elements
  | object fields => fieldLeaves fields

def elementLeaves : List (LabelledTree K L) → List L
  | [] => []
  | element :: elements => element.leaves ++ elementLeaves elements

def fieldLeaves : List (K × LabelledTree K L) → List L
  | [] => []
  | (_, element) :: fields => element.leaves ++ fieldLeaves fields

end

mutual

def keys : LabelledTree K L → List K
  | leaf _ => []
  | array elements => elementKeys elements
  | object fields => fieldKeys fields

def elementKeys : List (LabelledTree K L) → List K
  | [] => []
  | element :: elements => element.keys ++ elementKeys elements

def fieldKeys : List (K × LabelledTree K L) → List K
  | [] => []
  | (key, element) :: fields => key :: element.keys ++ fieldKeys fields

end

end Definitions

section Equations

variable (f : L → M) (keep : K → Bool)

theorem rebuildElements_eq (elements : List (LabelledTree K L)) :
    rebuildElements f keep elements = elements.map (rebuild f keep) := by
  induction elements with
  | nil => simp [rebuildElements]
  | cons element elements ih => simp [rebuildElements, ih]

theorem rebuildFields_eq (fields : List (K × LabelledTree K L)) :
    rebuildFields f keep fields =
      (fields.filter (keep ·.1)).map fun field => (field.1, rebuild f keep field.2) := by
  induction fields with
  | nil => simp [rebuildFields]
  | cons field fields ih =>
    obtain ⟨key, element⟩ := field
    cases hkeep : keep key <;> simp [rebuildFields, hkeep, ih]

theorem elementLeaves_eq (elements : List (LabelledTree K L)) :
    elementLeaves elements = elements.flatMap leaves := by
  induction elements with
  | nil => simp [elementLeaves]
  | cons element elements ih => simp [elementLeaves, ih]

theorem fieldLeaves_eq (fields : List (K × LabelledTree K L)) :
    fieldLeaves fields = fields.flatMap fun field => field.2.leaves := by
  induction fields with
  | nil => simp [fieldLeaves]
  | cons field fields ih => simp [fieldLeaves, ih]

theorem elementKeys_eq (elements : List (LabelledTree K L)) :
    elementKeys elements = elements.flatMap keys := by
  induction elements with
  | nil => simp [elementKeys]
  | cons element elements ih => simp [elementKeys, ih]

theorem fieldKeys_eq (fields : List (K × LabelledTree K L)) :
    fieldKeys fields = fields.flatMap fun field => field.1 :: field.2.keys := by
  induction fields with
  | nil => simp [fieldKeys]
  | cons field fields ih => simp [fieldKeys, ih]

end Equations

theorem filter_map_eq_iff {α β : Type} {p : α → Bool} {g h : α → β} {xs : List α} :
    (xs.filter p).map g = xs.map h ↔ ∀ x ∈ xs, p x = true ∧ g x = h x := by
  constructor
  · intro heq
    have hlength := congrArg List.length heq
    rw [List.length_map, List.length_map, List.length_filter_eq_length_iff] at hlength
    rw [List.filter_eq_self.mpr hlength, List.map_inj_left] at heq
    exact fun x hx => ⟨hlength x hx, heq x hx⟩
  · intro hall
    rw [List.filter_eq_self.mpr fun x hx => (hall x hx).1]
    exact List.map_congr_left fun x hx => (hall x hx).2

theorem rebuild_eq_map_iff {f g : L → M} {keep : K → Bool} (t : LabelledTree K L) :
    rebuild f keep t = map g t ↔
      (∀ label ∈ t.leaves, f label = g label) ∧ ∀ key ∈ t.keys, keep key = true := by
  induction t with
  | leaf label => simp [map, rebuild, leaves, keys]
  | array elements ih =>
    simp only [map, rebuild, leaves, keys, rebuildElements_eq, elementLeaves_eq, elementKeys_eq,
      LabelledTree.array.injEq, List.map_inj_left, List.mem_flatMap]
    constructor
    · intro hall
      have hparts := fun element helement => (ih element helement).mp (hall element helement)
      constructor
      · rintro label ⟨element, helement, hlabel⟩
        exact (hparts element helement).1 label hlabel
      · rintro key ⟨element, helement, hkey⟩
        exact (hparts element helement).2 key hkey
    · rintro ⟨hleaves, hkeys⟩ element helement
      refine (ih element helement).mpr ⟨fun label hlabel => ?_, fun key hkey => ?_⟩
      · exact hleaves label ⟨element, helement, hlabel⟩
      · exact hkeys key ⟨element, helement, hkey⟩
  | object fields ih =>
    have hall : fields.filter (fun _ : K × LabelledTree K L => true) = fields :=
      List.filter_eq_self.mpr fun _ _ => rfl
    simp only [map, rebuild, leaves, keys, rebuildFields_eq, fieldLeaves_eq, fieldKeys_eq, hall,
      LabelledTree.object.injEq, filter_map_eq_iff, Prod.mk.injEq, true_and, List.mem_flatMap,
      List.mem_cons]
    constructor
    · intro hparts
      have hbelow := fun field hfield => (ih field hfield).mp (hparts field hfield).2
      constructor
      · rintro label ⟨field, hfield, hlabel⟩
        exact (hbelow field hfield).1 label hlabel
      · rintro key ⟨field, hfield, rfl | hkey⟩
        · exact (hparts field hfield).1
        · exact (hbelow field hfield).2 key hkey
    · rintro ⟨hleaves, hkeys⟩ field hfield
      refine ⟨hkeys _ ⟨field, hfield, .inl rfl⟩, (ih field hfield).mpr ⟨?_, ?_⟩⟩
      · exact fun label hlabel => hleaves label ⟨field, hfield, hlabel⟩
      · exact fun key hkey => hkeys key ⟨field, hfield, .inr hkey⟩

end LabelledTree
