import Mathlib.Data.List.Basic
import PolicyScan.Json.Basic

/-!
# Objects with sorted keys

`insertField` keeps the keys of an object sorted and adds no value but its own,
so what holds of every value that goes into an object holds of every value in
it.  Fields that are sorted already make up their object as they are.
-/

namespace PolicyScan.Json

/-- The keys of the fields are strictly increasing. -/
def SortedKeys (fields : List (String × Json)) : Prop := (fields.map Prod.fst).Pairwise (· < ·)

section Fields

variable {key : String} {value : Json} {fields : List (String × Json)}

theorem mem_insertField {field : String × Json} (member : field ∈ insertField key value fields) :
    field = (key, value) ∨ field ∈ fields := by
  induction fields with
  | nil => exact .inl (List.mem_singleton.mp member)
  | cons other rest ih =>
      rcases other with ⟨k, v⟩
      rw [insertField] at member
      split at member
      · exact List.mem_cons.mp member
      · split at member
        · rcases List.mem_cons.mp member with equal | member
          · exact .inl equal
          · exact .inr (List.mem_cons_of_mem _ member)
        · rcases List.mem_cons.mp member with rfl | member
          · exact .inr List.mem_cons_self
          · exact (ih member).imp_right (List.mem_cons_of_mem _)

theorem sortedKeys_nil : SortedKeys [] := .nil

theorem sortedKeys_cons_iff {k : String} {v : Json} :
    SortedKeys ((k, v) :: fields) ↔ (∀ field ∈ fields, k < field.1) ∧ SortedKeys fields := by
  simp [SortedKeys]

/-- Putting a field in keeps the keys sorted. -/
theorem SortedKeys.insertField (sorted : SortedKeys fields) :
    SortedKeys (insertField key value fields) := by
  induction fields with
  | nil => exact sortedKeys_cons_iff.mpr ⟨by simp, sortedKeys_nil⟩
  | cons other rest ih =>
      rcases other with ⟨k, v⟩
      obtain ⟨below, sortedRest⟩ := sortedKeys_cons_iff.mp sorted
      rw [Json.insertField]
      split
      · rename_i before
        refine sortedKeys_cons_iff.mpr ⟨?_, sorted⟩
        intro field member
        rcases List.mem_cons.mp member with rfl | member
        · exact before
        · exact String.lt_trans before (below field member)
      · split
        · rename_i same
          exact sortedKeys_cons_iff.mpr ⟨by rw [same]; exact below, sortedRest⟩
        · rename_i notBefore different
          have behind : k < key :=
            String.not_le.mp fun le =>
              different (String.le_antisymm le (String.not_lt.mp notBefore))
          refine sortedKeys_cons_iff.mpr ⟨?_, ih sortedRest⟩
          intro field member
          rcases mem_insertField member with rfl | member
          · exact behind
          · exact below field member

/-- A field behind all others is put at the end. -/
theorem insertField_of_forall_lt (behind : ∀ field ∈ fields, field.1 < key) :
    Json.insertField key value fields = fields ++ [(key, value)] := by
  induction fields with
  | nil => rfl
  | cons other rest ih =>
      rcases other with ⟨k, v⟩
      have lt : k < key := behind (k, v) List.mem_cons_self
      have notSame : key ≠ k := fun same => String.lt_irrefl k (by rw [same] at lt; exact lt)
      rw [Json.insertField, if_neg (String.lt_asymm lt), if_neg notSame,
        ih fun field member => behind field (List.mem_cons_of_mem _ member), List.cons_append]

/-- Put fields in one after the other. -/
def insertFields (sofar fields : List (String × Json)) : List (String × Json) :=
  fields.foldl (fun acc (key, value) => Json.insertField key value acc) sofar

theorem insertFields_cons {sofar : List (String × Json)} :
    insertFields sofar ((key, value) :: fields) =
      insertFields (Json.insertField key value sofar) fields := rfl

theorem ofFields_eq (fields : List (String × Json)) :
    ofFields fields = .obj (insertFields [] fields) := rfl

theorem insertFields_of_sorted {sofar : List (String × Json)}
    (sorted : SortedKeys (sofar ++ fields)) : insertFields sofar fields = sofar ++ fields := by
  induction fields generalizing sofar with
  | nil => exact (List.append_nil sofar).symm
  | cons field rest ih =>
      rcases field with ⟨k, v⟩
      have behind : ∀ field ∈ sofar, field.1 < k := by
        intro field member
        rw [SortedKeys, List.map_append, List.pairwise_append] at sorted
        exact sorted.2.2 field.1 (List.mem_map_of_mem member) k (by simp)
      rw [insertFields_cons, insertField_of_forall_lt behind,
        ih (by rw [List.append_assoc]; exact sorted), List.append_assoc, List.singleton_append]

/-- Sorted fields make up their object as they are. -/
theorem ofFields_of_sorted (sorted : SortedKeys fields) : ofFields fields = .obj fields := by
  rw [ofFields_eq, insertFields_of_sorted (by rw [List.nil_append]; exact sorted),
    List.nil_append]

/-- What holds of all fields put into an object holds of the fields in it. -/
theorem forall_mem_insertFields {p : Json → Prop} {sofar : List (String × Json)}
    (before : ∀ field ∈ sofar, p field.2) (all : ∀ field ∈ fields, p field.2) :
    ∀ field ∈ insertFields sofar fields, p field.2 := by
  induction fields generalizing sofar with
  | nil => exact before
  | cons field rest ih =>
      refine ih ?_ fun field member => all field (List.mem_cons_of_mem _ member)
      intro other member
      rcases mem_insertField member with rfl | member
      · exact all _ List.mem_cons_self
      · exact before other member

theorem SortedKeys.insertFields {sofar : List (String × Json)} (sorted : SortedKeys sofar) :
    SortedKeys (insertFields sofar fields) := by
  induction fields generalizing sofar with
  | nil => exact sorted
  | cons field rest ih => exact ih sorted.insertField

theorem mem_keys_insertField {k : String} :
    k ∈ (insertField key value fields).map Prod.fst ↔ k = key ∨ k ∈ fields.map Prod.fst := by
  induction fields with
  | nil => simp [insertField]
  | cons field rest ih =>
      rcases field with ⟨other, v⟩
      rw [insertField]
      split
      · rw [List.map_cons, List.mem_cons]
      · split
        · rename_i same
          rw [same]
          simp
        · rw [List.map_cons, List.mem_cons, ih, List.map_cons, List.mem_cons]
          exact or_left_comm

theorem mem_keys_insertFields {k : String} {sofar : List (String × Json)} :
    k ∈ (insertFields sofar fields).map Prod.fst ↔
      k ∈ sofar.map Prod.fst ∨ k ∈ fields.map Prod.fst := by
  induction fields generalizing sofar with
  | nil => simp [insertFields]
  | cons field rest ih =>
      rcases field with ⟨other, v⟩
      rw [insertFields_cons, ih, mem_keys_insertField, List.map_cons, List.mem_cons]
      exact (or_congr_left or_comm).trans or_assoc

/-- The object has the fields put into it. -/
theorem isSome_get?_ofFields {k : String} :
    ((ofFields fields).get? k).isSome ↔ k ∈ fields.map Prod.fst := by
  have keys : k ∈ (insertFields [] fields).map Prod.fst ↔ _ := mem_keys_insertFields
  rw [List.map_nil, or_iff_right List.not_mem_nil, List.mem_map] at keys
  rw [ofFields_eq, get?, List.lookup_isSome_iff, ← keys]
  refine exists_congr fun field => and_congr_right fun _ => ?_
  rw [beq_iff_eq, eq_comm]

end Fields

/-! ## Predicates of values -/

mutual

/-- Every number of the value is a whole one. -/
def AllInts : Json → Prop
  | .num n => ∃ value inRange, n = .int value inRange
  | .arr items => AllIntsItems items
  | .obj fields => AllIntsFields fields
  | _ => True

/-- Every number of the items is a whole one. -/
def AllIntsItems : List Json → Prop
  | [] => True
  | item :: rest => AllInts item ∧ AllIntsItems rest

/-- Every number of the fields' values is a whole one. -/
def AllIntsFields : List (String × Json) → Prop
  | [] => True
  | (_, value) :: rest => AllInts value ∧ AllIntsFields rest

end

theorem allIntsItems_iff {items : List Json} :
    AllIntsItems items ↔ ∀ item ∈ items, AllInts item := by
  induction items with
  | nil => simp [AllIntsItems]
  | cons item rest ih => simp [AllIntsItems, ih]

theorem allIntsFields_iff {fields : List (String × Json)} :
    AllIntsFields fields ↔ ∀ field ∈ fields, AllInts field.2 := by
  induction fields with
  | nil => simp [AllIntsFields]
  | cons field rest ih => simp [AllIntsFields, ih]

theorem canonicalItems_iff {items : List Json} :
    CanonicalItems items ↔ ∀ item ∈ items, Canonical item := by
  induction items with
  | nil => simp [CanonicalItems]
  | cons item rest ih => simp [CanonicalItems, ih]

theorem canonicalFields_iff {fields : List (String × Json)} :
    CanonicalFields fields ↔ ∀ field ∈ fields, Canonical field.2 := by
  induction fields with
  | nil => simp [CanonicalFields]
  | cons field rest ih => simp [CanonicalFields, ih]

theorem canonical_obj_iff {fields : List (String × Json)} :
    Canonical (.obj fields) ↔ SortedKeys fields ∧ ∀ field ∈ fields, Canonical field.2 := by
  rw [Canonical, canonicalFields_iff, SortedKeys]

theorem canonical_arr_iff {items : List Json} :
    Canonical (.arr items) ↔ ∀ item ∈ items, Canonical item := by
  rw [Canonical, canonicalItems_iff]

theorem depthItems_le_iff {items : List Json} {n : Nat} :
    depthItems items ≤ n ↔ ∀ item ∈ items, depth item ≤ n := by
  induction items with
  | nil => simp [depthItems]
  | cons item rest ih => rw [depthItems, Nat.max_le, ih, List.forall_mem_cons]

theorem depthFields_le_iff {fields : List (String × Json)} {n : Nat} :
    depthFields fields ≤ n ↔ ∀ field ∈ fields, depth field.2 ≤ n := by
  induction fields with
  | nil => simp [depthFields]
  | cons field rest ih => rw [depthFields, Nat.max_le, ih, List.forall_mem_cons]

/-- The object of canonical values is canonical. -/
theorem canonical_ofFields {fields : List (String × Json)}
    (all : ∀ field ∈ fields, Canonical field.2) : Canonical (ofFields fields) := by
  rw [ofFields_eq, canonical_obj_iff]
  exact ⟨sortedKeys_nil.insertFields, forall_mem_insertFields (by simp) all⟩

end PolicyScan.Json
