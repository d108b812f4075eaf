import Mathlib.Data.List.Perm.Basic
import PolicyScan.Proofs.Json.Canonical

/-!
# Values with their fields put in order

What is read back from the text of a value is the value with the fields of each
object put in order (`ordered`).  Fields with different names are only permuted
(`insertFields_perm`), so every name finds what it found before (`get?_ofFields`).
-/

namespace PolicyScan.Json

/-! ## Objects of fields with different names -/

section

variable {key : String} {value : Json} {fields sofar : List (String × Json)}

theorem insertField_perm (newKey : key ∉ fields.map Prod.fst) :
    (insertField key value fields).Perm ((key, value) :: fields) := by
  induction fields with
  | nil => exact .refl _
  | cons field rest ih =>
      rcases field with ⟨k, v⟩
      rw [List.map_cons, List.mem_cons, not_or] at newKey
      rw [insertField]
      split
      · exact .refl _
      · rw [if_neg newKey.1]
        exact ((ih newKey.2).cons (k, v)).trans (.swap (key, value) (k, v) rest)

theorem insertFields_perm (different : ((sofar ++ fields).map Prod.fst).Nodup) :
    (insertFields sofar fields).Perm (sofar ++ fields) := by
  induction fields generalizing sofar with
  | nil => rw [List.append_nil]; exact .refl _
  | cons field rest ih =>
      rcases field with ⟨k, v⟩
      have moved : (sofar ++ (k, v) :: rest).Perm ((k, v) :: sofar ++ rest) := List.perm_middle
      rw [(moved.map Prod.fst).nodup_iff, List.cons_append, List.map_cons,
        List.nodup_cons] at different
      have newKey : k ∉ sofar.map Prod.fst := by
        intro member
        exact different.1 (by rw [List.map_append]; exact List.mem_append_left _ member)
      have inserted : (insertField k v sofar).Perm ((k, v) :: sofar) := insertField_perm newKey
      have together := inserted.append_right rest
      rw [insertFields_cons]
      refine (ih ?_).trans (together.trans moved.symm)
      rw [(together.map Prod.fst).nodup_iff, List.cons_append, List.map_cons, List.nodup_cons]
      exact different

theorem lookup_cons_ite (name : String) :
    ((key, value) :: fields).lookup name =
      if name = key then some value else fields.lookup name := by
  rw [List.lookup_cons]
  by_cases found : name = key
  · rw [if_pos found, beq_iff_eq.mpr found]
  · rw [if_neg found, beq_false_of_ne found]

theorem lookup_insertField (name : String) :
    (insertField key value fields).lookup name =
      if name = key then some value else fields.lookup name := by
  induction fields with
  | nil => rw [insertField, lookup_cons_ite]
  | cons field rest ih =>
      rcases field with ⟨k, v⟩
      rw [insertField]
      split
      · rw [lookup_cons_ite]
      · split
        · next same =>
            rw [← same, lookup_cons_ite, lookup_cons_ite]
            split <;> rfl
        · next different =>
            rw [lookup_cons_ite, ih, lookup_cons_ite]
            split
            · next found => rw [found, if_neg (Ne.symm different)]
            · rfl

/-- Of fields with different names the object has the value of each. -/
theorem get?_ofFields (different : (fields.map Prod.fst).Nodup) (name : String) :
    (ofFields fields).get? name = fields.lookup name := by
  have onTop {sofar : List (String × Json)} :
      (insertFields sofar fields).lookup name = (fields.lookup name).or (sofar.lookup name) := by
    induction fields generalizing sofar with
    | nil => rfl
    | cons field rest ih =>
        rcases field with ⟨k, v⟩
        rw [List.map_cons, List.nodup_cons] at different
        rw [insertFields_cons, ih different.2, lookup_insertField, lookup_cons_ite]
        split
        · next found =>
            have nowhere : rest.lookup name = none := by
              rw [List.lookup_eq_none_iff]
              intro field member
              rw [bne_iff_ne]
              intro same
              exact different.1 (List.mem_map.mpr ⟨field, member, same.symm.trans found⟩)
            rw [nowhere]
            rfl
        · rfl
  rw [ofFields_eq, get?, onTop]
  simp

end

/-! ## All objects of a value -/

mutual

/-- The value with the fields of each object in order, the last one of a name
winning. -/
def ordered : Json → Json
  | .arr items => .arr (orderedItems items)
  | .obj fields => .ofFields (orderedFields fields)
  | value => value

/-- The items, each with its fields in order. -/
def orderedItems : List Json → List Json
  | [] => []
  | item :: rest => item.ordered :: orderedItems rest

/-- The fields where they are, each value with its fields in order. -/
def orderedFields : List (String × Json) → List (String × Json)
  | [] => []
  | (key, value) :: rest => (key, value.ordered) :: orderedFields rest

end

theorem orderedItems_eq (items : List Json) : orderedItems items = items.map ordered := by
  induction items with
  | nil => rfl
  | cons item rest ih => rw [orderedItems, ih, List.map_cons]

theorem ordered_arr_map {α : Type} (f : α → Json) (l : List α) :
    (arr (l.map f)).ordered = .arr (l.map fun x => (f x).ordered) := by
  rw [ordered, orderedItems_eq, List.map_map]
  rfl

theorem orderedFields_eq (fields : List (String × Json)) :
    orderedFields fields = fields.map fun field => (field.1, field.2.ordered) := by
  induction fields with
  | nil => rfl
  | cons field rest ih => rw [orderedFields, ih, List.map_cons]

theorem lookup_orderedFields (fields : List (String × Json)) (name : String) :
    (orderedFields fields).lookup name = (fields.lookup name).map ordered := by
  induction fields with
  | nil => rfl
  | cons field rest ih =>
      rcases field with ⟨k, v⟩
      rw [orderedFields, List.lookup_cons, List.lookup_cons, ih]
      cases name == k <;> rfl

/-- Of fields with different names the object has, in order, the value of each. -/
theorem get?_ordered {fields : List (String × Json)} (different : (fields.map Prod.fst).Nodup)
    (name : String) :
    (ordered (.obj fields)).get? name = (fields.lookup name).map ordered := by
  have keys : (orderedFields fields).map Prod.fst = fields.map Prod.fst := by
    rw [orderedFields_eq, List.map_map]
    rfl
  rw [ordered, get?_ofFields (by rw [keys]; exact different), lookup_orderedFields]

theorem ordered_int (n : Int) : (int n).ordered = int n := by
  rw [int]
  cases Number.ofInt? n <;> rfl

end PolicyScan.Json
