import PolicyScan.Hcl.Body.Reader
import PolicyScan.Proofs.Json.Canonical
import PolicyScan.Proofs.Outcome

/-!
# The values of HCL texts

The value of a body is canonical: slots keep their keys sorted however
attributes and blocks meet in them.  It may be nested as deep as a block has
labels.
-/

namespace PolicyScan.Hcl

open Json (Canonical SortedKeys)

/-! ## Expressions -/

mutual

/-- The value of an expression is canonical. -/
theorem Expr.canonical_of_toJson : (e : Expr) → {v : Json} → e.toJson = .ok v → v.Canonical
  | .array items, v, done => by
      obtain ⟨values, valuesEq, rfl⟩ := map_eq_ok_iff.mp done
      exact Json.canonical_arr_iff.mpr (canonical_of_itemsToJson items valuesEq)
  | .object fields, v, done => by
      obtain ⟨values, valuesEq, rfl⟩ := map_eq_ok_iff.mp done
      exact Json.canonical_ofFields (canonical_of_fieldsToJson fields valuesEq)
  | .parens inner, v, done => inner.canonical_of_toJson done
  | .null, v, done => by
      cases done
      trivial
  | .bool _, v, done => by
      cases done
      trivial
  | .number _, v, done => by
      cases done
      trivial
  | .string _, v, done => by
      cases done
      trivial
  | .template _, v, done => by
      cases done
      trivial
  | .variable _, v, done => by
      cases done
      trivial
  | .select _ _, v, done => by
      cases done
      trivial
  | .call _ _ _, v, done => by
      cases done
      trivial
  | .conditional _ _ _, v, done => by
      cases done
      trivial
  | .unary _ _, v, done => by
      cases done
      trivial
  | .binary _ _ _, v, done => by
      cases done
      trivial
  | .forList _ _ _ _, v, done => by
      cases done
      trivial
  | .forMap _ _ _ _ _ _, v, done => by
      cases done
      trivial

/-- So are the values of items. -/
theorem canonical_of_itemsToJson : (items : List Expr) → {values : List Json} →
    itemsToJson items = .ok values → ∀ v ∈ values, v.Canonical
  | [], values, done => by
      cases done
      simp
  | item :: rest, values, done => by
      obtain ⟨first, firstEq, done⟩ := bind_eq_ok_iff.mp done
      obtain ⟨others, othersEq, done⟩ := bind_eq_ok_iff.mp done
      cases done
      intro v member
      rcases List.mem_cons.mp member with rfl | member
      · exact item.canonical_of_toJson firstEq
      · exact canonical_of_itemsToJson rest othersEq v member

/-- So are the values of fields. -/
theorem canonical_of_fieldsToJson : (fields : List (Key × Expr)) →
    {values : List (String × Json)} → fieldsToJson fields = .ok values →
      ∀ field ∈ values, field.2.Canonical
  | [], values, done => by
      cases done
      simp
  | (key, value) :: rest, values, done => by
      obtain ⟨text, -, done⟩ := bind_eq_ok_iff.mp done
      obtain ⟨first, firstEq, done⟩ := bind_eq_ok_iff.mp done
      obtain ⟨others, othersEq, done⟩ := bind_eq_ok_iff.mp done
      cases done
      intro field member
      rcases List.mem_cons.mp member with rfl | member
      · exact value.canonical_of_toJson firstEq
      · exact canonical_of_fieldsToJson rest othersEq field member

end

/-! ## Slots -/

/-- A value, if there is one, is canonical. -/
def CanonicalOutcome (outcome : Except Fault Json) : Prop := ∀ v, outcome = .ok v → v.Canonical

mutual

/-- The slot has sorted keys and canonical values only. -/
def Slot.Canonical : Slot → Prop
  | .value json => CanonicalOutcome json
  | .blocks objects => ∀ object ∈ objects, CanonicalOutcome object
  | .labels slots => (slots.map Prod.fst).Pairwise (· < ·) ∧ Slot.AllCanonical slots

/-- Every one of the slots is canonical. -/
def Slot.AllCanonical : List (String × Slot) → Prop
  | [] => True
  | (_, slot) :: rest => slot.Canonical ∧ Slot.AllCanonical rest

end

namespace Slot

theorem allCanonical_iff {slots : List (String × Slot)} :
    AllCanonical slots ↔ ∀ entry ∈ slots, entry.2.Canonical := by
  induction slots with
  | nil => simp [AllCanonical]
  | cons entry rest ih => simp [AllCanonical, ih]

/-- Slots with sorted keys that are canonical. -/
def Sorted (slots : List (String × Slot)) : Prop :=
  (slots.map Prod.fst).Pairwise (· < ·) ∧ ∀ entry ∈ slots, entry.2.Canonical

theorem sorted_nil : Sorted [] := ⟨.nil, by simp⟩

theorem canonical_labels_iff {slots : List (String × Slot)} :
    Canonical (.labels slots) ↔ Sorted slots := by
  rw [Canonical, allCanonical_iff, Sorted]

theorem sorted_cons_iff {key : String} {slot : Slot} {rest : List (String × Slot)} :
    Sorted ((key, slot) :: rest) ↔
      (∀ entry ∈ rest, key < entry.1) ∧ slot.Canonical ∧ Sorted rest := by
  simp only [Sorted, List.map_cons, List.pairwise_cons, List.mem_map, List.forall_mem_cons]
  constructor
  · rintro ⟨⟨below, sorted⟩, canonical, others⟩
    exact ⟨fun entry member => below entry.1 ⟨entry, member, rfl⟩, canonical, sorted, others⟩
  · rintro ⟨below, canonical, sorted, others⟩
    refine ⟨⟨?_, sorted⟩, canonical, others⟩
    rintro k ⟨entry, member, rfl⟩
    exact below entry member

theorem key_mem_updateAt {key k : String} {change : Option Slot → Slot}
    {slots : List (String × Slot)} (member : k ∈ (updateAt key change slots).map Prod.fst) :
    k = key ∨ k ∈ slots.map Prod.fst := by
  induction slots with
  | nil => exact .inl (by simpa [updateAt] using member)
  | cons entry rest ih =>
      rcases entry with ⟨k', slot⟩
      rw [updateAt] at member
      split at member
      · simpa using member
      · split at member
        · exact .inr member
        · rcases List.mem_cons.mp member with rfl | member
          · exact .inr List.mem_cons_self
          · exact (ih member).imp_right (List.mem_cons_of_mem _)

/-- Changing a slot into a canonical one keeps the slots sorted. -/
theorem Sorted.updateAt {key : String} {change : Option Slot → Slot}
    {slots : List (String × Slot)} (sorted : Sorted slots)
    (changed : ∀ slot?, (∀ slot, slot? = some slot → slot.Canonical) → (change slot?).Canonical) :
    Sorted (updateAt key change slots) := by
  have new : (change none).Canonical := changed none (by simp)
  induction slots with
  | nil => exact sorted_cons_iff.mpr ⟨by simp, new, sorted⟩
  | cons entry rest ih =>
      rcases entry with ⟨k, slot⟩
      obtain ⟨below, canonical, sortedRest⟩ := sorted_cons_iff.mp sorted
      rw [Slot.updateAt]
      split
      · rename_i before
        refine sorted_cons_iff.mpr ⟨?_, new, sorted⟩
        intro entry member
        rcases List.mem_cons.mp member with rfl | member
        · exact before
        · exact String.lt_trans before (below entry member)
      · split
        · exact sorted_cons_iff.mpr
            ⟨below, changed _ (fun _ equal => by cases equal; exact canonical), sortedRest⟩
        · rename_i notBefore different
          have behind : k < key :=
            String.not_le.mp fun le =>
              different (String.le_antisymm le (String.not_lt.mp notBefore))
          refine sorted_cons_iff.mpr ⟨?_, canonical, ih sortedRest⟩
          intro entry member
          rcases key_mem_updateAt (List.mem_map_of_mem member) with equal | member
          · rw [equal]
            exact behind
          · obtain ⟨old, oldMember, equal⟩ := List.mem_map.mp member
            rw [← equal]
            exact below old oldMember

theorem canonical_addBlock {object : Except Fault Json} (outcome : CanonicalOutcome object)
    (labels : List String) {slot? : Option Slot}
    (canonical : ∀ slot, slot? = some slot → slot.Canonical) :
    (addBlock object labels slot?).Canonical := by
  induction labels generalizing slot? with
  | nil =>
      unfold addBlock
      split
      · rename_i objects _ _
        intro other member
        rcases List.mem_append.mp member with member | member
        · exact canonical _ rfl other member
        · rw [List.mem_singleton.mp member]
          exact outcome
      · intro other member
        rw [List.mem_singleton.mp member]
        exact outcome
      all_goals contradiction
  | cons label rest ih =>
      unfold addBlock
      split
      · contradiction
      · contradiction
      · rename_i equal
        cases equal
        exact canonical_labels_iff.mpr
          ((canonical_labels_iff.mp (canonical _ rfl)).updateAt fun slot? all => ih all)
      · rename_i equal notLabels
        cases equal
        exact canonical_labels_iff.mpr
          (sorted_cons_iff.mpr ⟨by simp, ih (by simp), sorted_nil⟩)

theorem canonical_of_mapM {objects : List (Except Fault Json)} {v : Json}
    (canonical : ∀ object ∈ objects, CanonicalOutcome object)
    (done : (objects.mapM id).map Json.arr = .ok v) : v.Canonical := by
  obtain ⟨values, valuesEq, rfl⟩ := map_eq_ok_iff.mp done
  refine Json.canonical_arr_iff.mpr fun v member => ?_
  obtain ⟨object, objectMember, objectEq⟩ := exists_of_mem_mapM valuesEq member
  exact canonical object objectMember v objectEq

mutual

/-- The value of a canonical slot is canonical. -/
theorem canonical_of_toJson : (slot : Slot) → slot.Canonical → {v : Json} →
    slot.toJson = .ok v → v.Canonical
  | .value json, canonical, v, done => canonical v done
  | .blocks [object], canonical, v, done => canonical object List.mem_cons_self v done
  | .blocks [], canonical, v, done => canonical_of_mapM canonical done
  | .blocks (_ :: _ :: _), canonical, v, done => canonical_of_mapM canonical done
  | .labels slots, canonical, v, done => by
      obtain ⟨fields, fieldsEq, rfl⟩ := map_eq_ok_iff.mp done
      obtain ⟨keysEq, all⟩ := canonical_of_fieldsOf slots canonical.2 fieldsEq
      refine Json.canonical_obj_iff.mpr ⟨?_, all⟩
      rw [SortedKeys, keysEq]
      exact canonical.1

/-- Canonical slots give fields with the same keys and canonical values. -/
theorem canonical_of_fieldsOf : (slots : List (String × Slot)) → AllCanonical slots →
    {fields : List (String × Json)} → fieldsOf slots = .ok fields →
      fields.map Prod.fst = slots.map Prod.fst ∧ ∀ field ∈ fields, field.2.Canonical
  | [], canonical, fields, done => by
      cases done
      exact ⟨rfl, by simp⟩
  | (key, slot) :: rest, canonical, fields, done => by
      obtain ⟨first, firstEq, done⟩ := bind_eq_ok_iff.mp done
      obtain ⟨others, othersEq, done⟩ := bind_eq_ok_iff.mp done
      cases done
      obtain ⟨keysEq, all⟩ := canonical_of_fieldsOf rest canonical.2 othersEq
      refine ⟨by rw [List.map_cons, keysEq, List.map_cons], ?_⟩
      intro field member
      rcases List.mem_cons.mp member with rfl | member
      · exact slot.canonical_of_toJson canonical.1 firstEq
      · exact all field member

end

end Slot

theorem canonical_of_sorted {slots : List (String × Slot)} (sorted : Slot.Sorted slots) {v : Json}
    (done : (Slot.fieldsOf slots).map Json.obj = .ok v) : v.Canonical :=
  Slot.canonical_of_toJson (.labels slots) (Slot.canonical_labels_iff.mpr sorted) done

mutual

/-- The slots of a body are sorted and canonical. -/
theorem sorted_slotsOf : (body : List Item) → {slots : List (String × Slot)} →
    Slot.Sorted slots → Slot.Sorted (slotsOf body slots)
  | [], _, sorted => sorted
  | item :: rest, _, sorted => sorted_slotsOf rest (sorted_addItem item sorted)

/-- An item keeps the slots sorted and canonical. -/
theorem sorted_addItem : (item : Item) → {slots : List (String × Slot)} →
    Slot.Sorted slots → Slot.Sorted (addItem item slots)
  | .attribute name value, slots, sorted =>
      sorted.updateAt fun _ _ _ done => value.canonical_of_toJson done
  | .block name labels body, slots, sorted => by
      have outcome : CanonicalOutcome ((Slot.fieldsOf (slotsOf body [])).map Json.obj) :=
        fun v done => canonical_of_sorted (sorted_slotsOf body Slot.sorted_nil) done
      exact sorted.updateAt fun slot? canonical =>
        Slot.canonical_addBlock outcome labels canonical

end

/-- The value of a text is canonical. -/
theorem canonical_of_value {text : String} {v : Json} (done : value text = .ok v) :
    v.Canonical := by
  obtain ⟨⟨items, rest⟩, -, done⟩ := bind_eq_ok_iff.mp done
  split at done
  · exact canonical_of_sorted (sorted_slotsOf _ Slot.sorted_nil) done
  · cases done

end PolicyScan.Hcl
