import PolicyScan.Proofs.Json.Canonical
import PolicyScan.Proofs.Outcome
import PolicyScan.Yaml.Document

/-!
# The values of YAML documents

The value of a document is canonical and nested at most `nestingLimit` deep,
whatever aliases it resolves.
-/

namespace PolicyScan.Yaml

/-- A value that is no collection. -/
def IsScalar (v : Json) : Prop := v.Canonical ∧ v.depth = 0

theorem isScalar_null : IsScalar .null := ⟨trivial, rfl⟩

theorem isScalar_str (text : String) : IsScalar (.str text) := ⟨trivial, rfl⟩

theorem isScalar_num (n : Number) : IsScalar (.num n) := ⟨trivial, rfl⟩

theorem isScalar_bool (b : Bool) : IsScalar (.bool b) := ⟨trivial, rfl⟩

theorem isScalar_toJson (x : Real) : IsScalar x.toJson := by
  cases x with
  | finite value => exact isScalar_num _
  | infinite => exact isScalar_null
  | undefined => exact isScalar_null

theorem isScalar_of_wholeValue? {text : List Char} {v : Json}
    (done : wholeValue? text = .ok (some v)) : IsScalar v := by
  unfold wholeValue? at done
  split at done
  · cases done
  · split at done
    · cases done
      exact isScalar_num _
    · split at done <;> cases done

theorem isScalar_of_plainValue {text : List Char} {v : Json}
    (done : plainValue text = .ok v) : IsScalar v := by
  unfold plainValue at done
  split at done
  · cases done
    exact isScalar_null
  · split at done
    · cases done
      exact isScalar_bool _
    · obtain ⟨whole?, wholeEq, done⟩ := bind_eq_ok_iff.mp done
      split at done
      · cases done
        exact isScalar_of_wholeValue? wholeEq
      · split at done
        · split at done
          · cases done
            exact isScalar_toJson _
          · cases done
            exact isScalar_str _
        · cases done
          exact isScalar_str _

theorem isScalar_of_scalarValue {tag : Option (List Char)} {plain : Bool} {text : List Char}
    {v : Json} (done : scalarValue tag plain text = .ok v) : IsScalar v := by
  unfold scalarValue at done
  split at done
  · split at done
    · exact isScalar_of_plainValue done
    · cases done
      exact isScalar_str _
  · split at done
    · cases done
      exact isScalar_null
    · contradiction
  · split at done
    · cases done
      exact isScalar_bool _
    · contradiction
  · obtain ⟨whole?, wholeEq, done⟩ := bind_eq_ok_iff.mp done
    split at done
    · cases done
      exact isScalar_of_wholeValue? wholeEq
    · contradiction
  · split at done
    · cases done
      exact isScalar_toJson _
    · contradiction
  · split at done
    · contradiction
    · cases done
      exact isScalar_str _

namespace Node

/-- A value with at most `depth` collections in one another, keys sorted. -/
def Fits (depth : Nat) (v : Json) : Prop := v.Canonical ∧ v.depth ≤ depth

section Collections

variable {depth : Nat} {value : Nat → Node → Except Fault (Json × Nat)}
  (fits : ∀ {left left' node v}, value left node = .ok (v, left') → Fits depth v)

include fits

theorem fits_of_itemValues {left left' : Nat} {items : List Node} {values : List Json}
    (done : itemValues value left items = .ok (values, left')) : ∀ v ∈ values, Fits depth v := by
  induction items generalizing left values with
  | nil =>
      cases done
      simp
  | cons item rest ih =>
      rw [itemValues] at done
      obtain ⟨⟨first, left₁⟩, firstEq, done⟩ := bind_eq_ok_iff.mp done
      obtain ⟨⟨others, left₂⟩, othersEq, done⟩ := bind_eq_ok_iff.mp done
      cases done
      intro v member
      rcases List.mem_cons.mp member with rfl | member
      · exact fits firstEq
      · exact ih othersEq v member

theorem fits_of_entryFields {marks : List (Nat × Node)} {left left' : Nat}
    {entries : List (Node × Node)} {sofar fields : List (String × Json)}
    (done : entryFields marks value left entries sofar = .ok (fields, left'))
    (sorted : Json.SortedKeys sofar) (all : ∀ field ∈ sofar, Fits depth field.2) :
    Json.SortedKeys fields ∧ ∀ field ∈ fields, Fits depth field.2 := by
  induction entries generalizing left sofar with
  | nil =>
      cases done
      exact ⟨sorted, all⟩
  | cons entry rest ih =>
      rcases entry with ⟨k, v⟩
      rw [entryFields] at done
      obtain ⟨⟨key, left₁⟩, -, done⟩ := bind_eq_ok_iff.mp done
      obtain ⟨⟨first, left₂⟩, firstEq, done⟩ := bind_eq_ok_iff.mp done
      refine ih done sorted.insertField ?_
      intro field member
      rcases Json.mem_insertField member with rfl | member
      · exact fits firstEq
      · exact all field member

end Collections

/-- A value is nested no deeper than its reader allows. -/
theorem fits_of_valueWithin (marks : List (Nat × Node)) {depth left left' : Nat} {node : Node}
    {v : Json} (done : valueWithin marks depth left node = .ok (v, left')) : Fits depth v := by
  induction depth using Nat.strongRecOn generalizing left left' node v with
  | ind depth ih =>
      rw [valueWithin.eq_def] at done
      obtain ⟨⟨resolved, left₁⟩, -, done⟩ := bind_eq_ok_iff.mp done
      cases resolved with
      | scalar props plain text =>
          obtain ⟨scalar, scalarEq, done⟩ := bind_eq_ok_iff.mp done
          cases done
          obtain ⟨canonical, depthEq⟩ := isScalar_of_scalarValue scalarEq
          exact ⟨canonical, by omega⟩
      | «alias» anchor => cases done
      | sequence props items =>
          simp only at done
          split at done
          · cases done
          · split at done
            · cases done
            · rename_i depth _
              obtain ⟨⟨values, left₂⟩, valuesEq, equal⟩ := map_eq_ok_iff.mp done
              cases equal
              have all := fits_of_itemValues (ih depth (Nat.lt_succ_self depth)) valuesEq
              refine ⟨Json.canonical_arr_iff.mpr fun v member => (all v member).1, ?_⟩
              rw [Json.depth]
              exact Nat.succ_le_succ
                (Json.depthItems_le_iff.mpr fun v member => (all v member).2)
      | mapping props entries =>
          simp only at done
          split at done
          · cases done
          · split at done
            · cases done
            · rename_i depth _
              obtain ⟨⟨fields, left₂⟩, fieldsEq, equal⟩ := map_eq_ok_iff.mp done
              cases equal
              obtain ⟨sorted, all⟩ := fits_of_entryFields (ih depth (Nat.lt_succ_self depth))
                fieldsEq Json.sortedKeys_nil (by simp)
              refine ⟨Json.canonical_obj_iff.mpr ⟨sorted, fun field member =>
                (all field member).1⟩, ?_⟩
              rw [Json.depth]
              exact Nat.succ_le_succ
                (Json.depthFields_le_iff.mpr fun field member => (all field member).2)

theorem fits_of_toJson {node : Node} {v : Json} (done : node.toJson = .ok v) :
    Fits nestingLimit v := by
  obtain ⟨⟨v, left⟩, valueEq, done⟩ := bind_eq_ok_iff.mp done
  cases done
  exact fits_of_valueWithin _ valueEq

end Node

/-- The values of a text are canonical and nested no deeper than YAML allows. -/
theorem fits_of_mem_values {text : String} {vs : List Json} (done : values text = .ok vs)
    {v : Json} (member : v ∈ vs) : Node.Fits nestingLimit v := by
  obtain ⟨nodes, -, done⟩ := bind_eq_ok_iff.mp done
  split at done
  · cases done
    rw [List.mem_singleton.mp member]
    exact ⟨trivial, Nat.zero_le _⟩
  · obtain ⟨node, -, valueEq⟩ := exists_of_mem_mapM done member
    exact Node.fits_of_toJson valueEq

end PolicyScan.Yaml
