import Mathlib.Data.String.Basic
import PolicyScan.Proofs.Json.Outline
import PolicyScan.Rego.Value

/-!
# JSON documents as values

A value that comes from a canonical document has its parts where the document has them
(`path?_ofJson`, `entries?_ofJson`), and a set of equal members has one (`ofMembers_eq`).
-/

namespace PolicyScan.Rego.Value

/-! ## Equal values -/

theorem cmp_str (a b : String) : cmp (.str a) (.str b) = compare a b := by
  rw [cmp]

theorem same_str_iff {v : Value} {text : String} : same v (.str text) ↔ v = .str text := by
  cases v <;> simp [same, cmp, rank]

theorem same_bool_iff {v : Value} {b : Bool} : same v (.bool b) ↔ v = .bool b := by
  cases v with
  | bool c => cases b <;> cases c <;> simp [same, cmp]
  | _ => simp [same, cmp, rank]

theorem same_str (a b : String) : same (.str a) (.str b) = (a == b) := by
  rw [Bool.eq_iff_iff, same_str_iff, Value.str.injEq, beq_iff_eq]

/-! ## Documents -/

section Fields

variable {fields : List (String × Json)} {sofar : List (Value × Value)}

/-- A field behind all others is put at the end. -/
theorem insertField_of_forall_gt {key : String} {value : Value}
    (behind : ∀ field ∈ sofar, ∃ k, field.1 = .str k ∧ k < key) :
    insertField (.str key) value sofar = sofar ++ [(.str key, value)] := by
  induction sofar with
  | nil => rfl
  | cons field rest ih =>
      rcases field with ⟨_, other⟩
      obtain ⟨k, rfl, lt⟩ := behind _ List.mem_cons_self
      have greater : cmp (.str key) (.str k) = .gt := by
        rw [cmp_str]
        exact compare_gt_iff_gt.mpr lt
      rw [insertField, greater, List.cons_append]
      exact congrArg _ (ih fun field member => behind field (List.mem_cons_of_mem _ member))

theorem ofJsonFields_eq_map (fields : List (String × Json)) :
    ofJsonFields fields = fields.map fun (key, v) => (.str key, ofJson v) := by
  induction fields with
  | nil => rfl
  | cons field rest ih => rw [ofJsonFields, ih, List.map_cons]

theorem ofJsonItems_eq_map (items : List Json) : ofJsonItems items = items.map ofJson := by
  induction items with
  | nil => rfl
  | cons item rest ih => rw [ofJsonItems, ih, List.map_cons]

/-- Sorted fields are put in one behind the other. -/
theorem foldl_insertField_ofJsonFields (before after : List (String × Json))
    (sorted : Json.SortedKeys (before ++ after)) :
    (ofJsonFields after).foldl (fun acc (k, v) => insertField k v acc) (ofJsonFields before) =
      ofJsonFields (before ++ after) := by
  induction after generalizing before with
  | nil => rw [List.append_nil, ofJsonFields, List.foldl_nil]
  | cons field rest ih =>
      rcases field with ⟨key, v⟩
      have behind : ∀ field ∈ ofJsonFields before, ∃ k, field.1 = .str k ∧ k < key := by
        intro field member
        rw [ofJsonFields_eq_map] at member
        obtain ⟨entry, isBefore, rfl⟩ := List.mem_map.mp member
        rw [Json.SortedKeys, List.map_append, List.pairwise_append] at sorted
        exact ⟨_, rfl, sorted.2.2 entry.1 (List.mem_map_of_mem isBefore) key (by simp)⟩
      have added : insertField (.str key) (ofJson v) (ofJsonFields before) =
          ofJsonFields (before ++ [(key, v)]) := by
        rw [insertField_of_forall_gt behind, ofJsonFields_eq_map, ofJsonFields_eq_map,
          List.map_append]
        rfl
      have others := ih (before ++ [(key, v)]) (by simpa using sorted)
      rw [← added, List.append_assoc] at others
      exact others

theorem ofJson_obj (canonical : (Json.obj fields).Canonical) :
    ofJson (.obj fields) = .obj (ofJsonFields fields) := by
  have sorted := (Json.canonical_obj_iff.mp canonical).1
  rw [ofJson]
  exact congrArg Value.obj (foldl_insertField_ofJsonFields [] fields sorted)

theorem lookup_ofJsonFields (key : String) (fields : List (String × Json)) :
    lookup (.str key) (ofJsonFields fields) = (fields.lookup key).map ofJson := by
  induction fields with
  | nil => rfl
  | cons field rest ih =>
      rcases field with ⟨k, v⟩
      rw [ofJsonFields, lookup, same_str, List.lookup_cons]
      cases key == k with
      | true => rfl
      | false => exact ih

end Fields

section

variable {v : Json}

theorem ofJson_eq_str_iff {text : String} : ofJson v = .str text ↔ v = .str text := by
  cases v with
  | num n => cases n <;> simp [ofJson]
  | _ => simp [ofJson, ofFields]

theorem ofJson_eq_bool_iff {b : Bool} : ofJson v = .bool b ↔ v = .bool b := by
  cases v with
  | num n => cases n <;> simp [ofJson]
  | _ => simp [ofJson, ofFields]

theorem get?_ofJson (canonical : v.Canonical) (key : String) :
    (ofJson v).get? (.str key) = (v.get? key).map ofJson := by
  cases v with
  | obj fields =>
      rw [ofJson_obj canonical]
      exact lookup_ofJsonFields key fields
  | num n => cases n <;> rfl
  | _ => rfl

theorem path?_ofJson (canonical : v.Canonical) (keys : List String) :
    (ofJson v).path? keys = (v.path? keys).map ofJson := by
  induction keys generalizing v with
  | nil => rfl
  | cons key keys ih =>
      rw [path?, Json.path?, get?_ofJson canonical]
      cases found : v.get? key with
      | none => rfl
      | some w => exact ih (Json.canonical_of_get? canonical found)

/-- A collection of a document has the members of the document's. -/
theorem entries?_ofJson (canonical : v.Canonical) :
    (ofJson v).entries?.map (List.map Prod.snd) = v.members?.map (List.map ofJson) := by
  cases v with
  | arr items =>
      rw [ofJson, entries?, ofJsonItems_eq_map, Json.members?, Option.map_some, List.map_map]
      exact congrArg some (List.zipIdx_map_fst 0 _)
  | obj fields =>
      rw [ofJson_obj canonical, entries?, ofJsonFields_eq_map, Json.members?]
      simp
  | num n => cases n <;> rfl
  | _ => rfl

end

/-- A text or a truth value stands in the value where it stands in the document. -/
theorem path?_ofJson_eq_some_iff {v w : Json} (canonical : v.Canonical) {keys : List String}
    {found : Value} (exact : ∀ u, ofJson u = found ↔ u = w) :
    (ofJson v).path? keys = some found ↔ v.path? keys = some w := by
  rw [path?_ofJson canonical, Option.map_eq_some_iff]
  simp only [exact, exists_eq_right]

section Members

variable {v : Json} {keys : List String}

/-- The entries of a collection of a document, and none without it. -/
theorem exists_entries (canonical : v.Canonical) (isCollection : v.IsCollectionAt keys) :
    ∃ entries, ((ofJson v).path? keys).elim (some []) entries? = some entries ∧
      entries.map Prod.snd = (v.membersAt keys).map ofJson := by
  rw [path?_ofJson canonical, Json.membersAt]
  cases stands : v.path? keys with
  | none => exact ⟨[], rfl, rfl⟩
  | some w =>
      have same := entries?_ofJson (Json.canonical_of_path? canonical stands)
      obtain ⟨members, membersEq⟩ := Option.isSome_iff_exists.mp (isCollection w stands)
      rw [membersEq, Option.map_some, Option.map_eq_some_iff] at same
      obtain ⟨entries, entriesEq, valuesEq⟩ := same
      refine ⟨entries, entriesEq, ?_⟩
      rw [valuesEq, Option.bind_some, membersEq, Option.getD_some]

/-- An entry has a text or a truth value at a place just if its member of the document
has. -/
theorem exists_entry_iff {entries : List (Value × Value)} {members : List Json}
    (same : entries.map Prod.snd = members.map ofJson)
    (canonical : ∀ w ∈ members, w.Canonical) {found : Value} {w : Json}
    (exact : ∀ u, ofJson u = found ↔ u = w) :
    (∃ entry ∈ entries, entry.2.path? keys = some found) ↔
      ∃ m ∈ members, m.path? keys = some w := by
  calc (∃ entry ∈ entries, entry.2.path? keys = some found)
      ↔ ∃ u ∈ entries.map Prod.snd, u.path? keys = some found := by
        simp only [List.mem_map, exists_exists_and_eq_and]
    _ ↔ ∃ m ∈ members, (ofJson m).path? keys = some found := by
        simp only [same, List.mem_map, exists_exists_and_eq_and]
    _ ↔ ∃ m ∈ members, m.path? keys = some w :=
      exists_congr fun m => and_congr_right fun member =>
        path?_ofJson_eq_some_iff (canonical m member) exact

end Members

/-! ## Sets -/

/-- A set of members that are all the same has one. -/
theorem ofMembers_eq {v : Value} (same : cmp v v = .eq) {members : List Value}
    (nonempty : members ≠ []) (all : ∀ m ∈ members, m = v) : ofMembers members = .set [v] := by
  have step : ∀ rest : List Value, (∀ m ∈ rest, m = v) →
      rest.foldl (fun acc v => insertMember v acc) [v] = [v] := by
    intro rest all
    induction rest with
    | nil => rfl
    | cons m rest ih =>
        obtain ⟨rfl, all⟩ := List.forall_mem_cons.mp all
        rw [List.foldl_cons, insertMember, same]
        exact ih all
  obtain ⟨m, rest, rfl⟩ := List.exists_cons_of_ne_nil nonempty
  obtain ⟨rfl, all⟩ := List.forall_mem_cons.mp all
  exact congrArg Value.set (step rest all)

end PolicyScan.Rego.Value
