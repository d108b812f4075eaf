import PolicyScan.Proofs.Json.Expect
import PolicyScan.Proofs.Json.Pretty
import PolicyScan.Violation.Reader

/-!
# Violations are read back

An object that has the thirteen fields of a record, each once and in any order, is read
as the record, whatever blanks and escapes its text has (`ofText_object`).  So a record
is read back from its own object, and also from the object with its fields in order
(`ofText_compact_ordered`).
-/

namespace PolicyScan.Violation

open Json (Gap Tree Fields glyphText)

/-! ## Fields of a record -/

namespace Field

/-- The record `v` with a field of `w`. -/
def copy (f : Field) (w v : Violation) : Violation :=
  match f with
  | .id => { v with id := w.id }
  | .publicId => { v with publicId := w.publicId }
  | .type => { v with type := w.type }
  | .subType => { v with subType := w.subType }
  | .title => { v with title := w.title }
  | .description => { v with description := w.description }
  | .severity => { v with severity := w.severity }
  | .msg => { v with msg := w.msg }
  | .policyKind => { v with policyKind := w.policyKind }
  | .issue => { v with issue := w.issue }
  | .impact => { v with impact := w.impact }
  | .resolve => { v with resolve := w.resolve }
  | .references => { v with references := w.references }

variable {v w : Violation}

theorem value_copy_self (f : Field) : f.value (f.copy w v) = f.value w := by
  cases f <;> rfl

theorem value_copy_of_ne {f g : Field} (different : f ≠ g) :
    f.value (g.copy w v) = f.value v := by
  cases g <;> cases f <;> first | rfl | exact absurd rfl different

/-- A field that agrees still does when another one is copied. -/
theorem value_copy_of_value_eq {f : Field} (agrees : f.value v = f.value w) (g : Field) :
    f.value (g.copy w v) = f.value w := by
  by_cases same : f = g
  · rw [same, value_copy_self]
  · rw [value_copy_of_ne same, agrees]

theorem value_foldl_copy_of_value_eq {f : Field} (fields : List Field)
    (agrees : f.value v = f.value w) :
    f.value (fields.foldl (fun v g => g.copy w v) v) = f.value w := by
  induction fields generalizing v with
  | nil => exact agrees
  | cons g fields ih => exact ih (value_copy_of_value_eq agrees g)

theorem value_foldl_copy {f : Field} {fields : List Field} (member : f ∈ fields) :
    f.value (fields.foldl (fun v g => g.copy w v) v) = f.value w := by
  induction fields generalizing v with
  | nil => contradiction
  | cons g fields ih =>
      rcases List.mem_cons.mp member with rfl | later
      · exact value_foldl_copy_of_value_eq fields (value_copy_self f)
      · exact ih later

end Field

/-- Some fields of a record as fields of its object. -/
def fieldsOf (w : Violation) (keys : List Field) : List (String × Json) :=
  keys.map fun f => (f.key, f.value w)

theorem toJson_eq (w : Violation) : w.toJson = .obj (w.fieldsOf Field.all) := rfl

/-- Records with the same values in all fields are the same. -/
theorem ext_value {v w : Violation} (agree : ∀ f : Field, f.value v = f.value w) : v = w := by
  have references : v.references = w.references :=
    List.map_injective_iff.mpr (fun _ _ => Json.str.inj) (Json.arr.inj (agree .references))
  rcases v with ⟨id, publicId, type, subType, title, description, severity, msg, kind, issue,
    impact, resolve, refs⟩
  rcases w with ⟨id', publicId', type', subType', title', description', severity', msg', kind',
    issue', impact', resolve', refs'⟩
  rw [Violation.mk.injEq]
  refine ⟨Json.str.inj (agree .id), Json.str.inj (agree .publicId), Json.str.inj (agree .type),
    Json.str.inj (agree .subType), Json.str.inj (agree .title),
    Json.str.inj (agree .description), Severity.name_injective (Json.str.inj (agree .severity)),
    Json.str.inj (agree .msg), ?_, Json.str.inj (agree .issue), Json.str.inj (agree .impact),
    Json.str.inj (agree .resolve), references⟩
  cases kind
  cases kind'
  rfl

/-- Copying all fields leaves nothing of the record they are copied to. -/
theorem foldl_copy_of_forall_mem {fields : List Field} (all : ∀ f, f ∈ fields)
    (v w : Violation) : fields.foldl (fun v f => f.copy w v) v = w :=
  ext_value fun f => Field.value_foldl_copy (all f)

/-! ## Values of fields -/

/-- The value of a field is read into the record. -/
theorem Field.read_chars (f : Field) {w : Violation} {tree : Tree}
    (valueEq : tree.value = f.value w) (v : Violation) (gap : Gap) (rest : List Char) :
    f.read v (gap.chars ++ (tree.chars ++ rest)) = .ok (f.copy w v, rest) := by
  have text {t : String} (textEq : tree.value = .str t) :
      Json.textValue (gap.chars ++ (tree.chars ++ rest)) = .ok (t, rest) := by
    obtain ⟨glyphs, rfl, rfl⟩ := Json.exists_glyphs_of_value textEq
    exact Json.textValue_str gap glyphs rest
  cases f with
  | severity =>
      obtain ⟨glyphs, rfl, nameEq⟩ := Json.exists_glyphs_of_value valueEq
      have known : Severity.options.lookup (glyphText glyphs) = some w.severity := by
        rw [nameEq]
        exact Severity.ofName?_name w.severity
      rw [Field.read, Json.choice_str known]
      rfl
  | policyKind =>
      obtain ⟨glyphs, rfl, nameEq⟩ := Json.exists_glyphs_of_value valueEq
      have known : PolicyKind.options.lookup (glyphText glyphs) = some w.policyKind := by
        rw [nameEq]
        cases w.policyKind
        rfl
      rw [Field.read, Json.choice_str known]
      rfl
  | references =>
      rw [Field.read, Json.listValue_textValue valueEq]
      rfl
  | _ =>
      rw [Field.read, text valueEq]
      rfl

/-! ## Whole records -/

/-- Fields that were not read before are read into the record one after the other. -/
theorem readFields_chars (w : Violation) {keys : List Field} {fields : Fields}
    (valuesEq : fields.values = w.fieldsOf keys) {seen : List Field}
    (nodup : keys.Nodup) (unseen : ∀ f ∈ keys, f ∉ seen) (first : Bool) (v : Violation) (gap : Gap)
    (rest : List Char) {bound : List Char} (enough : fields.length < bound.length) :
    readFields bound first seen v (gap.chars ++ (fields.chars first ++ '\x7d' :: rest)) =
      .ok (keys.foldl (fun v f => f.copy w v) v, rest) := by
  induction keys generalizing fields seen first v gap bound with
  | nil =>
      rcases bound with _ | ⟨b, bound⟩
      · simp at enough
      · cases fields with
        | nil => rw [Fields.chars, List.nil_append, readFields, Json.keyStart_nil]; rfl
        | cons before key afterKey beforeValue value after others =>
            rw [Fields.values] at valuesEq
            contradiction
  | cons f keys ih =>
      rcases bound with _ | ⟨b, bound⟩
      · simp at enough
      · cases fields with
        | nil => rw [Fields.values] at valuesEq; contradiction
        | cons before key afterKey beforeValue value after others =>
            obtain ⟨fieldEq, othersEq⟩ := List.cons.inj valuesEq
            obtain ⟨keyEq, valueEq⟩ := Prod.mk.inj fieldEq
            rw [List.nodup_cons] at nodup
            rw [List.forall_mem_cons] at unseen
            have othersUnseen : ∀ g ∈ keys, g ∉ f :: seen := by
              intro g member
              rw [List.mem_cons, not_or]
              constructor
              · rintro rfl
                exact nodup.1 member
              · exact unseen.2 g member
            have fieldRead := f.read_chars valueEq v beforeValue
              (after.chars ++ (others.chars false ++ '\x7d' :: rest))
            simp only [Fields.chars, List.append_assoc, List.cons_append]
            rw [readFields, Json.keyStart_cons]
            simp only [bind, Except.bind, Json.string_append, keyEq, Field.ofKey?_key,
              if_neg unseen.1, Json.colon_append, fieldRead]
            exact ih othersEq nodup.2 othersUnseen false (f.copy w v) after
              (by simpa [Fields.length] using enough)

/-- An object with all fields of a record, in any order and each once, is read as the
record. -/
theorem ofText_object {w : Violation} {keys : List Field} {fields : Fields}
    (allKeys : keys.Perm Field.all) (valuesEq : fields.values = w.fieldsOf keys)
    (before inner after : Gap) {text : String}
    (textEq : text.toList = before.chars ++ ((Tree.obj inner fields).chars ++ after.chars)) :
    ofText text = .ok w := by
  have start : Json.dropBlanks text.toList =
      '\x7b' :: (inner.chars ++ (fields.chars true ++ '\x7d' :: after.chars)) := by
    rw [textEq, before.dropBlanks_append, Tree.chars]
    simp only [List.cons_append, List.append_assoc, List.nil_append]
    exact Json.dropBlanks_cons_of_not_isBlank rfl _
  have enough : fields.length < text.toList.length := by
    have := fields.length_le_length_chars true
    rw [textEq]
    simp only [Tree.chars, List.length_append, List.length_cons]
    omega
  have nodup : keys.Nodup := allKeys.nodup_iff.mpr (by decide)
  have all : ∀ f, f ∈ keys := fun f => allKeys.mem_iff.mpr f.mem_all
  have fieldsRead := readFields_chars w valuesEq nodup (fun _ _ => List.not_mem_nil) true {} inner
    after.chars enough
  rw [foldl_copy_of_forall_mem all] at fieldsRead
  rw [ofText, Json.wholly, read, start]
  simp only [fieldsRead, bind, Except.bind, Json.atEnd_gap]
  rfl

theorem ordered_value (f : Field) (w : Violation) : (f.value w).ordered = f.value w := by
  cases f with
  | references => exact Json.ordered_arr_map .str w.references
  | _ => rfl

theorem canonical_value (f : Field) (w : Violation) : (f.value w).Canonical := by
  cases f with
  | references =>
      rw [Field.value, Json.canonical_arr_iff]
      intro item member
      obtain ⟨text, -, rfl⟩ := List.mem_map.mp member
      trivial
  | _ => trivial

theorem wholeWithin_value (f : Field) (w : Violation) : (f.value w).WholeWithin 1 := by
  cases f with
  | references =>
      apply Json.wholeWithin_arr
      intro item member
      obtain ⟨text, -, rfl⟩ := List.mem_map.mp member
      exact Json.wholeWithin_str text
  | _ => exact Json.wholeWithin_str _

section

variable (w : Violation) (keys : List Field)

theorem orderedFields_fieldsOf : Json.orderedFields (w.fieldsOf keys) = w.fieldsOf keys := by
  rw [Json.orderedFields_eq, fieldsOf, List.map_map]
  refine List.map_congr_left fun f _ => ?_
  rw [Function.comp_apply, ordered_value]

theorem canonicalFields_fieldsOf : Json.CanonicalFields (w.fieldsOf keys) := by
  rw [Json.canonicalFields_iff]
  intro field member
  obtain ⟨f, -, rfl⟩ := List.mem_map.mp member
  exact canonical_value f w

theorem wholeWithin_fieldsOf : (Json.obj (w.fieldsOf keys)).WholeWithin 2 := by
  apply Json.wholeWithin_obj
  intro field member
  obtain ⟨f, -, rfl⟩ := List.mem_map.mp member
  exact wholeWithin_value f w

end

/-- The fields of a record that are put in order are still all its fields. -/
theorem exists_keys_of_ordered (w : Violation) :
    ∃ keys : List Field, keys.Perm Field.all ∧ w.toJson.ordered = .obj (w.fieldsOf keys) := by
  have different : (([] ++ w.fieldsOf Field.all).map Prod.fst).Nodup := by
    rw [List.nil_append, fieldsOf, List.map_map]
    exact (by decide : (Field.all.map Field.key).Nodup)
  have moved := Json.insertFields_perm different
  rw [List.nil_append, fieldsOf] at moved
  obtain ⟨keys, keysEq, allKeys⟩ := (congrFun₂ (List.eq_map_comp_perm _) _ _).mpr moved
  refine ⟨keys, allKeys, ?_⟩
  rw [toJson_eq, Json.ordered, orderedFields_fieldsOf, Json.ofFields_eq]
  exact congrArg Json.obj keysEq

/-- The object of a record has the value of a field under its key. -/
theorem get?_ordered (w : Violation) (f : Field) :
    w.toJson.ordered.get? f.key = some (f.value w) := by
  have different : ((w.fieldsOf Field.all).map Prod.fst).Nodup := by
    rw [fieldsOf, List.map_map]
    exact (by decide : (Field.all.map Field.key).Nodup)
  have found : (w.fieldsOf Field.all).lookup f.key = some (f.value w) := by
    cases f <;> rfl
  rw [toJson_eq, Json.get?_ordered different, found, Option.map_some, ordered_value]

/-- A record is read back from the compact text of its object with the fields in order. -/
theorem ofText_compact_ordered (w : Violation) : ofText w.toJson.ordered.compact = .ok w := by
  obtain ⟨keys, allKeys, fieldsEq⟩ := exists_keys_of_ordered w
  obtain ⟨fields, charsEq, valuesEq, -⟩ := Json.exists_fields_of_compactFields _
    (wholeWithin_fieldsOf w keys).1 (canonicalFields_fieldsOf w keys)
  apply ofText_object allKeys valuesEq .empty .empty .empty
  rw [fieldsEq, Json.compact, String.toList_ofList, Tree.chars, charsEq, Json.compactChars]
  simp [Gap.empty, Json.separated]

end PolicyScan.Violation
