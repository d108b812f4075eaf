import PolicyScan.Document
import PolicyScan.Proofs.Outcome

/-!
# Manifests as streams of objects

A manifest that has content is first read as a whole and then checked, document by
document.  So a document that cannot be read is reported before any that lacks
fields, wherever it stands (`exists_objects_notYaml_iff`); and of the documents that
lack fields the first one is (`check_eq_error_iff`).  There are objects only if
nothing is wrong with any document, and then there is one for each
(`Document.ofManifest_allOrNothing`).
-/

namespace PolicyScan

/-! ## Documents and their values -/

namespace Yaml

/-- The documents that are read for a stream; a stream without any counts as one that
is not written. -/
def written (nodes : List Node) : List Node := if nodes = [] then [.empty] else nodes

/-- The values are those of the documents of the text, one for each. -/
def Decodes (text : String) (values : List Json) : Prop :=
  ∃ nodes, documents text.toList = .ok nodes ∧
    List.Forall₂ (fun node value => node.toJson = .ok value) (written nodes) values

/-- The text is no stream of documents, or one of the documents has no value. -/
def IsUnreadable (text : String) : Prop :=
  (∃ fault, documents text.toList = .error fault) ∨
    ∃ nodes, documents text.toList = .ok nodes ∧
      ∃ node ∈ nodes, ∃ fault, node.toJson = .error fault

theorem toJson_empty : Node.empty.toJson = .ok .null := by
  rw [Node.toJson, Node.empty, Node.valueWithin.eq_def]
  rfl

/-- A stream is read by reading its documents, the one that is not written included. -/
theorem values_eq (text : String) :
    values text = documents text.toList >>= fun nodes => (written nodes).mapM Node.toJson := by
  rw [values]
  refine bind_congr fun nodes => ?_
  cases nodes with
  | nil =>
      rw [written, if_pos rfl, List.mapM_cons, toJson_empty]
      rfl
  | cons node nodes => rfl

theorem values_eq_ok_iff {text : String} {vs : List Json} :
    values text = .ok vs ↔ Decodes text vs := by
  rw [values_eq, bind_eq_ok_iff]
  exact exists_congr fun nodes => and_congr_right fun _ => mapM_eq_ok_iff

theorem exists_values_eq_error_iff {text : String} :
    (∃ fault, values text = .error fault) ↔ IsUnreadable text := by
  have noFault : ¬∃ fault, Node.empty.toJson = .error fault := by
    rintro ⟨fault, failed⟩
    cases toJson_empty.symm.trans failed
  have inWritten (nodes : List Node) :
      (∃ node ∈ written nodes, ∃ fault, node.toJson = .error fault) ↔
        ∃ node ∈ nodes, ∃ fault, node.toJson = .error fault := by
    cases nodes with
    | nil => simpa [written] using noFault
    | cons node nodes => rfl
  rw [values_eq, IsUnreadable]
  cases documents text.toList with
  | error fault => exact iff_of_true ⟨fault, rfl⟩ (.inl ⟨fault, rfl⟩)
  | ok nodes =>
      change (∃ fault, (written nodes).mapM Node.toJson = .error fault) ↔ _
      rw [exists_mapM_eq_error_iff, inWritten]
      simp

end Yaml

/-! ## Documents and their fields -/

namespace Manifest

/-- The keys of an object; no other value has any. -/
def keys : Json → List String
  | .obj fields => fields.map Prod.fst
  | _ => []

/-- An object that has the three required fields, whatever their values are. -/
def HasRequired (value : Json) : Prop :=
  value.isObject ∧ ∀ field ∈ requiredFields, field ∈ keys value

theorem isNone_get?_iff {key : String} {value : Json} :
    (value.get? key).isNone ↔ key ∉ keys value := by
  cases value with
  | obj fields =>
      rw [Json.get?, Option.isNone_iff_eq_none, List.lookup_eq_none_iff, keys, List.mem_map]
      constructor
      · rintro noField ⟨field, member, rfl⟩
        simpa using noField field member
      · intro noKey field member
        rw [bne_iff_ne]
        rintro rfl
        exact noKey ⟨field, member, rfl⟩
  | _ => exact iff_of_true rfl List.not_mem_nil

/-- What a document lacks are the required fields that are no keys of it, in their
order. -/
theorem missingFields_eq (value : Json) :
    missingFields value = requiredFields.filter fun field => field ∉ keys value := by
  refine List.filter_congr fun field _ => ?_
  rw [Bool.eq_iff_iff, isNone_get?_iff, decide_eq_true_iff]

/-- What is no object lacks all fields. -/
theorem missingFields_of_not_isObject {value : Json} (other : ¬value.isObject) :
    missingFields value = requiredFields := by
  cases value with
  | obj fields => exact absurd rfl other
  | _ => rfl

theorem missingFields_eq_nil_iff_hasRequired {value : Json} :
    missingFields value = [] ↔ HasRequired value := by
  have allKeys : missingFields value = [] ↔ ∀ field ∈ requiredFields, field ∈ keys value := by
    simp [missingFields_eq, List.filter_eq_nil_iff]
  rw [allKeys, HasRequired, iff_and_self]
  intro complete
  by_contra other
  rw [← allKeys, missingFields_of_not_isObject other] at complete
  contradiction

/-! ## The first document that lacks fields -/

section

variable {value : Json} {values rest : List Json} {index : Nat}

theorem check_cons_of_hasRequired (complete : HasRequired value) :
    check index (value :: rest) = check (index + 1) rest := by
  rw [check, missingFields_eq_nil_iff_hasRequired.mpr complete]

theorem check_cons_of_not_hasRequired (incomplete : ¬HasRequired value) :
    check index (value :: rest) = .error (.missing index (missingFields value)) := by
  rw [check]
  split
  · next nothing => exact absurd (missingFields_eq_nil_iff_hasRequired.mp nothing) incomplete
  · rfl

theorem check_append_of_forall_hasRequired {earlier : List Json}
    (complete : ∀ value ∈ earlier, HasRequired value) :
    check index (earlier ++ rest) = check (index + earlier.length) rest := by
  induction earlier generalizing index with
  | nil => rfl
  | cons value earlier ih =>
      rw [List.forall_mem_cons] at complete
      rw [List.cons_append, check_cons_of_hasRequired complete.1, ih complete.2,
        List.length_cons, Nat.add_assoc, Nat.add_comm 1]

theorem check_of_forall_hasRequired (complete : ∀ value ∈ values, HasRequired value) :
    check index values = .ok () := by
  rw [← List.append_nil values, check_append_of_forall_hasRequired complete, check]

/-- Either all documents are complete or there is a first one that is not. -/
theorem forall_hasRequired_or_exists (values : List Json) :
    (∀ value ∈ values, HasRequired value) ∨
      ∃ earlier value later, values = earlier ++ value :: later ∧
        (∀ other ∈ earlier, HasRequired other) ∧ ¬HasRequired value := by
  induction values with
  | nil => exact .inl (by simp)
  | cons value rest ih =>
      by_cases complete : HasRequired value
      · rcases ih with all | ⟨earlier, other, later, rfl, before, incomplete⟩
        · exact .inl (List.forall_mem_cons.mpr ⟨complete, all⟩)
        · exact .inr ⟨value :: earlier, other, later, rfl,
            List.forall_mem_cons.mpr ⟨complete, before⟩, incomplete⟩
      · exact .inr ⟨[], value, rest, rfl, by simp, complete⟩

/-- The check fails at the first document that is not complete. -/
theorem check_of_not_hasRequired {earlier : List Json}
    (before : ∀ other ∈ earlier, HasRequired other) (incomplete : ¬HasRequired value) :
    check index (earlier ++ value :: rest) =
      .error (.missing (index + earlier.length) (missingFields value)) := by
  rw [check_append_of_forall_hasRequired before, check_cons_of_not_hasRequired incomplete]

theorem check_eq_ok_iff : check index values = .ok () ↔ ∀ value ∈ values, HasRequired value := by
  refine ⟨fun checked => ?_, check_of_forall_hasRequired⟩
  rcases forall_hasRequired_or_exists values with
    all | ⟨earlier, value, later, rfl, before, incomplete⟩
  · exact all
  · rw [check_of_not_hasRequired before incomplete] at checked
    contradiction

theorem check_eq_error_iff {refusal : Refusal} :
    check index values = .error refusal ↔
      ∃ earlier value later, values = earlier ++ value :: later ∧
        (∀ other ∈ earlier, HasRequired other) ∧ ¬HasRequired value ∧
          refusal = .missing (index + earlier.length) (missingFields value) := by
  constructor
  · intro failed
    rcases forall_hasRequired_or_exists values with
      all | ⟨earlier, value, later, rfl, before, incomplete⟩
    · rw [check_of_forall_hasRequired all] at failed
      contradiction
    · rw [check_of_not_hasRequired before incomplete] at failed
      exact ⟨earlier, value, later, rfl, before, incomplete, (Except.error.inj failed).symm⟩
  · rintro ⟨earlier, value, later, rfl, before, incomplete, rfl⟩
    exact check_of_not_hasRequired before incomplete

end

/-! ## The objects of a manifest -/

section

variable {text : String} {values : List Json}

theorem objects_eq (content : hasContent text) :
    objects text = (Yaml.values text).mapError .notYaml >>= fun values =>
      (check 0 values).map fun _ => values := by
  rw [objects, if_pos content]
  refine bind_congr fun values => ?_
  cases check 0 values <;> rfl

/-- The objects of a text that is read are its documents, once they are checked. -/
theorem objects_of_decodes (content : hasContent text) (decodes : Yaml.Decodes text values) :
    objects text = (check 0 values).map fun _ => values := by
  rw [objects_eq content, Yaml.values_eq_ok_iff.mpr decodes]
  rfl

/-- A text that cannot be read is reported as such, whatever its documents lack. -/
theorem exists_objects_notYaml_iff (content : hasContent text) :
    (∃ fault, objects text = .error (.notYaml fault)) ↔ Yaml.IsUnreadable text := by
  rw [← Yaml.exists_values_eq_error_iff, objects_eq content]
  cases read : Yaml.values text with
  | error fault => exact iff_of_true ⟨fault, rfl⟩ ⟨fault, rfl⟩
  | ok values =>
      refine iff_of_false ?_ (by simp)
      rintro ⟨fault, failed⟩
      change (check 0 values).map (fun _ => values) = _ at failed
      cases checked : check 0 values with
      | ok _ => simp [checked, Except.map] at failed
      | error refusal =>
          obtain ⟨earlier, value, later, -, -, -, rfl⟩ := check_eq_error_iff.mp checked
          simp [checked, Except.map] at failed

end

end Manifest

/-! ## The documents of a manifest -/

namespace Document

open Manifest (hasContent requiredFields keys HasRequired)

/-- What becomes of a manifest. -/
structure AllOrNothing (file : SourceFile) : Prop where
  /-- It can be read as a stream of documents, or it cannot. -/
  decodes_or : (∃ values, Yaml.Decodes file.content values) ∨ Yaml.IsUnreadable file.content
  /-- A document that cannot be read is reported whatever the others lack. -/
  notYaml_iff : (∃ fault, ofManifest file = .error (.manifest (.notYaml fault))) ↔
    Yaml.IsUnreadable file.content
  /-- There are documents exactly if all of them are complete, and then there is one
  for each, in order. -/
  ok_iff : ∀ values, Yaml.Decodes file.content values → ∀ documents,
    ofManifest file = .ok documents ↔ (∀ value ∈ values, HasRequired value) ∧
      documents = values.mapIdx fun index value => ⟨file, value, .kubernetes, some index⟩
  /-- Otherwise the first one that is not is reported, with the fields it lacks. -/
  missing_iff : ∀ values, Yaml.Decodes file.content values → ∀ index fields,
    ofManifest file = .error (.manifest (.missing index fields)) ↔
      ∃ earlier value later, values = earlier ++ value :: later ∧ index = earlier.length ∧
        (∀ other ∈ earlier, HasRequired other) ∧ ¬HasRequired value ∧
          fields = requiredFields.filter (· ∉ keys value)
  /-- These are never none, and all three for what is no object. -/
  fields_ne_nil : ∀ value, ¬HasRequired value → requiredFields.filter (· ∉ keys value) ≠ []
  fields_of_not_isObject : ∀ value : Json, ¬value.isObject →
    requiredFields.filter (· ∉ keys value) = ["apiVersion", "kind", "metadata"]

variable {file : SourceFile} {values : List Json}

theorem ofManifest_eq (file : SourceFile) :
    ofManifest file = ((Manifest.objects file.content).mapError .manifest).map fun values =>
      values.mapIdx fun index value => ⟨file, value, .kubernetes, some index⟩ := by
  rw [ofManifest]
  simp only [List.mapIdx_eq_zipIdx_map]
  cases (Manifest.objects file.content).mapError ParseError.manifest <;> rfl

/-- The refusal of a manifest is that of its objects. -/
theorem ofManifest_eq_error_iff {refusal : Manifest.Refusal} :
    ofManifest file = .error (.manifest refusal) ↔
      Manifest.objects file.content = .error refusal := by
  rw [ofManifest_eq]
  cases Manifest.objects file.content <;> simp [Except.map, Except.mapError]

/-- A manifest has one document for each of its objects. -/
theorem ofManifest_eq_ok_iff {documents : List Document} :
    ofManifest file = .ok documents ↔ ∃ values, Manifest.objects file.content = .ok values ∧
      values.mapIdx (fun index value => ⟨file, value, .kubernetes, some index⟩) = documents := by
  rw [ofManifest_eq, map_eq_ok_iff]
  simp only [mapError_eq_ok_iff]

/-- A manifest with content is read as a whole or not at all. -/
theorem ofManifest_allOrNothing (content : Manifest.hasContent file.content) :
    AllOrNothing file where
  decodes_or := by
    rw [← Yaml.exists_values_eq_error_iff]
    cases read : Yaml.values file.content with
    | ok values => exact .inl ⟨values, Yaml.values_eq_ok_iff.mp read⟩
    | error fault => exact .inr ⟨fault, rfl⟩
  notYaml_iff := by
    simp only [ofManifest_eq_error_iff, Manifest.exists_objects_notYaml_iff content]
  ok_iff := by
    intro values decodes documents
    rw [ofManifest_eq_ok_iff, Manifest.objects_of_decodes content decodes,
      ← @Manifest.check_eq_ok_iff values 0]
    cases Manifest.check 0 values <;> simp [Except.map, eq_comm]
  missing_iff := by
    intro values decodes index fields
    rw [ofManifest_eq_error_iff, Manifest.objects_of_decodes content decodes]
    have mapped : (Manifest.check 0 values).map (fun _ => values) =
        .error (.missing index fields) ↔
          Manifest.check 0 values = .error (.missing index fields) := by
      cases Manifest.check 0 values <;> simp [Except.map]
    rw [mapped, Manifest.check_eq_error_iff]
    simp only [Manifest.Refusal.missing.injEq, Nat.zero_add, Manifest.missingFields_eq]
    refine exists_congr fun earlier => exists_congr fun value => exists_congr fun later => ?_
    tauto
  fields_ne_nil := by
    intro value incomplete nothing
    rw [← Manifest.missingFields_eq] at nothing
    exact incomplete (Manifest.missingFields_eq_nil_iff_hasRequired.mp nothing)
  fields_of_not_isObject := by
    intro value other
    rw [← Manifest.missingFields_eq, Manifest.missingFields_of_not_isObject other]
    rfl

/-- A stream of an object without two fields and a text that is no document. -/
def brokenStream : SourceFile := ⟨"a.yaml", .yaml, "kind: ~\n---\n[\n"⟩

/-- A stream of a whole object, a row and an object without two fields. -/
def mixedStream : SourceFile :=
  ⟨"a.yaml", .yaml, "apiVersion: ~\nkind: ~\nmetadata: ~\n---\n- a\n---\nkind: ~\n"⟩

/-- The one is not read at all, and of the other the row is reported. -/
theorem ofManifest_brokenStream_mixedStream :
    (∃ fault, ofManifest brokenStream = .error (.manifest (.notYaml fault))) ∧
      ofManifest mixedStream =
        .error (.manifest (.missing 1 ["apiVersion", "kind", "metadata"])) := by
  constructor
  · rw [(@ofManifest_allOrNothing brokenStream (by decide)).notYaml_iff,
      ← Yaml.exists_values_eq_error_iff]
    cases read : Yaml.values brokenStream.content with
    | error fault => exact ⟨fault, rfl⟩
    | ok values =>
        have broken : (Yaml.values brokenStream.content).toOption.isNone := by decide +kernel
        rw [read] at broken
        contradiction
  · have lacking : (Yaml.values mixedStream.content).map (·.map Manifest.missingFields) =
        .ok [[], requiredFields, ["apiVersion", "metadata"]] := by decide +kernel
    obtain ⟨values, read, mapped⟩ := map_eq_ok_iff.mp lacking
    obtain ⟨first, rest, rfl, whole, mapped⟩ := List.map_eq_cons_iff.mp mapped
    obtain ⟨row, last, rfl, lacksAll, -⟩ := List.map_eq_cons_iff.mp mapped
    have stream := @ofManifest_allOrNothing mixedStream (by decide)
    refine (stream.missing_iff _ (Yaml.values_eq_ok_iff.mp read) 1 _).mpr
      ⟨[first], row, last, rfl, rfl, ?_, ?_, ?_⟩
    · simpa using Manifest.missingFields_eq_nil_iff_hasRequired.mp whole
    · rw [← Manifest.missingFields_eq_nil_iff_hasRequired, lacksAll]
      decide
    · rw [← Manifest.missingFields_eq, lacksAll]
      rfl

end Document
end PolicyScan
