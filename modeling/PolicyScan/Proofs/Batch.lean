import PolicyScan.Pipeline
import PolicyScan.Proofs.Outcome

/-!
# Batches of files

A batch holds the documents of the files that can be parsed, in their order, and an
entry for each file that cannot (`ofFiles_eq`).  Only a file alone can end a batch
with its error (`parse_eq_error_iff`).  So batches of other sizes can be taken apart
and put together, and no file matters for what is reported of the others
(`parse_filewise`).

The documents of a file belong to it and to its domain, and the reason for which a
file is not parsed is never empty.
-/

namespace PolicyScan

/-! ## Documents of one file -/

namespace Document

variable {file : SourceFile} {documents : List Document} {d : Document}

/-- A document has the file it comes from and the domain of the file's kind. -/
theorem of_mem_ofFile (parsed : ofFile file = .ok documents) (member : d ∈ documents) :
    d.file = file ∧ d.domain = file.kind.domain := by
  unfold ofFile at parsed
  split at parsed
  · next isKubernetes =>
      obtain ⟨values, -, done⟩ := bind_eq_ok_iff.mp parsed
      cases done
      obtain ⟨⟨value, index⟩, -, rfl⟩ := List.mem_map.mp member
      exact ⟨rfl, isKubernetes.symm⟩
  · next isTerraform =>
      obtain ⟨value, -, done⟩ := bind_eq_ok_iff.mp parsed
      cases done
      rw [List.mem_singleton.mp member]
      exact ⟨rfl, isTerraform.symm⟩

/-- The documents of a manifest are its objects, which stand at the numbers that
the documents have. -/
theorem exists_object_of_mem_ofManifest (parsed : ofManifest file = .ok documents)
    (member : d ∈ documents) : ∃ values index, Manifest.objects file.content = .ok values ∧
      values[index]? = some d.value ∧ d.index? = some index := by
  obtain ⟨values, objectsEq, done⟩ := bind_eq_ok_iff.mp parsed
  cases done
  obtain ⟨⟨value, index⟩, indexed, rfl⟩ := List.mem_map.mp member
  exact ⟨values, index, mapError_eq_ok_iff.mp objectsEq, List.mem_zipIdx_iff_getElem?.mp indexed,
    rfl⟩

/-- Just the documents of manifests are numbered. -/
theorem index?_eq_none_iff (parsed : ofFile file = .ok documents) (member : d ∈ documents) :
    d.index? = none ↔ d.domain = .terraform := by
  obtain ⟨-, domain⟩ := of_mem_ofFile parsed member
  unfold ofFile at parsed
  split at parsed
  · next isKubernetes =>
      obtain ⟨_, index, -, -, numbered⟩ := exists_object_of_mem_ofManifest parsed member
      rw [numbered, domain, isKubernetes]
      simp
  · next isTerraform =>
      obtain ⟨value, -, done⟩ := bind_eq_ok_iff.mp parsed
      cases done
      rw [List.mem_singleton.mp member]
      simp

/-- No two documents of a file have the same number. -/
theorem pairwise_index?_ne (parsed : ofFile file = .ok documents) :
    documents.Pairwise fun d e => d.index? ≠ e.index? := by
  unfold ofFile at parsed
  split at parsed
  · obtain ⟨values, -, done⟩ := bind_eq_ok_iff.mp parsed
    cases done
    rw [List.pairwise_map]
    have ascending : (values.zipIdx.map Prod.snd).Pairwise (· < ·) := by
      rw [List.zipIdx_map_snd]
      exact List.pairwise_lt_range'
    refine (List.pairwise_map.mp ascending).imp fun before same => ?_
    exact Nat.ne_of_lt before (Option.some.inj same)
  · obtain ⟨value, -, done⟩ := bind_eq_ok_iff.mp parsed
    cases done
    exact List.pairwise_singleton _ _

end Document

theorem append_ne_empty {text : String} (nonempty : text ≠ "") (rest : String) :
    text ++ rest ≠ "" :=
  fun empty => nonempty (String.append_eq_empty_iff.mp empty).1

/-- The words of an error begin with what kind of file is refused. -/
theorem ParseError.message_ne_empty (error : ParseError) : error.message ≠ "" := by
  cases error with
  | manifest refusal =>
      cases refusal with
      | notYaml fault => exact append_ne_empty (by decide) _
      | missing index fields =>
          exact append_ne_empty (append_ne_empty (append_ne_empty (by decide) _) _) _
  | terraform fault => exact append_ne_empty (by decide) _
  | unsupported name => exact append_ne_empty (by decide) _

/-! ## The files of a batch -/

namespace Batch

/-- The documents of a file; none if it cannot be parsed. -/
def documentsOf (file : SourceFile) : List Document :=
  match Document.ofFile file with
  | .ok documents => documents
  | .error _ => []

/-- The entry of a file that cannot be parsed. -/
def unparsed? (file : SourceFile) : Option Unscanned :=
  match Document.ofFile file with
  | .ok _ => none
  | .error error => some ⟨file, error.message, some error⟩

variable {file : SourceFile} {files : List SourceFile} {d : Document} {entry : Unscanned}

theorem mem_documentsOf_iff :
    d ∈ documentsOf file ↔ ∃ documents, Document.ofFile file = .ok documents ∧ d ∈ documents := by
  rw [documentsOf]
  cases Document.ofFile file <;> simp

theorem unparsed?_eq_some_iff :
    unparsed? file = some entry ↔
      ∃ error, Document.ofFile file = .error error ∧ entry = ⟨file, error.message, some error⟩ := by
  rw [unparsed?]
  cases Document.ofFile file <;> simp [eq_comm]

theorem add_ofFile (batch : Batch) (file : SourceFile) :
    batch.add file (Document.ofFile file) =
      ⟨batch.documents ++ documentsOf file, batch.failed ++ (unparsed? file).toList⟩ := by
  rw [documentsOf, unparsed?]
  cases Document.ofFile file <;> simp [add]

/-- A batch has the documents of its files and the entries of those that have none. -/
theorem ofFiles_eq (files : List SourceFile) :
    ofFiles files = ⟨files.flatMap documentsOf, files.filterMap unparsed?⟩ := by
  have fold (batch : Batch) :
      files.foldl (fun batch file => batch.add file (Document.ofFile file)) batch =
        ⟨batch.documents ++ files.flatMap documentsOf,
          batch.failed ++ files.filterMap unparsed?⟩ := by
    induction files generalizing batch with
    | nil => simp
    | cons file rest ih =>
        rw [List.foldl_cons, ih, add_ofFile]
        cases found : unparsed? file <;> simp [found]
  exact fold ⟨[], []⟩

/-- A batch ends with an error only for a file alone. -/
theorem parse_eq_error_iff {error : ParseError} :
    parse files = .error (file, error) ↔ files = [file] ∧ Document.ofFile file = .error error := by
  unfold parse
  split
  · next only =>
      cases parsed : Document.ofFile only with
      | ok documents =>
          simp only [reduceCtorEq, false_iff, not_and]
          rintro ⟨⟩
          simp [parsed]
      | error found =>
          simp only [Except.error.injEq, Prod.mk.injEq, List.cons.injEq, and_true]
          constructor
          · rintro ⟨rfl, rfl⟩
            exact ⟨rfl, parsed⟩
          · rintro ⟨rfl, failed⟩
            exact ⟨rfl, Except.error.inj (parsed.symm.trans failed)⟩
  · next several =>
      simp only [reduceCtorEq, false_iff, not_and]
      rintro rfl
      exact absurd rfl (several file)

/-- Otherwise it accounts for all files. -/
theorem eq_ofFiles_of_parse {batch : Batch} (parsed : parse files = .ok batch) :
    batch = ofFiles files := by
  unfold parse at parsed
  split at parsed
  · next only =>
      split at parsed
      · next documents documentsEq =>
          cases parsed
          simp [ofFiles, add, documentsEq]
      · cases parsed
  · exact (Except.ok.inj parsed).symm

/-- A batch of any size but one has an outcome without error. -/
theorem parse_of_length_ne_one (several : files.length ≠ 1) :
    parse files = .ok (ofFiles files) := by
  cases parsed : parse files with
  | ok batch => rw [eq_ofFiles_of_parse parsed]
  | error failure =>
      obtain ⟨rfl, -⟩ := parse_eq_error_iff.mp parsed
      exact absurd rfl several

theorem parse_eq_ok_iff {batch : Batch} :
    parse files = .ok batch ↔
      (∀ file error, files = [file] → Document.ofFile file ≠ .error error) ∧
        batch = ofFiles files := by
  constructor
  · intro parsed
    refine ⟨fun file error single failed => ?_, eq_ofFiles_of_parse parsed⟩
    rw [parse_eq_error_iff.mpr ⟨single, failed⟩] at parsed
    cases parsed
  · rintro ⟨noError, rfl⟩
    cases parsed : parse files with
    | ok batch => rw [eq_ofFiles_of_parse parsed]
    | error failure =>
        obtain ⟨single, failed⟩ := parse_eq_error_iff.mp parsed
        exact absurd failed (noError _ _ single)

/-- The batch of two rows of files is that of the first before that of the second. -/
theorem ofFiles_append (files others : List SourceFile) :
    ofFiles (files ++ others) =
      ⟨(ofFiles files).documents ++ (ofFiles others).documents,
        (ofFiles files).failed ++ (ofFiles others).failed⟩ := by
  simp only [ofFiles_eq, List.flatMap_append, List.filterMap_append]

theorem ofFiles_cons (file : SourceFile) (files : List SourceFile) :
    ofFiles (file :: files) =
      ⟨documentsOf file ++ (ofFiles files).documents,
        (unparsed? file).toList ++ (ofFiles files).failed⟩ := by
  rw [ofFiles_eq, ofFiles_eq, List.flatMap_cons]
  cases found : unparsed? file <;> simp [found]

/-! ## What a batch comes to -/

/-- What a batch of files comes to. -/
structure Filewise (files : List SourceFile) : Prop where
  /-- There is an error exactly for a file alone that cannot be parsed, and it is the
  file's own, with its path. -/
  error_iff : ∀ error : PipelineError,
    ((parse files).mapError fun (file, cause) => .parse file.path cause) = .error error ↔
      ∃ file cause, files = [file] ∧ Document.ofFile file = .error cause ∧
        error = .parse file.path cause
  /-- Otherwise there are the documents of the files that can be parsed and the entries
  of those that cannot, both in the order of the files. -/
  ok_iff : ∀ batch, parse files = .ok batch ↔
    (∀ file cause, files = [file] → Document.ofFile file ≠ .error cause) ∧
      batch.documents = files.flatMap documentsOf ∧ batch.failed = files.filterMap unparsed?
  /-- An entry has the file as it is, its error and the words of the error. -/
  of_mem_failed : ∀ batch, parse files = .ok batch → ∀ entry ∈ batch.failed,
    entry.file ∈ files ∧ ∃ cause, Document.ofFile entry.file = .error cause ∧
      entry.error? = some cause ∧ entry.reason = cause.message ∧ entry.reason ≠ ""
  /-- The batch of two rows of files is that of the first before that of the second. -/
  append : files.length ≠ 1 → ∀ others : List SourceFile, others.length ≠ 1 →
    (files ++ others).length ≠ 1 →
      ∃ first second, parse files = .ok first ∧ parse others = .ok second ∧
        parse (files ++ others) =
          .ok ⟨first.documents ++ second.documents, first.failed ++ second.failed⟩
  /-- Whatever file stands between others, the same is reported of these. -/
  apart : ∀ before after, files = before ++ after → files ≠ [] →
    ∃ first second : Batch, ∀ file, parse (before ++ file :: after) =
      .ok ⟨first.documents ++ (documentsOf file ++ second.documents),
        first.failed ++ ((unparsed? file).toList ++ second.failed)⟩

/-- A batch is made file by file, and only a file alone ends it with its error. -/
theorem parse_filewise (files : List SourceFile) : Filewise files where
  error_iff := by
    intro error
    rw [mapError_eq_error_iff]
    constructor
    · rintro ⟨⟨file, cause⟩, failed, rfl⟩
      obtain ⟨single, failed⟩ := parse_eq_error_iff.mp failed
      exact ⟨file, cause, single, failed, rfl⟩
    · rintro ⟨file, cause, single, failed, rfl⟩
      exact ⟨(file, cause), parse_eq_error_iff.mpr ⟨single, failed⟩, rfl⟩
  ok_iff := by
    rintro ⟨documents, failed⟩
    rw [parse_eq_ok_iff, ofFiles_eq, Batch.mk.injEq]
  of_mem_failed := by
    intro batch parsed entry member
    rw [eq_ofFiles_of_parse parsed, ofFiles_eq] at member
    obtain ⟨file, fileMember, found⟩ := List.mem_filterMap.mp member
    obtain ⟨cause, failed, rfl⟩ := unparsed?_eq_some_iff.mp found
    exact ⟨fileMember, cause, failed, rfl, rfl, cause.message_ne_empty⟩
  append := by
    intro filesSize others othersSize size
    refine ⟨ofFiles files, ofFiles others, parse_of_length_ne_one filesSize,
      parse_of_length_ne_one othersSize, ?_⟩
    rw [parse_of_length_ne_one size, ofFiles_append]
  apart := by
    rintro before after rfl nonempty
    refine ⟨ofFiles before, ofFiles after, fun file => ?_⟩
    have several : (before ++ file :: after).length ≠ 1 := by
      have := List.length_pos_iff.mpr nonempty
      rw [List.length_append] at this
      rw [List.length_append, List.length_cons]
      omega
    rw [parse_of_length_ne_one several, ofFiles_append, ofFiles_cons]

end Batch
end PolicyScan
