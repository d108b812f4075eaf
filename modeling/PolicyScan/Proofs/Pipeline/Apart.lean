import Mathlib.Data.List.Nodup
import PolicyScan.Proofs.Loader
import PolicyScan.Proofs.Pipeline
import PolicyScan.Proofs.Report.Header

/-!
# Results told apart

Files are loaded under different paths, and the documents of a file have different
numbers.  So no document is reported twice, and the texts of a report tell them apart:
the lines above the violations, as far as the paths look different to a reader, and
the reasons for which documents are set aside (`run_toldApart`).
-/

namespace PolicyScan.Pipeline

open Scan (verdict passed setAside asideEntry)
open Report (headerText)

/-! ## Documents of different files -/

section

variable {files : List SourceFile} {engines : Domain → Engine}

/-- Just the documents of manifests are numbered. -/
theorem index?_eq_none_iff {d : Document} (member : d ∈ documentsOf files) :
    d.index? = none ↔ d.domain = .terraform := by
  obtain ⟨file, -, member⟩ := List.mem_flatMap.mp member
  obtain ⟨documents, parsed, member⟩ := Batch.mem_documentsOf_iff.mp member
  exact Document.index?_eq_none_iff parsed member

/-- A document of a manifest is the object with its number. -/
theorem exists_object {d : Document} (member : d ∈ documentsOf files)
    (isKubernetes : d.file.kind.domain = .kubernetes) :
    ∃ values index, Manifest.objects d.file.content = .ok values ∧
      values[index]? = some d.value ∧ d.index? = some index := by
  obtain ⟨file, -, inFile⟩ := List.mem_flatMap.mp member
  obtain ⟨documents, parsed, inDocuments⟩ := Batch.mem_documentsOf_iff.mp inFile
  obtain ⟨rfl, -⟩ := Document.of_mem_ofFile parsed inDocuments
  rw [Document.ofFile, isKubernetes] at parsed
  exact Document.exists_object_of_mem_ofManifest parsed inDocuments

/-- A file is known by the parts of its path. -/
theorem file_eq_of_steps_eq (distinct : (files.map fun file => file.rawPath.steps).Nodup)
    {file other : SourceFile} (member : file ∈ files) (otherMember : other ∈ files)
    (same : file.rawPath.steps = other.rawPath.steps) : file = other :=
  List.inj_on_of_nodup_map distinct member otherMember same

/-- No two documents have the same number in files under the same path. -/
theorem documentsOf_pairwise (distinct : (files.map fun file => file.rawPath.steps).Nodup) :
    (documentsOf files).Pairwise fun d e =>
      d.file.rawPath.steps = e.file.rawPath.steps → d.index? ≠ e.index? := by
  refine List.pairwise_flatMap.mpr ⟨fun file _ => ?_, ?_⟩
  · rw [Batch.documentsOf]
    split
    · next documents parsed =>
        refine (Document.pairwise_index?_ne parsed).imp ?_
        intro d e differ _
        exact differ
    · exact .nil
  · refine (List.pairwise_map.mp distinct).imp fun differ d inFirst e inSecond same => ?_
    obtain ⟨_, parsed, inFirst⟩ := Batch.mem_documentsOf_iff.mp inFirst
    obtain ⟨_, otherParsed, inSecond⟩ := Batch.mem_documentsOf_iff.mp inSecond
    rw [(Document.of_mem_ofFile parsed inFirst).1,
      (Document.of_mem_ofFile otherParsed inSecond).1] at same
    exact absurd same differ

/-- Documents of one manifest are set aside for different reasons. -/
theorem setAside_pairwise (distinct : (files.map fun file => file.rawPath.steps).Nodup) :
    (setAside (verdict engines) (documentsOf files)).Pairwise fun entry other =>
      entry.file.rawPath.steps = other.file.rawPath.steps → entry.reason ≠ other.reason := by
  refine List.pairwise_filterMap.mpr ?_
  refine ((documentsOf_pairwise distinct).imp_of_mem ?_)
  intro d e member otherMember differ entry found other otherFound same
  obtain ⟨failure, -, rfl⟩ := Option.map_eq_some_iff.mp found
  obtain ⟨otherFailure, -, rfl⟩ := Option.map_eq_some_iff.mp otherFound
  have indicesDiffer := differ same
  have sameFile : d.file = e.file :=
    file_eq_of_steps_eq distinct (of_mem_documentsOf member).1 (of_mem_documentsOf otherMember).1
      same
  have sameDomain : d.domain = e.domain := by
    rw [(of_mem_documentsOf member).2.1, (of_mem_documentsOf otherMember).2.1, sameFile]
  intro sameReason
  cases numbered : d.index? with
  | none =>
      have otherNumbered : e.index? = none := by
        rw [index?_eq_none_iff otherMember, ← sameDomain, ← index?_eq_none_iff member, numbered]
      exact indicesDiffer (numbered.trans otherNumbered.symm)
  | some index =>
      cases otherNumbered : e.index? with
      | none =>
          rw [index?_eq_none_iff otherMember, ← sameDomain, ← index?_eq_none_iff member,
            numbered] at otherNumbered
          cases otherNumbered
      | some otherIndex =>
          have read := Scan.documentNumber?_reason numbered (.evaluation d.file.path failure)
          change documentNumber? (asideEntry d failure).reason = some index at read
          rw [sameReason, asideEntry, Scan.documentNumber?_reason otherNumbered] at read
          exact indicesDiffer (numbered.trans (read.symm.trans otherNumbered.symm))

/-- What is not scanned of files under different paths: a file that cannot be parsed has no
documents. -/
theorem unscanned_pairwise (distinct : (files.map fun file => file.rawPath.steps).Nodup) :
    (files.filterMap Batch.unparsed? ++
      setAside (verdict engines) (documentsOf files)).Pairwise fun entry other =>
        entry.file.rawPath.steps = other.file.rawPath.steps → entry.reason ≠ other.reason := by
  refine List.pairwise_append.mpr ⟨?_, setAside_pairwise distinct, ?_⟩
  · refine List.pairwise_filterMap.mpr ((List.pairwise_map.mp distinct).imp ?_)
    intro file other differ entry found otherEntry otherFound same
    obtain ⟨_, -, rfl⟩ := Batch.unparsed?_eq_some_iff.mp found
    obtain ⟨_, -, rfl⟩ := Batch.unparsed?_eq_some_iff.mp otherFound
    exact absurd same differ
  · intro entry unparsed other aside (same : entry.file.rawPath.steps = _)
    obtain ⟨file, member, found⟩ := List.mem_filterMap.mp unparsed
    obtain ⟨_, failed, rfl⟩ := Batch.unparsed?_eq_some_iff.mp found
    obtain ⟨d, isDocument, _, -, rfl⟩ := Scan.mem_setAside_iff.mp aside
    obtain ⟨otherMember, -, _, parsed⟩ := of_mem_documentsOf isDocument
    have sameFile : file = d.file := file_eq_of_steps_eq distinct member otherMember same
    rw [sameFile, parsed] at failed
    cases failed

/-- An entry without an error of its file is about an object on which the engine fails, and
its reason ends with the number of the object. -/
theorem exists_failure_of_mem_unscanned {entry : Unscanned}
    (member : entry ∈ files.filterMap Batch.unparsed? ++
      setAside (verdict engines) (documentsOf files))
    (noError : entry.error? = none) (isKubernetes : entry.file.kind.domain = .kubernetes) :
    ∃ values index value failure, Manifest.objects entry.file.content = .ok values ∧
      values[index]? = some value ∧ (engines .kubernetes).evaluate value = .error failure ∧
      documentNumber? entry.reason = some index := by
  rcases List.mem_append.mp member with unparsed | aside
  · obtain ⟨file, -, found⟩ := List.mem_filterMap.mp unparsed
    obtain ⟨_, -, rfl⟩ := Batch.unparsed?_eq_some_iff.mp found
    cases noError
  · obtain ⟨d, isDocument, failure, failed, rfl⟩ := Scan.mem_setAside_iff.mp aside
    obtain ⟨values, index, objectsEq, there, numbered⟩ := exists_object isDocument isKubernetes
    have domain : d.domain = .kubernetes :=
      (of_mem_documentsOf isDocument).2.1.trans isKubernetes
    refine ⟨values, index, d.value, failure, objectsEq, there, ?_,
      Scan.documentNumber?_reason numbered _⟩
    rw [← domain]
    exact failed

end

/-! ## A run with results -/

section

variable {store : FileStore} {path : String} {options : ScanOptions} {results : Results}

/-- Results are the verdicts of the engines on the documents of the files that are
loaded. -/
theorem exists_of_run_eq_ok (done : run store path options = .ok results) :
    ∃ files engines, Loader.load store path options.depth = .ok files ∧
      (∀ domain,
        Artifacts.load ⟨options.directory⟩ store options.entrypoint domain =
          .ok (engines domain)) ∧
      results.scanned = passed (verdict engines) 0 (documentsOf files) ∧
      results.unscanned =
        files.filterMap Batch.unparsed? ++ setAside (verdict engines) (documentsOf files) := by
  obtain ⟨_, -, done⟩ := bind_eq_ok_iff.mp done
  obtain ⟨files, loaded, done⟩ := bind_eq_ok_iff.mp done
  obtain ⟨batch, parsed, done⟩ := bind_eq_ok_iff.mp done
  obtain ⟨⟨scanned, failed⟩, scanEq, done⟩ := bind_eq_ok_iff.mp done
  have batchEq := Batch.eq_ofFiles_of_parse (mapError_eq_ok_iff.mp parsed)
  rw [Batch.ofFiles_eq] at batchEq
  subst batchEq
  obtain ⟨engines, given, rfl, rfl, -⟩ := exists_of_scan_eq_ok (mapError_eq_ok_iff.mp scanEq)
  cases done
  exact ⟨files, engines, mapError_eq_ok_iff.mp loaded, given, rfl, rfl⟩

/-- The results of a run tell all documents apart. -/
structure ToldApart (store : FileStore) (options : ScanOptions) (results : Results) : Prop where
  /-- Paths are compared part by part. -/
  scanned : results.scanned.Pairwise fun s t =>
    s.document.file.rawPath.steps = t.document.file.rawPath.steps →
      s.document.index? ≠ t.document.index?
  /-- The line above the violations of each document stands in the report, ... -/
  printed : ∀ s ∈ results.scanned, ∀ threshold colour,
    (headerText colour s.document).toList <:+:
      (Report.text results .plain threshold colour).toList
  /-- ... is one line unless the path holds a line feed, ... -/
  one_line : ∀ s ∈ results.scanned, '\n' ∉ s.document.file.path.toList → ∀ colour,
    ∃ line, '\n' ∉ line ∧ (headerText colour s.document).toList = '\n' :: (line ++ ['\n'])
  /-- ... and is the same for two documents only if bytes that are no text make the
  paths look the same. -/
  headers : results.scanned.Pairwise fun s t => ∀ colour,
    headerText colour s.document = headerText colour t.document →
      s.document.file.path = t.document.file.path ∧
        s.document.index? = t.document.index? ∧
        ¬(s.document.file.rawPath.IsText ∧ t.document.file.rawPath.IsText)
  unscanned : results.unscanned.Pairwise fun entry other =>
    entry.file.rawPath.steps = other.file.rawPath.steps → entry.reason ≠ other.reason
  /-- What is not scanned of a manifest that can be parsed is a document that its
  engine fails on, and the reason ends with its number. -/
  numbered : ∀ entry ∈ results.unscanned, entry.error? = none →
    entry.file.kind.domain = .kubernetes →
    ∃ engine values index value failure,
      Artifacts.load ⟨options.directory⟩ store options.entrypoint .kubernetes = .ok engine ∧
      Manifest.objects entry.file.content = .ok values ∧ values[index]? = some value ∧
      engine.evaluate value = .error failure ∧ documentNumber? entry.reason = some index

theorem run_toldApart (done : run store path options = .ok results) :
    ToldApart store options results := by
  obtain ⟨files, engines, loaded, given, scannedEq, unscannedEq⟩ := exists_of_run_eq_ok done
  have distinct := Loader.nodup_steps_of_load loaded
  have ofScanned (s : Scanned) (member : s ∈ results.scanned) : s.document ∈ documentsOf files :=
    List.mem_of_getElem? (Scan.of_mem_passed (scannedEq ▸ member)).1
  have scanned : results.scanned.Pairwise fun s t =>
      s.document.file.rawPath.steps = t.document.file.rawPath.steps →
        s.document.index? ≠ t.document.index? := by
    rw [scannedEq]
    exact List.pairwise_map.mp
      ((documentsOf_pairwise distinct).sublist (Scan.passed_documents_sublist _ 0))
  constructor
  case scanned => exact scanned
  case printed => exact fun s member => Report.headerText_infix member
  case one_line => exact fun s _ noFeed => Report.exists_line noFeed
  case headers =>
    refine scanned.imp_of_mem ?_
    intro s t member otherMember differ colour same
    obtain ⟨samePath, sameIndex, -⟩ :=
      (Report.headerText_inj (index?_eq_none_iff (ofScanned s member))
        (index?_eq_none_iff (ofScanned t otherMember))).mp same
    refine ⟨samePath, sameIndex, fun ⟨isText, otherIsText⟩ => ?_⟩
    exact differ (congrArg RawPath.steps (RawPath.eq_of_text_eq isText otherIsText samePath))
      sameIndex
  case unscanned =>
    rw [unscannedEq]
    exact unscanned_pairwise distinct
  case numbered =>
    intro entry member noError isKubernetes
    rw [unscannedEq] at member
    obtain ⟨values, index, value, failure, objectsEq, there, failed, number⟩ :=
      exists_failure_of_mem_unscanned member noError isKubernetes
    exact ⟨engines .kubernetes, values, index, value, failure, given _, objectsEq, there, failed,
      number⟩

end

/-- How the files of a directory are scanned here. -/
def isolatedScan : ScanOptions := ⟨"p", 6, Engine.defaultEntrypoint, true⟩

/-- A policy that gives a field of a manifest where its violations should be, if it is
there. -/
def specPolicy : String := "package rules\ndeny := input.spec"

/-- A manifest of two documents, of which the policy fails on the first, and a file
that cannot be parsed. -/
def failingManifest : FileStore :=
  storeOf [("p/k8s_policy.rego", specPolicy), ("p/k8s_data.json", "\x7b\x7d"),
    ("p/tf_policy.rego", specPolicy), ("p/tf_data.json", "\x7b\x7d"),
    ("c/a (document 7).yaml", "\x7bapiVersion: v1, kind: A, metadata: , spec: b\x7d\n---\n" ++
      "\x7bapiVersion: v1, kind: A, metadata: \x7d"),
    ("c/c.yml", "[]")]

theorem run_toldApart_failingManifest :
    ∃ results, run failingManifest "c" isolatedScan = .ok results ∧
      (results.scanned.map fun s => headerText false s.document) =
        ["\nTesting c/a (document 7).yaml (document 1) [kubernetes]\n"] ∧
      (results.unscanned.map fun entry => (entry.file.path, documentNumber? entry.reason)) =
        [("c/c.yml", none), ("c/a (document 7).yaml", some 0)] ∧
      ToldApart failingManifest isolatedScan results := by
  have evaluated :
      (run failingManifest "c" isolatedScan).toOption.map (fun results =>
        (results.scanned.map fun s => headerText false s.document,
          results.unscanned.map fun entry => (entry.file.path, documentNumber? entry.reason))) =
        some (["\nTesting c/a (document 7).yaml (document 1) [kubernetes]\n"],
          [("c/c.yml", none), ("c/a (document 7).yaml", some 0)]) := by
    decide +kernel
  cases done : run failingManifest "c" isolatedScan with
  | error error =>
      rw [done] at evaluated
      contradiction
  | ok results =>
      rw [done] at evaluated
      have lists := Option.some.inj evaluated
      exact ⟨results, rfl, congrArg Prod.fst lists, congrArg Prod.snd lists, run_toldApart done⟩

/-! ## Lines that are the same -/

/-- A store with policies for both domains and Terraform files without content. -/
def emptyFiles (paths : List RawPath) : FileStore :=
  paths.foldl (fun store path => store.insert (store.placeOf path) (.file []))
    (storeOf [("p/k8s_policy.rego", kindPolicy), ("p/k8s_data.json", "\x7b\x7d"),
      ("p/tf_policy.rego", kindPolicy), ("p/tf_data.json", "\x7b\x7d")])

/-- Two files whose names are no text look the same in a report.  A line feed in a name
makes two lines out of one, and the second can be that of another file. -/
theorem headers_coincide :
    ((run (emptyFiles [⟨[0x63, 0x2F, 0xFE, 0x2E, 0x74, 0x66]⟩,
        ⟨[0x63, 0x2F, 0xFF, 0x2E, 0x74, 0x66]⟩]) "c" isolatedScan).toOption.map fun results =>
      results.scanned.map fun s => headerText false s.document) =
      some ["\nTesting c/\ufffd.tf [terraform]\n", "\nTesting c/\ufffd.tf [terraform]\n"] ∧
    ((run (emptyFiles ["c/a.tf", "c/b [terraform]\nTesting c/a.tf"]) "c"
        isolatedScan).toOption.map fun results =>
      (Text.lines (Report.text results .plain .low false).toList).filter fun line =>
        "Testing ".toList.isPrefixOf line) =
      some ["Testing c/a.tf [terraform]".toList, "Testing c/b [terraform]".toList,
        "Testing c/a.tf [terraform]".toList] :=
  ⟨by decide +kernel, by decide +kernel⟩

end PolicyScan.Pipeline
