import PolicyScan.Proofs.EngineCache.Request
import PolicyScan.Proofs.Hcl.Labels
import PolicyScan.Proofs.Hcl.Value
import PolicyScan.Proofs.Json.Compact
import PolicyScan.Proofs.Yaml.Value

/-!
# Handing documents over to engines

A document reaches an engine as its compact text.  A document of whole numbers
arrives as it is if it is nested less than `Json.nestingLimit` deep; then the
engine fails on it only through its rules or their result.  A deeper one is
refused by the reader, and a fatal scan with it fails.

Manifests may be nested one collection deeper than the reader accepts, and a
block of Terraform as deep as it has labels.
-/

namespace PolicyScan

/-! ## Accepted documents -/

namespace Document

variable {file : SourceFile} {documents : List Document} {d : Document}

theorem exists_of_mem_ofManifest (accepted : ofManifest file = .ok documents)
    (member : d ∈ documents) :
    ∃ values, Manifest.objects file.content = .ok values ∧ d.value ∈ values ∧
      d.domain = .kubernetes := by
  obtain ⟨values, valuesEq, done⟩ := bind_eq_ok_iff.mp accepted
  cases done
  obtain ⟨⟨value, index⟩, entry, rfl⟩ := List.mem_map.mp member
  exact ⟨values, mapError_eq_ok_iff.mp valuesEq, List.fst_mem_of_mem_zipIdx entry, rfl⟩

theorem fits_of_mem_objects {text : String} {values : List Json} {v : Json}
    (accepted : Manifest.objects text = .ok values) (member : v ∈ values) :
    Yaml.Node.Fits Yaml.nestingLimit v := by
  unfold Manifest.objects at accepted
  split at accepted
  · obtain ⟨read, readEq, accepted⟩ := bind_eq_ok_iff.mp accepted
    obtain ⟨-, -, done⟩ := bind_eq_ok_iff.mp accepted
    cases done
    exact Yaml.fits_of_mem_values (mapError_eq_ok_iff.mp readEq) member
  · cases accepted
    contradiction

theorem canonical_of_mem_ofTerraform (accepted : ofTerraform file = .ok documents)
    (member : d ∈ documents) : d.value.Canonical ∧ d.domain = .terraform := by
  obtain ⟨value, valueEq, done⟩ := bind_eq_ok_iff.mp accepted
  cases done
  rw [List.mem_singleton.mp member]
  exact ⟨Hcl.canonical_of_value (mapError_eq_ok_iff.mp valueEq), rfl⟩

/-- Accepted documents are canonical, and manifests nested no deeper than YAML
allows. -/
theorem canonical_of_mem_ofFile (accepted : ofFile file = .ok documents)
    (member : d ∈ documents) :
    d.value.Canonical ∧ (d.domain = .kubernetes → d.value.depth ≤ Yaml.nestingLimit) := by
  unfold ofFile at accepted
  split at accepted
  · obtain ⟨values, objects, valueMember, -⟩ := exists_of_mem_ofManifest accepted member
    obtain ⟨canonical, depth⟩ := fits_of_mem_objects objects valueMember
    exact ⟨canonical, fun _ => depth⟩
  · obtain ⟨canonical, domain⟩ := canonical_of_mem_ofTerraform accepted member
    refine ⟨canonical, fun isKubernetes => ?_⟩
    rw [domain] at isKubernetes
    contradiction

/-- A Terraform file of one block with `n` labels. -/
def blockFile (n : Nat) : SourceFile := ⟨"main.tf", .tf, Hcl.blockText n⟩

/-- The document of the block. -/
def ofBlock (n : Nat) : Document := ⟨blockFile n, Hcl.nested (n + 1), .terraform, none⟩

/-- Such a file is accepted, and its document nested deeper than it has labels. -/
theorem ofFile_blockFile (n : Nat) :
    ofFile (blockFile n) = .ok [ofBlock n] ∧ (ofBlock n).value.depth = n + 2 := by
  refine ⟨?_, Hcl.nested_depth (n + 1)⟩
  change ofTerraform (blockFile n) = _
  rw [ofTerraform, blockFile, Hcl.value_blockText]
  rfl

end Document

/-! ## The answer of an engine -/

namespace Engine

/-- The violations of a document that has been read as an input. -/
def answer (engine : Engine) (input : Json) : Except Failure (List Violation) := do
  match ← engine.value input with
  | some value => violationsOf engine.entrypoint value
  | none => return []

theorem evaluate_eq (engine : Engine) (document : Json) :
    engine.evaluate document = inputOf document >>= engine.answer := rfl

/-- The reason for which the reader refuses what is nested too deep. -/
def TooDeep (reason : String) : Prop :=
  ∃ line column : Nat, reason =
    "recursion limit exceeded" ++ " at line " ++ toString line ++ " column " ++ toString column

/-- A canonical document of whole numbers arrives as it is or is refused for its
depth. -/
theorem inputOf_cases {document : Json} (ints : document.AllInts)
    (canonical : document.Canonical) :
    document.depth < Json.nestingLimit ∧ inputOf document = .ok document ∨
      Json.nestingLimit ≤ document.depth ∧
        ∃ reason, TooDeep reason ∧ inputOf document = .error (.input reason) := by
  have read := Json.ofChars?_compactChars ints canonical
  rw [inputOf, Json.parse, Json.compact, String.toList_ofList]
  rcases read with ⟨fits, read⟩ | ⟨deep, place, read⟩
  · refine .inl ⟨fits, ?_⟩
    rw [read]
    rfl
  · refine .inr ⟨deep, (Json.Fault.next .nestedTooDeep place).report (Json.compactChars document),
      ⟨_, _, rfl⟩, ?_⟩
    rw [read]
    rfl

/-- Once a document is read, no failure is about its text. -/
theorem answer_ne_input (engine : Engine) (input : Json) (reason : String) :
    engine.answer input ≠ .error (.input reason) := by
  intro failed
  rcases bind_eq_error_iff.mp failed with failed | ⟨value?, -, failed⟩
  · obtain ⟨fault, -, equal⟩ := mapError_eq_error_iff.mp failed
    cases equal
  · cases value? with
    | none => cases failed
    | some value =>
        simp only [violationsOf] at failed
        split at failed
        · obtain ⟨cause, -, equal⟩ := mapError_eq_error_iff.mp failed
          cases equal
        · cases failed

end Engine

namespace Scan

open EngineCache (Source)

theorem collect_eq_error {position : Nat}
    {outcomes : List (Document × Except ScanError (List Violation))} {d : Document}
    {error : ScanError} (member : (d, .error error) ∈ outcomes) :
    ∃ first, collect position outcomes = .error first := by
  induction outcomes generalizing position with
  | nil => contradiction
  | cons entry rest ih =>
      rcases entry with ⟨other, failure | violations⟩
      · exact ⟨failure, rfl⟩
      · rcases List.mem_cons.mp member with equal | member
        · cases equal
        · obtain ⟨first, restEq⟩ := @ih (position + 1) member
          refine ⟨first, ?_⟩
          rw [collect]
          exact bind_eq_error_iff.mpr
            (.inr ⟨violations, rfl, bind_eq_error_iff.mpr (.inl restEq)⟩)

/-- A fatal scan fails with a document that every engine fails on. -/
theorem exists_fatal_eq_error (source : Source) (cache : EngineCache)
    {documents : List Document} {d : Document} (member : d ∈ documents)
    (fails : ∀ engine : Engine, ∃ failure, engine.evaluate d.value = .error failure) :
    ∃ error, (fatal source documents cache).1 = .error error := by
  unfold fatal EngineCache.warm
  rcases EngineCache.warmAll_cases source Domain.all cache with
    ⟨after, ended, -, built⟩ | ⟨-, -, error, after, ended, -⟩
  · obtain ⟨engines, -, outcomesEq⟩ := EngineCache.exists_outcomes_eq source documents built
    obtain ⟨failure, failed⟩ := fails (engines d.domain)
    simp only [ended, outcomesEq]
    refine @collect_eq_error 0 _ d (.evaluation d.file.path failure) ?_
    rw [← List.map_prod_left_eq_zip]
    refine List.mem_map.mpr ⟨d, member, ?_⟩
    rw [EngineCache.Request.outcomeWith, failed]
    rfl
  · exact ⟨.build error, by simp only [ended]⟩

end Scan

/-- What becomes of an accepted document of whole numbers, whatever the engine.
It arrives as it is exactly if it is nested less than `Json.nestingLimit` deep,
and then every failure comes from the rules of the engine or from their result.
A deeper one fails for its depth alone, and every fatal scan with it. -/
theorem evaluate_accepted {file : SourceFile} {documents : List Document} {d : Document}
    (accepted : Document.ofFile file = .ok documents) (member : d ∈ documents)
    (ints : d.value.AllInts) (engine : Engine) :
    (d.value.depth < Json.nestingLimit →
      Engine.inputOf d.value = .ok d.value ∧
        engine.evaluate d.value = engine.answer d.value ∧
          ∀ reason, engine.evaluate d.value ≠ .error (.input reason)) ∧
    (Json.nestingLimit ≤ d.value.depth →
      (∃ reason, Engine.TooDeep reason ∧ Engine.inputOf d.value = .error (.input reason) ∧
        engine.evaluate d.value = .error (.input reason)) ∧
      ∀ source cache batch, d ∈ batch → ∃ error, (Scan.fatal source batch cache).1 = .error error) ∧
    (d.domain = .kubernetes → d.value.depth ≤ Json.nestingLimit) := by
  obtain ⟨canonical, depth⟩ := Document.canonical_of_mem_ofFile accepted member
  refine ⟨?_, ?_, depth⟩
  · intro fits
    rcases Engine.inputOf_cases ints canonical with ⟨-, read⟩ | ⟨deep, -⟩
    · have evaluated : engine.evaluate d.value = engine.answer d.value := by
        rw [engine.evaluate_eq, read]
        rfl
      refine ⟨read, evaluated, fun reason failed => ?_⟩
      rw [evaluated] at failed
      exact engine.answer_ne_input d.value reason failed
    · omega
  · intro deep
    rcases Engine.inputOf_cases ints canonical with ⟨fits, -⟩ | ⟨-, reason, tooDeep, read⟩
    · omega
    · have fails (engine : Engine) : engine.evaluate d.value = .error (.input reason) := by
        rw [engine.evaluate_eq, read]
        rfl
      exact ⟨⟨reason, tooDeep, read, fails engine⟩, fun source cache batch batchMember =>
        Scan.exists_fatal_eq_error source cache batchMember fun engine => ⟨_, fails engine⟩⟩

/-- A block with 126 labels is accepted, and no engine takes it. -/
theorem evaluate_block :
    Document.ofFile (Document.blockFile 126) = .ok [Document.ofBlock 126] ∧
      ∃ reason, Engine.TooDeep reason ∧
        Engine.evaluate ⟨.terraform, ⟨[], [], []⟩, .ofJson .null, Engine.defaultEntrypoint⟩
          (Document.ofBlock 126).value = .error (.input reason) := by
  obtain ⟨accepted, depth⟩ := Document.ofFile_blockFile 126
  have deep : Json.nestingLimit ≤ (Document.ofBlock 126).value.depth := by
    rw [depth, Json.nestingLimit]
  obtain ⟨⟨reason, tooDeep, -, failed⟩, -⟩ :=
    (evaluate_accepted accepted List.mem_cons_self (Hcl.nested_allInts 127)
      ⟨.terraform, ⟨[], [], []⟩, .ofJson .null, Engine.defaultEntrypoint⟩).2.1 deep
  exact ⟨accepted, reason, tooDeep, failed⟩

end PolicyScan
