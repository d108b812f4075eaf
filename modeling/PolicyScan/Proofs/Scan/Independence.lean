import PolicyScan.Proofs.Engine
import PolicyScan.Proofs.Scan

/-!
# The documents of a batch do not disturb each other

An isolated scan makes of every document what its engine makes of it alone, at the
place that the document has in the batch (`Separate`).  So a batch can be cut in two
and the parts scanned one after the other, and its documents can be put in another
order: the outcomes are the same at the places that the documents have then
(`isolated_independent`).
-/

namespace PolicyScan

/-- A scanned document with `count` more documents in front of it. -/
def Scanned.behind (count : Nat) (s : Scanned) : Scanned :=
  { s with position := count + s.position }

namespace Scan

open EngineCache (Source)

/-! ## Places in a batch -/

section

variable {verdict : Document → Except Engine.Failure (List Violation)}

theorem mem_passed_iff {documents : List Document} {d : Document} {violations : List Violation}
    {place : Nat} :
    ⟨d, violations, place⟩ ∈ passed verdict 0 documents ↔
      documents[place]? = some d ∧ verdict d = .ok violations := by
  constructor
  · exact of_mem_passed
  · rintro ⟨there, accepted⟩
    refine List.mem_filterMap.mpr ⟨(d, place), List.mem_zipIdx_iff_getElem?.mpr there, ?_⟩
    simp only [accepted]

theorem mem_setAsideAt_iff {documents : List Document} {place : Nat} {entry : Unscanned} :
    (place, entry) ∈ setAsideAt verdict 0 documents ↔
      ∃ d failure, documents[place]? = some d ∧ verdict d = .error failure ∧
        entry = asideEntry d failure := by
  constructor
  · exact of_mem_setAsideAt
  · rintro ⟨d, failure, there, failed, rfl⟩
    refine List.mem_filterMap.mpr ⟨(d, place), List.mem_zipIdx_iff_getElem?.mpr there, ?_⟩
    simp only [failure?_eq_some_iff.mpr failed, Option.map_some]

theorem asideEntry_eq (d : Document) (failure : Engine.Failure) :
    asideEntry d failure = ⟨d.file, "Failed to run policy engine on " ++ d.file.path ++ ": " ++
      failure.message ++ suffix d, none⟩ := by
  rw [asideEntry, reason_eq]
  rfl

theorem passed_append (first second : List Document) (position : Nat) :
    passed verdict position (first ++ second) =
      passed verdict position first ++ passed verdict (position + first.length) second := by
  simp only [passed, List.zipIdx_append, List.filterMap_append]

theorem setAside_append (first second : List Document) :
    setAside verdict (first ++ second) = setAside verdict first ++ setAside verdict second :=
  List.filterMap_append

theorem passed_add (count position : Nat) (documents : List Document) :
    passed verdict (count + position) documents =
      (passed verdict position documents).map (Scanned.behind count) := by
  induction documents generalizing position with
  | nil => rfl
  | cons d rest ih =>
      cases judged : verdict d with
      | ok violations =>
          rw [passed_cons_ok judged, passed_cons_ok judged, List.map_cons, Nat.add_assoc, ih]
          rfl
      | error failure =>
          rw [passed_cons_error judged, passed_cons_error judged, Nat.add_assoc, ih]

end

/-! ## One document after the other -/

/-- A batch is judged document by document: `scanned` are those whose engine gives
violations or none, and `failed`, with their places, those that it fails on. -/
structure Separate (engines : Domain → Engine) (documents : List Document)
    (scanned : List Scanned) (failed : List (Nat × Unscanned)) : Prop where
  mem_scanned_iff : ∀ d violations place, ⟨d, violations, place⟩ ∈ scanned ↔
    documents[place]? = some d ∧ (engines d.domain).evaluate d.value = .ok violations
  mem_failed_iff : ∀ place entry, (place, entry) ∈ failed ↔
    ∃ d failure, documents[place]? = some d ∧
      (engines d.domain).evaluate d.value = .error failure ∧
      entry = ⟨d.file, "Failed to run policy engine on " ++ d.file.path ++ ": " ++
        failure.message ++ suffix d, none⟩
  scanned_in_order : (scanned.map Scanned.position).Pairwise (· < ·)
  failed_in_order : (failed.map Prod.fst).Pairwise (· < ·)
  /-- Every place of the batch occurs once. -/
  once : (scanned.map Scanned.position ++ failed.map Prod.fst).Perm
    (List.range documents.length)

theorem separate (engines : Domain → Engine) (documents : List Document) :
    Separate engines documents (passed (verdict engines) 0 documents)
      (setAsideAt (verdict engines) 0 documents) := by
  have ascending := List.pairwise_lt_range' (s := 0) (n := documents.length)
  constructor
  case mem_scanned_iff =>
    intro d violations place
    change _ ↔ documents[place]? = some d ∧ verdict engines d = .ok violations
    exact mem_passed_iff
  case mem_failed_iff =>
    intro place entry
    simp only [← asideEntry_eq]
    change _ ↔ ∃ d failure, documents[place]? = some d ∧ verdict engines d = .error failure ∧ _
    exact mem_setAsideAt_iff
  case scanned_in_order => exact ascending.sublist (passed_positions_sublist documents 0)
  case failed_in_order => exact ascending.sublist (setAsideAt_places_sublist documents 0)
  case once =>
    rw [List.range_eq_range']
    exact places_perm documents 0

section

variable {engines : Domain → Engine} {documents others : List Document}
  {scanned otherScanned : List Scanned} {failed otherFailed : List (Nat × Unscanned)}

/-- The outcome of a document is the same wherever it stands in a batch. -/
theorem Separate.mem_scanned_iff_of_getElem? (one : Separate engines documents scanned failed)
    (other : Separate engines others otherScanned otherFailed) {place otherPlace : Nat}
    (same : others[otherPlace]? = documents[place]?) (d : Document)
    (violations : List Violation) :
    ⟨d, violations, place⟩ ∈ scanned ↔ ⟨d, violations, otherPlace⟩ ∈ otherScanned := by
  rw [one.mem_scanned_iff, other.mem_scanned_iff, same]

theorem Separate.mem_failed_iff_of_getElem? (one : Separate engines documents scanned failed)
    (other : Separate engines others otherScanned otherFailed) {place otherPlace : Nat}
    (same : others[otherPlace]? = documents[place]?) (entry : Unscanned) :
    (place, entry) ∈ failed ↔ (otherPlace, entry) ∈ otherFailed := by
  rw [one.mem_failed_iff, other.mem_failed_iff, same]

end

/-! ## One scan after the other -/

section

variable {engines : Domain → Engine} {cache : EngineCache}

/-- Once all engines are there, they need not be built again. -/
theorem warm_of_built (built : ∀ domain, cache.engine? domain = some (engines domain))
    (source : Source) : cache.warm source = (.ok (), cache) := by
  have warmed (domains : List Domain) : cache.warmAll source domains = (.ok (), cache) := by
    induction domains with
    | nil => rfl
    | cons domain rest ih =>
        simp only [EngineCache.warmAll, EngineCache.get_of_engine? (built domain), ih]
  exact warmed Domain.all

/-- The violations of a document alone are those that the engine of its domain gives. -/
theorem document_of_built (built : ∀ domain, cache.engine? domain = some (engines domain))
    (source : Source) (d : Document) :
    document source cache d =
      (((engines d.domain).evaluate d.value).mapError (ScanError.evaluation d.file.path),
        cache) := by
  rw [document, EngineCache.get_of_engine? (built d.domain)]

end

/-- Isolated scans from a cache that all engines can be added to, as in `after`.
Later scans find the engines there, wherever engines come from then. -/
structure Independent (source : Source) (cache after : EngineCache)
    (engines : Domain → Engine) : Prop where
  built : ∀ domain, after.engine? domain = some (engines domain)
  /-- What a document gives alone. -/
  alone : ∀ (later : Source) d, document later after d =
    (((engines d.domain).evaluate d.value).mapError (ScanError.evaluation d.file.path), after)
  /-- A document in a batch is judged as alone, at first and at any later time. -/
  batch : ∀ (later : Source) documents, ∃ scanned failed,
    isolated source documents cache = (.ok (scanned, failed.map Prod.snd), after) ∧
      isolated later documents after = (.ok (scanned, failed.map Prod.snd), after) ∧
      Separate engines documents scanned failed
  /-- Two batches one after the other are as good as one. -/
  append : ∀ (later : Source) first second, ∃ scanned failed others otherFailed,
    isolated source first cache = (.ok (scanned, failed), after) ∧
      isolated later second after = (.ok (others, otherFailed), after) ∧
      isolated source (first ++ second) cache =
        (.ok (scanned ++ others.map (Scanned.behind first.length), failed ++ otherFailed), after)
  /-- The outcomes of a batch in another order are those of the batch, where the
  documents stand now. -/
  reorder : ∀ (later : Source) (documents others : List Document)
    (moved : Fin documents.length ≃ Fin others.length),
    (∀ place, others.get (moved place) = documents.get place) →
    ∃ scanned failed otherScanned otherFailed,
      isolated source documents cache = (.ok (scanned, failed.map Prod.snd), after) ∧
      isolated later others after = (.ok (otherScanned, otherFailed.map Prod.snd), after) ∧
      Separate engines documents scanned failed ∧
      Separate engines others otherScanned otherFailed ∧
      ∀ place : Fin documents.length,
        (∀ d violations, ⟨d, violations, place⟩ ∈ scanned ↔
          ⟨d, violations, moved place⟩ ∈ otherScanned) ∧
        ∀ entry, ((place : Nat), entry) ∈ failed ↔ ((moved place : Nat), entry) ∈ otherFailed

/-- If all engines can be built, an isolated scan judges every document of a batch on
its own. -/
theorem isolated_independent {source : Source} {cache after : EngineCache}
    (warmed : cache.warm source = (.ok (), after)) :
    ∃ engines : Domain → Engine, Independent source cache after engines := by
  obtain ⟨engines, built⟩ := exists_engines_of_warm warmed
  have first (documents : List Document) :
      isolated source documents cache =
        (.ok (passed (verdict engines) 0 documents,
          (setAsideAt (verdict engines) 0 documents).map Prod.snd), after) := by
    rw [isolated_of_warm warmed built, setAsideAt_snd]
  have again (later : Source) (documents : List Document) :
      isolated later documents after =
        (.ok (passed (verdict engines) 0 documents,
          (setAsideAt (verdict engines) 0 documents).map Prod.snd), after) := by
    rw [isolated_of_warm (warm_of_built built later) built, setAsideAt_snd]
  refine ⟨engines, ?_⟩
  constructor
  case built => exact built
  case alone => exact document_of_built built
  case batch =>
    intro later documents
    exact ⟨_, _, first documents, again later documents, separate engines documents⟩
  case append =>
    intro later front back
    refine ⟨_, _, _, _, first front, again later back, ?_⟩
    rw [first, setAsideAt_snd, setAsideAt_snd, setAsideAt_snd, setAside_append, passed_append,
      Nat.zero_add, ← passed_add front.length 0 back]
    rfl
  case reorder =>
    intro later documents others moved same
    have one := separate engines documents
    have other := separate engines others
    refine ⟨_, _, _, _, first documents, again later others, one, other, fun place => ?_⟩
    have sameDocument : others[(moved place : Nat)]? = documents[(place : Nat)]? := by
      rw [List.getElem?_eq_getElem (moved place).isLt, List.getElem?_eq_getElem place.isLt]
      exact congrArg some (same place)
    exact ⟨one.mem_scanned_iff_of_getElem? other sameDocument,
      one.mem_failed_iff_of_getElem? other sameDocument⟩

/-- Two documents of a manifest and a Terraform file; only the second has no kind. -/
def mixedBatch : List Document :=
  [⟨⟨"m.yaml", .yaml, ""⟩, .obj [("kind", .str "Pod")], .kubernetes, some 0⟩,
    ⟨⟨"m.yaml", .yaml, ""⟩, .obj [], .kubernetes, some 1⟩,
    ⟨⟨"t.tf", .tf, ""⟩, .obj [("kind", .str "Pod")], .terraform, none⟩]

/-- Of these documents the second is scanned, and the reasons for which the others are
set aside tell apart a document of a manifest and a whole file. -/
theorem isolated_independent_mixedBatch :
    ∃ (after : EngineCache) (engines : Domain → Engine) (scanned : List Scanned)
      (failed : List (Nat × Unscanned)),
      EngineCache.empty.warm (fun domain => .ok (Engine.ofField "kind" domain)) = (.ok (), after) ∧
      Independent (fun domain => .ok (Engine.ofField "kind" domain)) .empty after engines ∧
      isolated (fun domain => .ok (Engine.ofField "kind" domain)) mixedBatch .empty =
        (.ok (scanned, failed.map Prod.snd), after) ∧
      scanned.map Scanned.position = [1] ∧
      failed.map (fun entry => (entry.1, entry.2.reason)) =
        [(0, "Failed to run policy engine on m.yaml: unexpected result from data.rules.deny: " ++
            "invalid type: string \"Pod\", expected a sequence at line 1 column 5 (document 0)"),
          (2, "Failed to run policy engine on t.tf: unexpected result from data.rules.deny: " ++
            "invalid type: string \"Pod\", expected a sequence at line 1 column 5")] := by
  have warmed : EngineCache.empty.warm (fun domain => .ok (Engine.ofField "kind" domain)) =
      (.ok (), (EngineCache.empty.warm fun domain => .ok (Engine.ofField "kind" domain)).2) := rfl
  obtain ⟨engines, independent⟩ := isolated_independent warmed
  have enginesEq : engines = Engine.ofField "kind" := by
    funext domain
    have found := independent.built domain
    cases domain <;> exact (Option.some.inj found).symm
  subst enginesEq
  have scannedEq := isolated_of_warm warmed independent.built mixedBatch
  rewrite [← setAsideAt_snd mixedBatch 0] at scannedEq
  refine ⟨_, Engine.ofField "kind", passed (verdict (Engine.ofField "kind")) 0 mixedBatch,
    setAsideAt (verdict (Engine.ofField "kind")) 0 mixedBatch, warmed, independent, scannedEq,
    ?_, ?_⟩
  · decide +kernel
  · decide +kernel

end Scan
end PolicyScan
