import PolicyScan.Proofs.EngineCache.Race
import PolicyScan.Proofs.EngineCache.Request
import PolicyScan.Proofs.Outcome

/-!
# Fatal and isolated scans

Once all engines are there, each document has a verdict: its violations, or the
failure of its engine.  The two scans say the verdicts in different ways.  An
isolated scan lists the documents that passed, each with its place, and those that
are set aside (`partition_eq`); a fatal one has the first error, or the documents
if all have passed (`collect_eq`).  So the one tells the same as the other (`tells`),
and they leave the same cache.

Every place of a batch is that of one document that passed or is set aside
(`places_perm`).
-/

namespace PolicyScan.Scan

open EngineCache (Source)
open EngineCache.Request (outcomeWith)

/-! ## Verdicts -/

/-- What the engine of a document says to it. -/
def verdict (engines : Domain → Engine) (d : Document) :
    Except Engine.Failure (List Violation) :=
  (engines d.domain).evaluate d.value

section

variable (verdict : Document → Except Engine.Failure (List Violation))

/-- The failure of an engine on a document. -/
def failure? (d : Document) : Option Engine.Failure :=
  match verdict d with
  | .ok _ => none
  | .error failure => some failure

/-- The documents of a batch from `position` on that have violations or none. -/
def passed (position : Nat) (documents : List Document) : List Scanned :=
  (documents.zipIdx position).filterMap fun (d, place) =>
    match verdict d with
    | .ok violations => some ⟨d, violations, place⟩
    | .error _ => none

/-- A document that is set aside for a failure. -/
def asideEntry (d : Document) (failure : Engine.Failure) : Unscanned :=
  ⟨d.file, reason d (.evaluation d.file.path failure), none⟩

/-- The documents of a batch that are set aside. -/
def setAside (documents : List Document) : List Unscanned :=
  documents.filterMap fun d => (failure? verdict d).map (asideEntry d)

/-- The documents of a batch from `position` on that are set aside, with their
places. -/
def setAsideAt (position : Nat) (documents : List Document) : List (Nat × Unscanned) :=
  (documents.zipIdx position).filterMap fun (d, place) =>
    (failure? verdict d).map fun failure => (place, asideEntry d failure)

/-- The error of the first document that an engine fails on. -/
def firstError? (documents : List Document) : Option ScanError :=
  documents.findSome? fun d => (failure? verdict d).map (ScanError.evaluation d.file.path)

end

section

variable {verdict : Document → Except Engine.Failure (List Violation)}

theorem failure?_eq_some_iff {d : Document} {failure : Engine.Failure} :
    failure? verdict d = some failure ↔ verdict d = .error failure := by
  rw [failure?]
  cases verdict d <;> simp

theorem failure?_eq_none_iff {d : Document} :
    failure? verdict d = none ↔ ∃ violations, verdict d = .ok violations := by
  rw [failure?]
  cases verdict d <;> simp

theorem passed_cons_ok {position : Nat} {d : Document} {rest : List Document}
    {violations : List Violation} (accepted : verdict d = .ok violations) :
    passed verdict position (d :: rest) =
      ⟨d, violations, position⟩ :: passed verdict (position + 1) rest := by
  simp [passed, List.zipIdx_cons, accepted]

theorem passed_cons_error {position : Nat} {d : Document} {rest : List Document}
    {failure : Engine.Failure} (failed : verdict d = .error failure) :
    passed verdict position (d :: rest) = passed verdict (position + 1) rest := by
  simp [passed, List.zipIdx_cons, failed]

theorem setAside_cons_ok {d : Document} {rest : List Document} {violations : List Violation}
    (accepted : verdict d = .ok violations) :
    setAside verdict (d :: rest) = setAside verdict rest := by
  simp [setAside, failure?, accepted]

theorem setAside_cons_error {d : Document} {rest : List Document} {failure : Engine.Failure}
    (failed : verdict d = .error failure) :
    setAside verdict (d :: rest) = asideEntry d failure :: setAside verdict rest := by
  simp [setAside, failure?, failed]

theorem setAsideAt_cons_ok {position : Nat} {d : Document} {rest : List Document}
    {violations : List Violation} (accepted : verdict d = .ok violations) :
    setAsideAt verdict position (d :: rest) = setAsideAt verdict (position + 1) rest := by
  simp [setAsideAt, List.zipIdx_cons, failure?, accepted]

theorem setAsideAt_cons_error {position : Nat} {d : Document} {rest : List Document}
    {failure : Engine.Failure} (failed : verdict d = .error failure) :
    setAsideAt verdict position (d :: rest) =
      (position, asideEntry d failure) :: setAsideAt verdict (position + 1) rest := by
  simp [setAsideAt, List.zipIdx_cons, failure?, failed]

theorem firstError?_cons_ok {d : Document} {rest : List Document} {violations : List Violation}
    (accepted : verdict d = .ok violations) :
    firstError? verdict (d :: rest) = firstError? verdict rest := by
  simp [firstError?, failure?, accepted]

theorem firstError?_cons_error {d : Document} {rest : List Document} {failure : Engine.Failure}
    (failed : verdict d = .error failure) :
    firstError? verdict (d :: rest) = some (.evaluation d.file.path failure) := by
  simp [firstError?, failure?, failed]

theorem setAside_eq_nil_iff {documents : List Document} :
    setAside verdict documents = [] ↔ firstError? verdict documents = none := by
  simp [setAside, firstError?]

/-- The first error is that of a document which all documents before it have
passed; it is set aside first. -/
theorem exists_of_firstError? {documents : List Document} {error : ScanError}
    (found : firstError? verdict documents = some error) :
    ∃ earlier d later failure, documents = earlier ++ d :: later ∧
      (∀ other ∈ earlier, ∃ violations, verdict other = .ok violations) ∧
      verdict d = .error failure ∧ error = .evaluation d.file.path failure ∧
      setAside verdict documents = asideEntry d failure :: setAside verdict later := by
  obtain ⟨earlier, d, later, rfl, errorEq, before⟩ := List.findSome?_eq_some_iff.mp found
  obtain ⟨failure, failed, rfl⟩ := Option.map_eq_some_iff.mp errorEq
  have verdictEq := failure?_eq_some_iff.mp failed
  have allPassed (other : Document) (member : other ∈ earlier) :
      ∃ violations, verdict other = .ok violations :=
    failure?_eq_none_iff.mp (Option.map_eq_none_iff.mp (before other member))
  refine ⟨earlier, d, later, failure, rfl, allPassed, verdictEq, rfl, ?_⟩
  have nothing : setAside verdict earlier = [] := by
    rw [setAside_eq_nil_iff]
    exact List.findSome?_eq_none_iff.mpr before
  calc
    setAside verdict (earlier ++ d :: later)
        = setAside verdict earlier ++ setAside verdict (d :: later) := List.filterMap_append
    _ = asideEntry d failure :: setAside verdict later := by
      rw [nothing, setAside_cons_error verdictEq, List.nil_append]

end

/-! ## Places -/

section

variable {verdict : Document → Except Engine.Failure (List Violation)}

theorem setAsideAt_snd (documents : List Document) (position : Nat) :
    (setAsideAt verdict position documents).map Prod.snd = setAside verdict documents := by
  induction documents generalizing position with
  | nil => rfl
  | cons d rest ih =>
      cases judged : verdict d with
      | ok violations => rw [setAsideAt_cons_ok judged, setAside_cons_ok judged, ih]
      | error failure =>
          rw [setAsideAt_cons_error judged, setAside_cons_error judged, List.map_cons, ih]

/-- A document that passed is the one at its place. -/
theorem of_mem_passed {documents : List Document} {s : Scanned}
    (member : s ∈ passed verdict 0 documents) :
    documents[s.position]? = some s.document ∧ verdict s.document = .ok s.violations := by
  obtain ⟨⟨d, place⟩, indexed, found⟩ := List.mem_filterMap.mp member
  have there : documents[place]? = some d := List.mem_zipIdx_iff_getElem?.mp indexed
  cases judged : verdict d with
  | ok violations =>
      simp only [judged, Option.some.injEq] at found
      subst found
      exact ⟨there, judged⟩
  | error failure => simp [judged] at found

theorem of_mem_setAsideAt {documents : List Document} {place : Nat} {entry : Unscanned}
    (member : (place, entry) ∈ setAsideAt verdict 0 documents) :
    ∃ d failure, documents[place]? = some d ∧ verdict d = .error failure ∧
      entry = asideEntry d failure := by
  obtain ⟨⟨d, index⟩, indexed, found⟩ := List.mem_filterMap.mp member
  obtain ⟨failure, failed, equal⟩ := Option.map_eq_some_iff.mp found
  cases equal
  exact ⟨d, failure, List.mem_zipIdx_iff_getElem?.mp indexed,
    failure?_eq_some_iff.mp failed, rfl⟩

/-- Entries made of some documents of a batch, each with the place of its document,
are in the order of the batch. -/
theorem places_sublist {α : Type} {select : Document × Nat → Option α} {placeOf : α → Nat}
    (placed : ∀ d place a, select (d, place) = some a → placeOf a = place)
    (documents : List Document) (position : Nat) :
    (((documents.zipIdx position).filterMap select).map placeOf).Sublist
      (List.range' position documents.length) := by
  induction documents generalizing position with
  | nil => exact List.Sublist.refl []
  | cons d rest ih =>
      rw [List.zipIdx_cons, List.length_cons, List.range'_succ]
      cases found : select (d, position) with
      | none =>
          rw [List.filterMap_cons_none found]
          exact (ih (position + 1)).cons position
      | some a =>
          rw [List.filterMap_cons_some found, List.map_cons, placed d position a found]
          exact (ih (position + 1)).cons_cons position

theorem passed_positions_sublist (documents : List Document) (position : Nat) :
    ((passed verdict position documents).map Scanned.position).Sublist
      (List.range' position documents.length) := by
  refine places_sublist ?_ documents position
  intro d place s found
  cases judged : verdict d with
  | ok violations =>
      simp only [judged, Option.some.injEq] at found
      rw [← found]
  | error failure => simp [judged] at found

/-- The documents that passed are in the order of the batch. -/
theorem passed_documents_sublist (documents : List Document) (position : Nat) :
    ((passed verdict position documents).map Scanned.document).Sublist documents := by
  induction documents generalizing position with
  | nil => exact List.Sublist.refl []
  | cons d rest ih =>
      cases judged : verdict d with
      | ok violations =>
          rw [passed_cons_ok judged, List.map_cons]
          exact (ih (position + 1)).cons_cons d
      | error failure =>
          rw [passed_cons_error judged]
          exact (ih (position + 1)).cons d

theorem setAsideAt_places_sublist (documents : List Document) (position : Nat) :
    ((setAsideAt verdict position documents).map Prod.fst).Sublist
      (List.range' position documents.length) := by
  refine places_sublist ?_ documents position
  intro d place entry found
  obtain ⟨failure, -, equal⟩ := Option.map_eq_some_iff.mp found
  cases equal
  rfl

theorem mem_setAside_iff {documents : List Document} {entry : Unscanned} :
    entry ∈ setAside verdict documents ↔
      ∃ d ∈ documents, ∃ failure, verdict d = .error failure ∧ asideEntry d failure = entry := by
  simp only [setAside, List.mem_filterMap, Option.map_eq_some_iff, failure?_eq_some_iff]

/-- Every place is that of one document that passed or is set aside. -/
theorem places_perm (documents : List Document) (position : Nat) :
    ((passed verdict position documents).map Scanned.position ++
        (setAsideAt verdict position documents).map Prod.fst).Perm
      (List.range' position documents.length) := by
  induction documents generalizing position with
  | nil => exact .nil
  | cons d rest ih =>
      rw [List.length_cons, List.range'_succ]
      cases judged : verdict d with
      | ok violations =>
          rw [passed_cons_ok judged, setAsideAt_cons_ok judged]
          exact (ih (position + 1)).cons position
      | error failure =>
          rw [passed_cons_error judged, setAsideAt_cons_error judged]
          exact List.perm_middle.trans ((ih (position + 1)).cons position)

end

/-! ## The scans in terms of the verdicts -/

section

variable {engines : Domain → Engine}

theorem outcomeWith_of_ok {d : Document} {violations : List Violation}
    (accepted : verdict engines d = .ok violations) : outcomeWith engines d = .ok violations := by
  rw [verdict] at accepted
  rw [outcomeWith, accepted]
  rfl

theorem outcomeWith_of_error {d : Document} {failure : Engine.Failure}
    (failed : verdict engines d = .error failure) :
    outcomeWith engines d = .error (.evaluation d.file.path failure) := by
  rw [verdict] at failed
  rw [outcomeWith, failed]
  rfl

/-- No document of a batch makes an isolated scan fail. -/
theorem partition_eq (engines : Domain → Engine) (documents : List Document) (position : Nat) :
    partition position (documents.zip (documents.map (outcomeWith engines))) =
      .ok (passed (verdict engines) position documents, setAside (verdict engines) documents) := by
  rw [← List.map_prod_left_eq_zip]
  induction documents generalizing position with
  | nil => rfl
  | cons d rest ih =>
      rw [List.map_cons]
      cases judged : verdict engines d with
      | ok violations =>
          rw [outcomeWith_of_ok judged, passed_cons_ok judged, setAside_cons_ok judged,
            partition, ih]
          rfl
      | error failure =>
          rw [outcomeWith_of_error judged, passed_cons_error judged, setAside_cons_error judged,
            partition, ih]
          rfl

/-- A fatal scan ends with the first error of the batch, if there is one. -/
theorem collect_eq (engines : Domain → Engine) (documents : List Document) (position : Nat) :
    collect position (documents.zip (documents.map (outcomeWith engines))) =
      match firstError? (verdict engines) documents with
      | some error => .error error
      | none => .ok (passed (verdict engines) position documents) := by
  rw [← List.map_prod_left_eq_zip]
  induction documents generalizing position with
  | nil => rfl
  | cons d rest ih =>
      rw [List.map_cons, collect]
      cases judged : verdict engines d with
      | ok violations =>
          rw [outcomeWith_of_ok judged, firstError?_cons_ok judged, passed_cons_ok judged, ih]
          cases firstError? (verdict engines) rest <;> rfl
      | error failure =>
          rw [outcomeWith_of_error judged, firstError?_cons_error judged]
          rfl

variable {source : Source} {cache after : EngineCache}

theorem isolated_of_warm (warmed : cache.warm source = (.ok (), after))
    (built : ∀ domain, after.engine? domain = some (engines domain)) (documents : List Document) :
    isolated source documents cache =
      (.ok (passed (verdict engines) 0 documents, setAside (verdict engines) documents), after) := by
  simp only [isolated, warmed, EngineCache.outcomes_of_built documents built, partition_eq]

theorem fatal_of_warm (warmed : cache.warm source = (.ok (), after))
    (built : ∀ domain, after.engine? domain = some (engines domain)) (documents : List Document) :
    fatal source documents cache =
      (match firstError? (verdict engines) documents with
        | some error => .error error
        | none => .ok (passed (verdict engines) 0 documents), after) := by
  simp only [fatal, warmed, EngineCache.outcomes_of_built documents built, collect_eq]

end

theorem isolated_of_warm_error {source : Source} {cache after : EngineCache}
    {error : Artifacts.BuildError} (failed : cache.warm source = (.error error, after))
    (documents : List Document) :
    isolated source documents cache = (.error (.build error), after) := by
  simp only [isolated, failed]

theorem fatal_of_warm_error {source : Source} {cache after : EngineCache}
    {error : Artifacts.BuildError} (failed : cache.warm source = (.error error, after))
    (documents : List Document) :
    fatal source documents cache = (.error (.build error), after) := by
  simp only [fatal, failed]

/-- Once all is warm, every domain has an engine. -/
theorem exists_engines_of_warm {source : Source} {cache after : EngineCache}
    (warmed : cache.warm source = (.ok (), after)) :
    ∃ engines : Domain → Engine, ∀ domain, after.engine? domain = some (engines domain) := by
  rcases EngineCache.warmAll_cases source Domain.all cache with
    ⟨_, ended, -, built⟩ | ⟨_, _, _, _, ended, -⟩
  · cases warmed.symm.trans ended
    obtain ⟨engines, engineOf, -⟩ := EngineCache.exists_outcomes_eq source [] built
    exact ⟨engines, engineOf⟩
  · cases warmed.symm.trans ended

/-! ## The early exit -/

/-- Scan documents from `position` on up to the first failure, and do not look at
those behind it. -/
def untilFailure (source : Source) (position : Nat) :
    List Document → EngineCache → Except ScanError (List Scanned) × EngineCache
  | [], cache => (.ok [], cache)
  | d :: rest, cache =>
    match document source cache d with
    | (.error error, cache) => (.error error, cache)
    | (.ok violations, cache) =>
      let (scanned, cache) := untilFailure source (position + 1) rest cache
      (scanned.map (⟨d, violations, position⟩ :: ·), cache)

/-- Once all engines are there, the documents behind the first failure make no
difference. -/
theorem untilFailure_eq {source : Source} {cache : EngineCache} {engines : Domain → Engine}
    (built : ∀ domain, cache.engine? domain = some (engines domain)) (documents : List Document)
    (position : Nat) :
    untilFailure source position documents cache =
      (collect position (documents.zip (documents.map (outcomeWith engines))), cache) := by
  rw [← List.map_prod_left_eq_zip]
  induction documents generalizing position with
  | nil => rfl
  | cons d rest ih =>
      have outcomeEq : document source cache d = (outcomeWith engines d, cache) := by
        rw [document, EngineCache.get_of_engine? (built d.domain)]
        rfl
      simp only [untilFailure, outcomeEq, List.map_cons, collect]
      cases outcomeWith engines d with
      | error error => rfl
      | ok violations =>
          simp only [ih]
          cases collect (position + 1) (rest.map fun d => (d, outcomeWith engines d)) <;> rfl

/-! ## Agreement -/

/-- What follows the error in the reason for which a document is set aside. -/
def suffix (d : Document) : String :=
  match d.index? with
  | some index => " (document " ++ toString index ++ ")"
  | none => ""

theorem reason_eq (d : Document) (error : ScanError) : reason d error = error.message ++ suffix d := by
  rw [reason, suffix]
  cases d.index? with
  | none => exact String.append_empty.symm
  | some index => simp only [String.append_assoc]

/-- The outcome of a fatal scan of documents tells the same as what an isolated
scan has passed and set aside. -/
structure Tells (engines : Domain → Engine) (documents : List Document)
    (outcome : Except ScanError (List Scanned)) (scanned : List Scanned)
    (failed : List Unscanned) : Prop where
  ok_iff : failed = [] ↔ ∃ results, outcome = .ok results
  results_eq : ∀ results, outcome = .ok results → results = scanned
  error_iff : failed ≠ [] ↔ ∃ error, outcome = .error error
  /-- The error is that of the first document which an engine fails on.  It is also
  the first one set aside, for a reason that begins with the error. -/
  first : ∀ error, outcome = .error error →
    ∃ earlier d later failure entry others, documents = earlier ++ d :: later ∧
      (∀ other ∈ earlier, ∃ violations, verdict engines other = .ok violations) ∧
      verdict engines d = .error failure ∧ error = .evaluation d.file.path failure ∧
      failed = entry :: others ∧ entry.file = d.file ∧ entry.reason = error.message ++ suffix d

theorem tells (engines : Domain → Engine) (documents : List Document) :
    Tells engines documents
      (match firstError? (verdict engines) documents with
        | some error => .error error
        | none => .ok (passed (verdict engines) 0 documents))
      (passed (verdict engines) 0 documents) (setAside (verdict engines) documents) := by
  cases found : firstError? (verdict engines) documents with
  | none =>
      have nothing := setAside_eq_nil_iff.mpr found
      refine ⟨⟨fun _ => ⟨_, rfl⟩, fun _ => nothing⟩, ?_, ?_, ?_⟩
      · rintro results ⟨⟩
        rfl
      · exact iff_of_false (absurd nothing) (by rintro ⟨_, ⟨⟩⟩)
      · rintro error ⟨⟩
  | some error =>
      have something : setAside (verdict engines) documents ≠ [] := by
        rw [ne_eq, setAside_eq_nil_iff, found]
        simp
      refine ⟨iff_of_false something (by rintro ⟨_, ⟨⟩⟩), ?_, iff_of_true something ⟨_, rfl⟩, ?_⟩
      · rintro results ⟨⟩
      · rintro _ ⟨⟩
        obtain ⟨earlier, d, later, failure, split, before, failed, rfl, aside⟩ :=
          exists_of_firstError? found
        exact ⟨earlier, d, later, failure, _, _, split, before, failed, rfl, aside, rfl,
          reason_eq d _⟩

/-- How the two scans of documents compare from one cache. -/
structure Agreement (source : Source) (cache : EngineCache) (documents : List Document) :
    Prop where
  same_cache : (fatal source documents cache).2 = (isolated source documents cache).2
  /-- An engine that cannot be built ends both. -/
  of_warm_error : ∀ error after, cache.warm source = (.error error, after) →
    (fatal source documents cache).1 = .error (.build error) ∧
      (isolated source documents cache).1 = .error (.build error)
  /-- With all engines there the isolated scan has results, and the fatal one tells
  the same; it may as well stop at the first failure.  When the documents ask for
  their engines at the same time, each finds its engine in one turn. -/
  of_warm : ∀ after, cache.warm source = (.ok (), after) →
    ∃ engines : Domain → Engine, (∀ domain, after.engine? domain = some (engines domain)) ∧
      (isolated source documents cache).1 =
        .ok (passed (verdict engines) 0 documents, setAside (verdict engines) documents) ∧
      Tells engines documents (fatal source documents cache).1
        (passed (verdict engines) 0 documents) (setAside (verdict engines) documents) ∧
      untilFailure source 0 documents after = fatal source documents cache ∧
      ∀ turns (race : EngineCache.Race fun i => (documents.get i).domain),
        EngineCache.Race.Run after turns race →
        race.cache = after ∧ ∀ turn ∈ turns, ∃ call, turn = .read call

/-- A fatal and an isolated scan agree on every batch of documents and leave the
same cache. -/
theorem scans_agree (source : Source) (cache : EngineCache) (documents : List Document) :
    Agreement source cache documents := by
  rcases warmed : cache.warm source with ⟨error | done, after⟩
  · have fatalEq := fatal_of_warm_error warmed documents
    have isolatedEq := isolated_of_warm_error warmed documents
    constructor
    · rw [fatalEq, isolatedEq]
    · intro other left failed
      cases warmed.symm.trans failed
      rw [fatalEq, isolatedEq]
      exact ⟨rfl, rfl⟩
    · intro left impossible
      cases warmed.symm.trans impossible
  · obtain ⟨engines, built⟩ := exists_engines_of_warm warmed
    have fatalEq := fatal_of_warm warmed built documents
    have isolatedEq := isolated_of_warm warmed built documents
    constructor
    · rw [fatalEq, isolatedEq]
    · intro other left impossible
      cases warmed.symm.trans impossible
    · intro left again
      cases warmed.symm.trans again
      refine ⟨engines, built, by rw [isolatedEq], ?_, ?_, ?_⟩
      · rw [fatalEq]
        exact tells engines documents
      · rw [untilFailure_eq built, collect_eq, fatalEq]
      · intro turns race run
        have present (call : Fin documents.length) :
            (after.engine? (documents.get call).domain).isSome :=
          Option.isSome_of_eq_some (built _)
        obtain ⟨sameCache, reads, -⟩ := run.reads_of_built present
        exact ⟨sameCache, reads⟩

end PolicyScan.Scan
