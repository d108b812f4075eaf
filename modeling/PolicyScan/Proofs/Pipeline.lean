import PolicyScan.Pipeline
import PolicyScan.Proofs.Batch
import PolicyScan.Proofs.Scan

/-!
# The pipeline as a whole

When there are results, they account for every file that is loaded and every
document of these: a file that cannot be parsed is listed, a document is either
scanned at its place or listed as failed, and nothing occurs twice (`accounts`).

When there are none, the outcome is the first of the defects in a fixed order: what
is missing, what cannot be loaded, a file alone that cannot be parsed, engines that
cannot be built, documents that an engine fails on (`run_leads`).
-/

namespace PolicyScan.Pipeline

open EngineCache (Source BuiltFrom unbuilt?)
open Scan (verdict passed setAside setAsideAt firstError? asideEntry)

/-! ## Scanning without engines at first -/

section

variable {source : Source} {engines : Domain → Engine} {isolate : Bool}
  {documents : List Document}

/-- Either all engines can be built or there is a first one that cannot. -/
theorem exists_engines_or_unbuilt (source : Source) :
    (∃ engines : Domain → Engine, ∀ domain, source domain = .ok (engines domain)) ∨
      ∃ error, Domain.all.findSome? (unbuilt? source) = some error := by
  cases first : Domain.all.findSome? (unbuilt? source) with
  | some error => exact .inr ⟨error, rfl⟩
  | none =>
      have given (domain : Domain) : ∃ engine, source domain = .ok engine := by
        have noError := List.findSome?_eq_none_iff.mp first domain domain.mem_all
        rw [unbuilt?] at noError
        cases outcome : source domain with
        | ok engine => exact ⟨engine, rfl⟩
        | error error => simp [outcome] at noError
      choose engines engineOf using given
      exact .inl ⟨engines, engineOf⟩

/-- Warming the empty cache leaves the engines that the source gives. -/
theorem exists_warm_empty (given : ∀ domain, source domain = .ok (engines domain)) :
    ∃ after, EngineCache.warm source .empty = (.ok (), after) ∧
      ∀ domain, after.engine? domain = some (engines domain) := by
  obtain ⟨ended, builtFrom⟩ := (BuiltFrom.empty source).warmAll Domain.all
  have noError : Domain.all.findSome? (unbuilt? source) = none := by
    rw [List.findSome?_eq_none_iff]
    intro domain _
    rw [unbuilt?, given]
  rw [noError] at ended
  have warmed : EngineCache.warm source .empty =
      (.ok (), (EngineCache.empty.warmAll source Domain.all).2) := Prod.ext ended rfl
  obtain ⟨found, present⟩ := Scan.exists_engines_of_warm warmed
  refine ⟨_, warmed, fun domain => ?_⟩
  have same := (builtFrom domain (found domain) (present domain)).symm.trans (given domain)
  rw [present, Except.ok.inj same]

theorem scan_of_engines (given : ∀ domain, source domain = .ok (engines domain))
    (isolate : Bool) (documents : List Document) :
    scan source isolate documents =
      if isolate then
        .ok (passed (verdict engines) 0 documents, setAside (verdict engines) documents)
      else match firstError? (verdict engines) documents with
        | some error => .error error
        | none => .ok (passed (verdict engines) 0 documents, []) := by
  obtain ⟨after, warmed, built⟩ := exists_warm_empty given
  rw [scan, Scan.isolated_of_warm warmed built, Scan.fatal_of_warm warmed built]
  cases isolate with
  | true => rfl
  | false => cases firstError? (verdict engines) documents <;> rfl

/-- An engine that cannot be built ends a scan, whether a document needs it or not. -/
theorem scan_of_unbuilt {error : Artifacts.BuildError}
    (first : Domain.all.findSome? (unbuilt? source) = some error) (isolate : Bool)
    (documents : List Document) : scan source isolate documents = .error (.build error) := by
  obtain ⟨ended, -⟩ := (BuiltFrom.empty source).warmAll Domain.all
  rw [first] at ended
  have failed : EngineCache.warm source .empty =
      (.error error, (EngineCache.empty.warmAll source Domain.all).2) := Prod.ext ended rfl
  rw [scan, Scan.isolated_of_warm_error failed, Scan.fatal_of_warm_error failed]
  cases isolate <;> rfl

/-- A scan that has results has parted the documents by the verdicts of engines. -/
theorem exists_of_scan_eq_ok {scanned : List Scanned} {failed : List Unscanned}
    (done : scan source isolate documents = .ok (scanned, failed)) :
    ∃ engines : Domain → Engine, (∀ domain, source domain = .ok (engines domain)) ∧
      scanned = passed (verdict engines) 0 documents ∧
      failed = setAside (verdict engines) documents ∧
      (isolate = false → setAside (verdict engines) documents = []) := by
  rcases exists_engines_or_unbuilt source with ⟨engines, given⟩ | ⟨error, first⟩
  · refine ⟨engines, given, ?_⟩
    rw [scan_of_engines given] at done
    cases isolate with
    | true =>
        cases done
        exact ⟨rfl, rfl, by simp⟩
    | false =>
        cases found : firstError? (verdict engines) documents with
        | some error => simp [found] at done
        | none =>
            have nothing := Scan.setAside_eq_nil_iff.mpr found
            simp only [found, Bool.false_eq_true, if_false, Except.ok.injEq, Prod.mk.injEq] at done
            exact ⟨done.1.symm, done.2.symm.trans nothing.symm, fun _ => nothing⟩
  · rw [scan_of_unbuilt first] at done
    contradiction

end

/-! ## What results account for -/

/-- The documents of files, in the order of the files. -/
def documentsOf (files : List SourceFile) : List Document := files.flatMap Batch.documentsOf

/-- The results account for the files and their documents, of which those that
engines fail on are set aside with their places. -/
structure Accounts (engines : Domain → Engine) (isolate : Bool) (files : List SourceFile)
    (results : Results) (failures : List (Nat × Unscanned)) : Prop where
  /-- The files that cannot be parsed come first and then the documents that are set
  aside. -/
  unscanned_eq : results.unscanned = files.filterMap Batch.unparsed? ++ failures.map Prod.snd
  failures_eq_nil : isolate = false → failures = []
  /-- What is scanned is the document at its place, as it is, with its violations. -/
  scanned : ∀ s ∈ results.scanned,
    (documentsOf files)[s.position]? = some s.document ∧
      verdict engines s.document = .ok s.violations
  /-- What is set aside is a document that its engine fails on. -/
  failed : ∀ place entry, (place, entry) ∈ failures →
    ∃ d failure, (documentsOf files)[place]? = some d ∧ verdict engines d = .error failure ∧
      entry = asideEntry d failure
  scanned_in_order : (results.scanned.map Scanned.position).Pairwise (· < ·)
  failures_in_order : (failures.map Prod.fst).Pairwise (· < ·)
  /-- Every place of a document occurs once. -/
  once : (results.scanned.map Scanned.position ++ failures.map Prod.fst).Perm
    (List.range (documentsOf files).length)
  reason_ne_empty : ∀ entry ∈ results.unscanned, entry.reason ≠ ""
  /-- A file that cannot be parsed has no scanned document. -/
  apart : ∀ entry ∈ results.unscanned, entry.error?.isSome →
    ∀ s ∈ results.scanned, s.document.file ≠ entry.file
  of_mem : ∀ d ∈ documentsOf files, d.file ∈ files ∧ d.domain = d.file.kind.domain

section

variable {files : List SourceFile} {engines : Domain → Engine} {isolate : Bool}

theorem of_mem_documentsOf {d : Document} (member : d ∈ documentsOf files) :
    d.file ∈ files ∧ d.domain = d.file.kind.domain ∧
      ∃ documents, Document.ofFile d.file = .ok documents := by
  obtain ⟨file, fileMember, member⟩ := List.mem_flatMap.mp member
  obtain ⟨documents, parsed, member⟩ := Batch.mem_documentsOf_iff.mp member
  obtain ⟨rfl, domain⟩ := Document.of_mem_ofFile parsed member
  exact ⟨fileMember, domain, documents, parsed⟩

/-- The reason for which a document is set aside is not empty. -/
theorem asideEntry_reason_ne_empty (d : Document) (failure : Engine.Failure) :
    (asideEntry d failure).reason ≠ "" := by
  rw [asideEntry, Scan.reason_eq]
  refine append_ne_empty ?_ _
  exact append_ne_empty (append_ne_empty (append_ne_empty (by decide) _) _) _

theorem accounts (engines : Domain → Engine)
    (noFailures : isolate = false → setAside (verdict engines) (documentsOf files) = []) :
    Accounts engines isolate files
      ⟨passed (verdict engines) 0 (documentsOf files),
        files.filterMap Batch.unparsed? ++ setAside (verdict engines) (documentsOf files)⟩
      (setAsideAt (verdict engines) 0 (documentsOf files)) := by
  have ascending := List.pairwise_lt_range' (s := 0) (n := (documentsOf files).length)
  constructor
  case unscanned_eq => rw [Scan.setAsideAt_snd]
  case failures_eq_nil =>
    intro fatal
    rw [← List.map_eq_nil_iff (f := Prod.snd), Scan.setAsideAt_snd]
    exact noFailures fatal
  case scanned => exact fun s member => Scan.of_mem_passed member
  case failed => exact fun place entry member => Scan.of_mem_setAsideAt member
  case scanned_in_order =>
    exact ascending.sublist (Scan.passed_positions_sublist _ 0)
  case failures_in_order =>
    exact ascending.sublist (Scan.setAsideAt_places_sublist _ 0)
  case once =>
    rw [List.range_eq_range']
    exact Scan.places_perm _ 0
  case reason_ne_empty =>
    intro entry member
    rcases List.mem_append.mp member with unparsed | aside
    · obtain ⟨file, -, found⟩ := List.mem_filterMap.mp unparsed
      obtain ⟨error, -, rfl⟩ := Batch.unparsed?_eq_some_iff.mp found
      exact error.message_ne_empty
    · obtain ⟨d, -, found⟩ := List.mem_filterMap.mp aside
      obtain ⟨failure, -, rfl⟩ := Option.map_eq_some_iff.mp found
      exact asideEntry_reason_ne_empty d failure
  case apart =>
    intro entry member hasError s scanned same
    obtain ⟨there, -⟩ := Scan.of_mem_passed scanned
    obtain ⟨-, -, documents, parsed⟩ := of_mem_documentsOf (List.mem_of_getElem? there)
    rcases List.mem_append.mp member with unparsed | aside
    · obtain ⟨file, -, found⟩ := List.mem_filterMap.mp unparsed
      obtain ⟨error, failed, rfl⟩ := Batch.unparsed?_eq_some_iff.mp found
      rw [same, failed] at parsed
      contradiction
    · obtain ⟨d, -, found⟩ := List.mem_filterMap.mp aside
      obtain ⟨failure, -, rfl⟩ := Option.map_eq_some_iff.mp found
      simp [asideEntry] at hasError
  case of_mem =>
    intro d member
    obtain ⟨fileMember, domain, -⟩ := of_mem_documentsOf member
    exact ⟨fileMember, domain⟩

end

/-- Results account for all files that are loaded, under the engines that the
artifacts give. -/
theorem run_accounts {store : FileStore} {path : String} {options : ScanOptions}
    {results : Results} (done : run store path options = .ok results) :
    ∃ files engines failures, Loader.load store path options.depth = .ok files ∧
      (∀ domain,
        Artifacts.load ⟨options.directory⟩ store options.entrypoint domain =
          .ok (engines domain)) ∧
      Accounts engines options.isolate files results failures := by
  obtain ⟨_, -, done⟩ := bind_eq_ok_iff.mp done
  obtain ⟨files, loaded, done⟩ := bind_eq_ok_iff.mp done
  obtain ⟨batch, parsed, done⟩ := bind_eq_ok_iff.mp done
  obtain ⟨⟨scanned, failed⟩, scanEq, done⟩ := bind_eq_ok_iff.mp done
  have batchEq := Batch.eq_ofFiles_of_parse (mapError_eq_ok_iff.mp parsed)
  rw [Batch.ofFiles_eq] at batchEq
  subst batchEq
  obtain ⟨engines, given, rfl, rfl, noFailures⟩ :=
    exists_of_scan_eq_ok (mapError_eq_ok_iff.mp scanEq)
  cases done
  exact ⟨files, engines, _, mapError_eq_ok_iff.mp loaded, given, accounts engines noFailures⟩

/-- A store with files of the given texts. -/
def storeOf (files : List (String × String)) : FileStore :=
  files.foldl (fun store (path, text) =>
    store.insert (store.placeOf path) (.file (Utf8.encode text))) ⟨[], []⟩

/-- A policy that gives the kind of a manifest where its violations should be. -/
def kindPolicy : String := "package rules\ndeny := input.kind"

/-- The policy for both domains, and four files: a manifest, one that cannot be
parsed, one without documents, and a Terraform file. -/
def fourFiles : FileStore :=
  storeOf [("p/k8s_policy.rego", kindPolicy), ("p/k8s_data.json", "\x7b\x7d"),
    ("p/tf_policy.rego", kindPolicy), ("p/tf_data.json", "\x7b\x7d"),
    ("c/a.yaml", "\x7bapiVersion: v1, kind: Job, metadata: \x7d"), ("c/b.yml", "[]"),
    ("c/c.json", "#"), ("c/d.tf", "")]

/-- The results for these files have the second document at its place, the file that
cannot be parsed and the first document. -/
theorem run_accounts_fourFiles :
    ∃ results files engines failures,
      run fourFiles "c" ⟨"p", 6, Engine.defaultEntrypoint, true⟩ = .ok results ∧
      results.scanned.map Scanned.position = [1] ∧
      (results.unscanned.map fun entry => entry.file.path) = ["c/b.yml", "c/a.yaml"] ∧
      Accounts engines true files results failures := by
  have evaluated :
      (run fourFiles "c" ⟨"p", 6, Engine.defaultEntrypoint, true⟩).toOption.map (fun results =>
        (results.scanned.map Scanned.position,
          results.unscanned.map fun entry => entry.file.path)) =
        some ([1], ["c/b.yml", "c/a.yaml"]) := by decide +kernel
  cases done : run fourFiles "c" ⟨"p", 6, Engine.defaultEntrypoint, true⟩ with
  | error error =>
      rw [done] at evaluated
      contradiction
  | ok results =>
      rw [done] at evaluated
      obtain ⟨files, engines, failures, -, -, accounts⟩ := run_accounts done
      have lists := Option.some.inj evaluated
      exact ⟨results, files, engines, failures, rfl, congrArg Prod.fst lists,
        congrArg Prod.snd lists, accounts⟩

/-! ## Which error comes first -/

section

variable (store : FileStore) (path : String) (options : ScanOptions)

/-- Where a scan has its engines from. -/
def sourceOf : Source := Artifacts.load ⟨options.directory⟩ store options.entrypoint

/-- The artifacts, if some are not there. -/
def missing : List PipelineError :=
  if (Artifacts.required ⟨options.directory⟩).all store.isFile then []
  else [.missingArtifacts (Artifacts.required ⟨options.directory⟩)]

/-- The error of loading. -/
def unloaded : List PipelineError :=
  match Loader.load store path options.depth with
  | .ok _ => []
  | .error error => [.load error]

/-- The error of parsing a file that is loaded alone. -/
def unparsed : List PipelineError :=
  match Loader.load store path options.depth with
  | .ok [file] =>
    match Document.ofFile file with
    | .ok _ => []
    | .error error => [.parse file.path error]
  | _ => []

/-- The errors of engines that cannot be built, in the order of the domains. -/
def unbuilt : List PipelineError :=
  Domain.all.filterMap fun domain =>
    (unbuilt? (sourceOf store options) domain).map fun error => .scan (.build error)

/-- The error of a document that its engine fails on. -/
def unevaluated? (d : Document) : Option PipelineError :=
  match sourceOf store options d.domain with
  | .ok engine =>
    match engine.evaluate d.value with
    | .ok _ => none
    | .error failure => some (.scan (.evaluation d.file.path failure))
  | .error _ => none

/-- The errors of documents, in their order, unless these are set aside. -/
def unevaluated : List PipelineError :=
  match options.isolate, Loader.load store path options.depth with
  | false, .ok files => (documentsOf files).filterMap (unevaluated? store options)
  | _, _ => []

/-- Everything that is wrong with a scan, in the order of precedence. -/
def defects : List PipelineError :=
  missing store options ++ (unloaded store path options ++ (unparsed store path options ++
    (unbuilt store options ++ unevaluated store path options)))

end

/-- An outcome is the first of the errors; without any it is no error. -/
def Leads {α : Type} (outcome : Except PipelineError α) (errors : List PipelineError) : Prop :=
  match outcome with
  | .ok _ => errors = []
  | .error error => errors.head? = some error

/-- The errors of a stage come before those of the stage after it. -/
theorem Leads.bind {α β : Type} {errors others : List PipelineError}
    {outcome : Except PipelineError α} {next : α → Except PipelineError β}
    (leads : Leads outcome errors) (after : ∀ a, outcome = .ok a → Leads (next a) others) :
    Leads (outcome >>= next) (errors ++ others) := by
  cases outcome with
  | ok a =>
      have nothing : errors = [] := leads
      rw [nothing]
      exact after a rfl
  | error error =>
      have first : errors.head? = some error := leads
      change (errors ++ others).head? = some error
      rw [List.head?_append, first]
      rfl

theorem Leads.error_iff {α : Type} {errors : List PipelineError} {error : PipelineError}
    {outcome : Except PipelineError α} (leads : Leads outcome errors) :
    outcome = .error error ↔ errors.head? = some error := by
  cases outcome with
  | ok a =>
      have nothing : errors = [] := leads
      simp [nothing]
  | error first =>
      have found : errors.head? = some first := leads
      simp [found]

theorem Leads.ok_iff {α : Type} {errors : List PipelineError}
    {outcome : Except PipelineError α} (leads : Leads outcome errors) :
    (∃ a, outcome = .ok a) ↔ errors = [] := by
  cases outcome with
  | ok a => exact iff_of_true ⟨a, rfl⟩ leads
  | error first =>
      have found : errors.head? = some first := leads
      refine iff_of_false (by simp) fun nothing => ?_
      simp [nothing] at found

section

variable {store : FileStore} {path : String} {options : ScanOptions} {files : List SourceFile}

theorem leads_ensureArtifacts :
    Leads (ensureArtifacts store ⟨options.directory⟩) (missing store options) := by
  rw [ensureArtifacts, Artifacts.isComplete, missing]
  split <;> rfl

theorem leads_load :
    Leads ((Loader.load store path options.depth).mapError .load)
      (unloaded store path options) := by
  rw [unloaded]
  cases Loader.load store path options.depth <;> rfl

theorem leads_parse (loaded : Loader.load store path options.depth = .ok files) :
    Leads ((Batch.parse files).mapError fun (file, error) => .parse file.path error)
      (unparsed store path options) := by
  rw [unparsed, loaded]
  rcases files with _ | ⟨file, _ | ⟨second, rest⟩⟩
  · rfl
  · dsimp only [Batch.parse]
    cases Document.ofFile file <;> rfl
  · rfl

/-- The first engine that cannot be built is the first such error. -/
theorem unbuilt_head? :
    (unbuilt store options).head? =
      (Domain.all.findSome? (unbuilt? (sourceOf store options))).map fun error =>
        .scan (.build error) := by
  rw [unbuilt, List.head?_filterMap, List.map_findSome?]
  rfl

/-- The first document that an engine fails on is the first such error of a fatal
scan. -/
theorem unevaluated_head? {engines : Domain → Engine}
    (given : ∀ domain, sourceOf store options domain = .ok (engines domain))
    (loaded : Loader.load store path options.depth = .ok files) (fatal : options.isolate = false) :
    (unevaluated store path options).head? =
      (firstError? (verdict engines) (documentsOf files)).map PipelineError.scan := by
  have each (d : Document) : unevaluated? store options d =
      ((Scan.failure? (verdict engines) d).map (ScanError.evaluation d.file.path)).map
        PipelineError.scan := by
    -- `rw` would try to close the goal by running the engine
    unfold unevaluated? Scan.failure? verdict
    rewrite [given]
    dsimp only
    cases (engines d.domain).evaluate d.value <;> rfl
  rw [unevaluated, fatal, loaded, firstError?, List.head?_filterMap, List.map_findSome?]
  exact congrArg (List.findSome? · (documentsOf files)) (funext each)

theorem leads_scan (loaded : Loader.load store path options.depth = .ok files) :
    Leads ((scan (sourceOf store options) options.isolate (documentsOf files)).mapError .scan)
      (unbuilt store options ++ unevaluated store path options) := by
  have buildEq : (unbuilt store options).head? = _ := unbuilt_head?
  rcases exists_engines_or_unbuilt (sourceOf store options) with ⟨engines, given⟩ | ⟨error, first⟩
  · have noError : unbuilt store options = [] := by
      refine List.filterMap_eq_nil_iff.mpr fun domain _ => ?_
      rw [EngineCache.unbuilt?, given]
      rfl
    rw [scan_of_engines given, noError, List.nil_append]
    cases mode : options.isolate with
    | true =>
        rw [unevaluated, mode]
        rfl
    | false =>
        have evaluationEq := unevaluated_head? given loaded mode
        cases found : firstError? (verdict engines) (documentsOf files) with
        | some error =>
            rw [found] at evaluationEq
            exact evaluationEq
        | none =>
            rw [found] at evaluationEq
            exact List.head?_eq_none_iff.mp evaluationEq
  · rw [first] at buildEq
    rw [scan_of_unbuilt first]
    change (unbuilt store options ++ unevaluated store path options).head? = _
    rw [List.head?_append, buildEq]
    rfl

/-- A scan ends with its first defect, if there is one. -/
theorem run_leads (store : FileStore) (path : String) (options : ScanOptions) :
    Leads (run store path options) (defects store path options) := by
  refine leads_ensureArtifacts.bind fun _ _ => leads_load.bind fun files loaded => ?_
  have loaded := mapError_eq_ok_iff.mp loaded
  refine (leads_parse loaded).bind fun batch parsed => ?_
  have batchEq := Batch.eq_ofFiles_of_parse (mapError_eq_ok_iff.mp parsed)
  rw [Batch.ofFiles_eq] at batchEq
  subst batchEq
  have results (outcome : List Scanned × List Unscanned) :
      Leads (Except.ok (⟨outcome.1, files.filterMap Batch.unparsed? ++ outcome.2⟩ : Results)) [] :=
    rfl
  have scanned := (leads_scan loaded).bind fun outcome _ => results outcome
  rw [List.append_nil] at scanned
  exact scanned

/-- If some artifacts are not there, nothing else is looked at. -/
theorem run_of_incomplete (path : String)
    (incomplete : (Artifacts.required ⟨options.directory⟩).all store.isFile = false) :
    run store path options = .error (.missingArtifacts (Artifacts.required ⟨options.directory⟩)) := by
  rw [run, ensureArtifacts, Artifacts.isComplete, incomplete]
  rfl

/-- Beside other files a file that cannot be parsed is no error. -/
theorem run_ne_parse_error (loaded : Loader.load store path options.depth = .ok files)
    (several : 2 ≤ files.length) (file : String) (error : ParseError) :
    run store path options ≠ .error (.parse file error) := by
  intro failed
  rcases bind_eq_error_iff.mp failed with missing | ⟨_, -, failed⟩
  · rw [ensureArtifacts] at missing
    split at missing <;> cases missing
  rcases bind_eq_error_iff.mp failed with unloaded | ⟨others, othersEq, failed⟩
  · obtain ⟨cause, -, impossible⟩ := mapError_eq_error_iff.mp unloaded
    cases impossible
  rcases bind_eq_error_iff.mp failed with unparsed | ⟨batch, -, failed⟩
  · obtain ⟨cause, parsed, -⟩ := mapError_eq_error_iff.mp unparsed
    cases loaded.symm.trans (mapError_eq_ok_iff.mp othersEq)
    rw [(Batch.parse_eq_error_iff.mp parsed).1, List.length_singleton] at several
    omega
  rcases bind_eq_error_iff.mp failed with unscanned | ⟨_, -, impossible⟩
  · obtain ⟨cause, -, impossible⟩ := mapError_eq_error_iff.mp unscanned
    cases impossible
  · cases impossible

end

/-- Nothing is loaded from a path only for one of three reasons. -/
theorem load_error_cases {store : FileStore} {path : String} {depth : Nat} {error : LoadError}
    (failed : Loader.load store path depth = .error error) :
    error = .noFiles path ∨ error = .notAccepted path ∨
      ∃ file reason, error = .unreadable file reason := by
  have unreadable {file : RawPath} {kind : FileKind}
      (failed : Loader.loadFile store file kind = .error error) :
      ∃ file reason, error = .unreadable file reason := by
    unfold Loader.loadFile at failed
    split at failed <;> cases failed
    exact ⟨_, _, rfl⟩
  unfold Loader.load at failed
  split at failed
  · rcases bind_eq_error_iff.mp failed with failed | ⟨files, -, failed⟩
    · obtain ⟨-, found, -, -, -, failed⟩ := mapM_eq_error_iff.mp failed
      exact .inr (.inr (unreadable failed))
    · split at failed <;> cases failed
      exact .inl rfl
  · split at failed
    · cases failed
      exact .inr (.inl rfl)
    · exact .inr (.inr (unreadable (map_eq_error_iff.mp failed)))

/-- Which outcome a scan has. -/
structure Precedence (store : FileStore) (path : String) (options : ScanOptions) : Prop where
  error_iff : ∀ error, run store path options = .error error ↔
    (defects store path options).head? = some error
  ok_iff : (∃ results, run store path options = .ok results) ↔ defects store path options = []
  required_eq : Artifacts.required ⟨options.directory⟩ =
    ["k8s_policy.rego", "k8s_data.json", "tf_policy.rego", "tf_data.json"].map
      (Path.join options.directory)
  /-- If some artifacts are not there, the outcome is the same for any path, any way to
  scan it and any store that lacks the same ones. -/
  of_incomplete : (∃ required ∈ Artifacts.required ⟨options.directory⟩, ¬store.isFile required) →
    ∀ (other : FileStore) (otherPath : String) (otherOptions : ScanOptions),
      otherOptions.directory = options.directory →
      (∀ required ∈ Artifacts.required ⟨options.directory⟩,
        other.isFile required = store.isFile required) →
      run other otherPath otherOptions =
        .error (.missingArtifacts (Artifacts.required ⟨options.directory⟩))
  load_error_cases : ∀ error, Loader.load store path options.depth = .error error →
    error = .noFiles path ∨ error = .notAccepted path ∨
      ∃ file reason, error = .unreadable file reason
  of_several : ∀ files, Loader.load store path options.depth = .ok files → 2 ≤ files.length →
    ∀ file error, run store path options ≠ .error (.parse file error)

/-- A scan ends with the first defect of a fixed order and otherwise has results. -/
theorem run_precedence (store : FileStore) (path : String) (options : ScanOptions) :
    Precedence store path options where
  error_iff := fun _ => (run_leads store path options).error_iff
  ok_iff := (run_leads store path options).ok_iff
  required_eq := rfl
  of_incomplete := by
    rintro ⟨required, member, absent⟩ other otherPath otherOptions sameDirectory same
    rw [← sameDirectory] at member same ⊢
    refine run_of_incomplete otherPath (List.all_eq_false.mpr ⟨required, member, ?_⟩)
    rw [same required member]
    exact absent
  load_error_cases := fun _ failed => load_error_cases failed
  of_several := fun _ loaded several => run_ne_parse_error loaded several

end PolicyScan.Pipeline
