import PolicyScan.Command
import PolicyScan.Proofs.Arguments
import PolicyScan.Proofs.Pipeline
import PolicyScan.Proofs.Report

/-!
# The command from its arguments to its exit code

For accepted arguments the command either has an error and prints nothing, or prints
the report of the results and fails just if the report shows violations and the
arguments do not say otherwise (`execute_performs`).  What is printed, shown and counted
is settled by the same settings, each of which is that of its option if there is one
and that of the file of settings otherwise (`effective_overrides`).
-/

namespace PolicyScan.Command

open Arguments (optionsOf Takes Gives)

/-- What options leave of settings. -/
structure Overrides (options : List String) (settings used : Settings) : Prop where
  directory_given : ∀ directory, Takes "--cache-dir" directory options →
    used.scan.directory = directory
  directory_kept : (∀ directory, ¬Takes "--cache-dir" directory options) →
    used.scan.directory = settings.scan.directory
  isolate : used.scan.isolate ↔ "--isolate-failures" ∈ options ∨ settings.scan.isolate
  format : used.format = if "--json" ∈ options then .json else settings.format
  threshold_given : ∀ threshold : Severity,
    Takes "--severity-threshold" threshold.name options → used.threshold = threshold
  threshold_kept : (∀ threshold : Severity, ¬Takes "--severity-threshold" threshold.name options) →
    used.threshold = settings.threshold
  depth : used.scan.depth = settings.scan.depth
  entrypoint : used.scan.entrypoint = settings.scan.entrypoint

/-- What the command does. -/
structure Performs (store : FileStore) (home? : Option String) (colour : Bool)
    (list : List String) (args : Arguments) : Prop where
  /-- Without settings nothing is printed. -/
  settings_error : ∀ error, Settings.load store home? args.config? (some "") = .error error →
    execute store home? colour list = (⟨1, ""⟩, some (.settings error))
  /-- The options decide over the settings. -/
  overrides : ∀ settings, Overrides (optionsOf list) settings (effective args settings)
  /-- Without results nothing is printed. -/
  pipeline_error : ∀ settings error,
    Settings.load store home? args.config? (some "") = .ok settings →
      Pipeline.run store args.path (effective args settings).scan = .error error →
        execute store home? colour list = (⟨1, ""⟩, some (.pipeline error))
  /-- Otherwise the report is printed, and the exit code is that of the violations it
  shows. -/
  report : ∀ settings results,
    Settings.load store home? args.config? (some "") = .ok settings →
      Pipeline.run store args.path (effective args settings).scan = .ok results →
        ∃ code text, execute store home? colour list = (⟨code, text ++ "\n"⟩, none) ∧
          text = Report.text results (effective args settings).format
            (effective args settings).threshold colour ∧
          (code = 0 ∨ code = 1) ∧
          (code = 1 ↔ Report.Shows (effective args settings).format text ∧
            "--no-fail" ∉ optionsOf list) ∧
          (Report.Shows (effective args settings).format text ↔
            ∃ s ∈ results.scanned, ∃ v ∈ s.violations,
              (effective args settings).threshold ≤ v.severity)

variable {list : List String} {args : Arguments}

theorem effective_overrides {options : List String} (gives : Gives options args)
    (settings : Settings) : Overrides options settings (effective args settings) where
  directory_given := by
    intro directory taken
    rw [effective, (gives.directory directory).mpr taken, Option.getD_some]
  directory_kept := by
    intro none
    have notGiven : args.directory? = .none :=
      Option.eq_none_iff_forall_ne_some.mpr fun directory given =>
        none directory ((gives.directory directory).mp given)
    rw [effective, notGiven, Option.getD_none]
  isolate := by
    rw [effective, Bool.or_eq_true, gives.isolate, or_comm]
  format := by
    rw [effective]
    exact if_congr gives.json rfl rfl
  threshold_given := by
    intro threshold taken
    rw [effective, (gives.threshold threshold).mpr taken, Option.getD_some]
  threshold_kept := by
    intro none
    have notGiven : args.threshold? = .none :=
      Option.eq_none_iff_forall_ne_some.mpr fun threshold given =>
        none threshold ((gives.threshold threshold).mp given)
    rw [effective, notGiven, Option.getD_none]
  depth := rfl
  entrypoint := rfl

theorem exitCode_cases (violations : Nat) (noFail : Bool) :
    exitCode violations noFail = 0 ∨ exitCode violations noFail = 1 := by
  rw [exitCode]
  split
  · exact .inr rfl
  · exact .inl rfl

theorem exitCode_eq_one_iff {violations : Nat} {noFail : Bool} :
    exitCode violations noFail = 1 ↔ 0 < violations ∧ noFail = false := by
  simp [exitCode]

/-! ## Outcomes of accepted arguments -/

section

variable {store : FileStore} {home? : Option String} {settings : Settings} (colour : Bool)

theorem execute_of_settings_error (accepted : Arguments.ofList list = .ok args)
    {error : SettingsError}
    (unsettled : Settings.load store home? args.config? (some "") = .error error) :
    execute store home? colour list = (⟨1, ""⟩, some (.settings error)) := by
  rw [execute, accepted]
  simp only [run, unsettled]
  rfl

theorem execute_of_pipeline_error (accepted : Arguments.ofList list = .ok args)
    (settled : Settings.load store home? args.config? (some "") = .ok settings)
    {error : PipelineError}
    (failed : Pipeline.run store args.path (effective args settings).scan = .error error) :
    execute store home? colour list = (⟨1, ""⟩, some (.pipeline error)) := by
  have scanned : scan store args settings colour = .error error := by
    rw [scan, failed]
    rfl
  rw [execute, accepted]
  simp only [run, settled, Except.mapError, bind, Except.bind, scanned]

theorem execute_of_results (accepted : Arguments.ofList list = .ok args)
    (settled : Settings.load store home? args.config? (some "") = .ok settings)
    {results : Results}
    (done : Pipeline.run store args.path (effective args settings).scan = .ok results) :
    execute store home? colour list =
      (outcome (effective args settings) args.noFail colour results, none) := by
  have scanned : scan store args settings colour =
      .ok (outcome (effective args settings) args.noFail colour results) := by
    rw [scan, done]
    rfl
  rw [execute, accepted]
  simp only [run, settled, Except.mapError, bind, Except.bind, scanned]

end

/-- The command performs what accepted arguments ask for. -/
theorem execute_performs (accepted : Arguments.ofList list = .ok args) (store : FileStore)
    (home? : Option String) (colour : Bool) : Performs store home? colour list args where
  settings_error := fun _ unsettled => execute_of_settings_error colour accepted unsettled
  overrides := effective_overrides (Arguments.ofList_gives accepted)
  pipeline_error := fun _ _ settled failed =>
    execute_of_pipeline_error colour accepted settled failed
  report := by
    intro settings results settled done
    have gives := Arguments.ofList_gives accepted
    have shows := Report.shows_text_iff results (effective args settings).threshold colour
      (effective args settings).format
    have notFail : args.noFail = false ↔ "--no-fail" ∉ optionsOf list := by
      rw [← gives.noFail, Bool.not_eq_true]
    refine ⟨_, _, execute_of_results colour accepted settled done, rfl, exitCode_cases _ _, ?_,
      shows⟩
    rw [exitCode_eq_one_iff, shows, Results.violationCount_pos_iff, notFail]

/-- A document and a file that are not scanned do not make the command fail; if documents
are not set aside, there is only an error. -/
theorem execute_performs_fourFiles :
    (execute Pipeline.fourFiles none true
        ["test", "c", "--isolate-failures", "--cache-dir=p"]).1.code = 0 ∧
      (execute Pipeline.fourFiles none false ["test", "--cache-dir", "p", "c"]).1 = ⟨1, ""⟩ := by
  have settled :
      Settings.load Pipeline.fourFiles none none (some "") = .ok (Settings.default none) := by
    decide +kernel
  constructor
  · have performs := @execute_performs ["test", "c", "--isolate-failures", "--cache-dir=p"]
      ⟨"c", false, none, some "p", true, false, none, 0, false⟩ (by decide) Pipeline.fourFiles
      none true
    have counted : (Pipeline.run Pipeline.fourFiles "c"
        ⟨"p", 6, Engine.defaultEntrypoint, true⟩).toOption.map (·.violationCount .low) =
          some 0 := by decide +kernel
    cases done : Pipeline.run Pipeline.fourFiles "c" ⟨"p", 6, Engine.defaultEntrypoint, true⟩ with
    | error error =>
        rw [done] at counted
        contradiction
    | ok results =>
        rw [done] at counted
        have none : ¬0 < results.violationCount .low := Nat.not_lt.mpr (Option.some.inj counted).le
        rw [Results.violationCount_pos_iff] at none
        obtain ⟨code, text, executed, -, either, fails, shows⟩ :=
          performs.report _ results settled done
        rw [executed]
        exact either.resolve_right fun failed => none (shows.mp (fails.mp failed).1)
  · have performs := @execute_performs ["test", "--cache-dir", "p", "c"]
      ⟨"c", false, none, some "p", false, false, none, 0, false⟩ (by decide) Pipeline.fourFiles
      none false
    have failed : (Pipeline.run Pipeline.fourFiles "c"
        ⟨"p", 6, Engine.defaultEntrypoint, false⟩).toOption.isNone := by decide +kernel
    cases done : Pipeline.run Pipeline.fourFiles "c" ⟨"p", 6, Engine.defaultEntrypoint, false⟩ with
    | error error => rw [performs.pipeline_error _ error settled done]
    | ok results =>
        rw [done] at failed
        contradiction

end PolicyScan.Command
