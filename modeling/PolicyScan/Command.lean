import PolicyScan.Arguments
import PolicyScan.Settings

/-!
# The command

The command reads its arguments, looks for settings in the working directory
and in the home directory, and scans a path.  Arguments decide over settings.
It succeeds unless violations are reported, and then still does if it is told
not to fail.  When there is no report, nothing is printed.
-/

namespace PolicyScan

/-- Why the command prints no report. -/
inductive CommandError where
  | settings (error : SettingsError)
  | pipeline (error : PipelineError)
deriving DecidableEq

/-- The error in words. -/
def CommandError.message : CommandError → String
  | .settings error => error.message
  | .pipeline error => error.message

/-- What the command ends with. -/
structure Outcome where
  code : Nat
  output : String
deriving DecidableEq, Repr

namespace Command

/-- The settings that the arguments leave. -/
def effective (args : Arguments) (settings : Settings) : Settings where
  scan := { settings.scan with
    directory := args.directory?.getD settings.scan.directory
    isolate := settings.scan.isolate || args.isolate }
  format := if args.json then .json else settings.format
  threshold := args.threshold?.getD settings.threshold

/-- The exit code for a number of violations. -/
def exitCode (violations : Nat) (noFail : Bool) : Nat :=
  if violations > 0 && !noFail then 1 else 0

/-- The outcome for results. -/
def outcome (settings : Settings) (noFail colour : Bool) (results : Results) : Outcome where
  code := exitCode (results.violationCount settings.threshold) noFail
  output := Report.text results settings.format settings.threshold colour ++ "\n"

/-- Scan with settings. -/
def scan (store : FileStore) (args : Arguments) (settings : Settings) (colour : Bool) :
    Except PipelineError Outcome :=
  let settings := effective args settings
  (Pipeline.run store args.path settings.scan).map (outcome settings args.noFail colour)

/-- Run the command. -/
def run (store : FileStore) (home? : Option String) (colour : Bool) (args : Arguments) :
    Except CommandError Outcome := do
  let settings ← (Settings.load store home? args.config? (some "")).mapError .settings
  (scan store args settings colour).mapError .pipeline

/-! ## The program -/

/-- The name and the version of the program. -/
def versionLine : String := "iac-scan 0.1.0\n"

/-- How the program is called. -/
def helpLines : List String :=
  ["Scan Kubernetes and Terraform files against locally cached policies",
    "",
    "Usage: iac-scan [OPTIONS] test [TEST OPTIONS] <PATH>",
    "",
    "Options:",
    "  -c, --config <FILE>  Path to configuration file",
    "  -v, --verbose        Enable verbose logging",
    "  -q, --quiet          Disable logging",
    "  -h, --help           Print help",
    "  -V, --version        Print version",
    "",
    "Test options:",
    "  --json                           Output results in JSON format",
    "  --severity-threshold <SEVERITY>  Only report issues at or above this severity",
    "  --cache-dir <DIR>                Directory holding the policy artifacts",
    "  --isolate-failures               Report documents whose evaluation failed",
    "  --no-fail                        Exit with status 0 even when issues are found"]

/-- What is printed and returned for arguments that start no scan. -/
def usageOutcome : Usage → Outcome
  | .help => ⟨0, String.join (helpLines.map (· ++ "\n"))⟩
  | .version => ⟨0, versionLine⟩
  | _ => ⟨2, ""⟩

/-- The outcome of a command line, and the error of a scan without a report. -/
def execute (store : FileStore) (home? : Option String) (colour : Bool) (args : List String) :
    Outcome × Option CommandError :=
  match Arguments.ofList args with
  | .error usage => (usageOutcome usage, none)
  | .ok args =>
    match run store home? colour args with
    | .ok outcome => (outcome, none)
    | .error error => (⟨1, ""⟩, some error)

end Command
end PolicyScan
