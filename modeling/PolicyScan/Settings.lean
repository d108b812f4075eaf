import PolicyScan.Pipeline
import PolicyScan.Report
import PolicyScan.Toml.Reader

/-!
# Settings

Settings come from a TOML file with three sections.  A key that the file has
decides, any other key has its default, and unknown keys do not matter.  A file
with one value of a wrong kind counts for nothing.

A file that is named must be good.  Otherwise the first good one counts of a
file in the project and a file in the home directory, and failing both the
defaults do.
-/

namespace PolicyScan

/-- How a scan is done and reported. -/
structure Settings where
  scan : ScanOptions
  format : Report.Format
  /-- The least severity that is reported and counted. -/
  threshold : Severity
deriving DecidableEq, Repr

namespace Settings

/-- The settings where no file says otherwise. -/
def default (home? : Option String) : Settings where
  scan := {
    directory := Artifacts.defaultDirectory home?
    depth := Loader.defaultDepth
    entrypoint := Engine.defaultEntrypoint
    isolate := false }
  format := .plain
  threshold := .low

/-! ## Decoding -/

/-- What is wrong with the text of a file. -/
inductive Defect where
  | notToml (fault : Toml.Fault)
  /-- The value of a key or a section is of a wrong kind. -/
  | mismatch (key : String)
deriving DecidableEq, Repr

/-- The defect in words. -/
def Defect.message : Defect → String
  | .notToml fault => fault.message
  | .mismatch key => "invalid value for `" ++ key ++ "`"

/-- The entries of a section: the fields of a table, or the values of an array
in the order of the keys.  A date has none. -/
def entries? (keys : List String) : Toml.Value → Option Toml.Table
  | .table fields => some fields
  | .array items => some (keys.zip items)
  | .date _ => some []
  | _ => none

/-- The entries of a section of a document. -/
def sectionOf (document : Toml.Table) (name : String) (keys : List String) :
    Except Defect Toml.Table :=
  match document.lookup name with
  | none => .ok []
  | some v =>
    match entries? keys v with
    | some entries => .ok entries
    | none => .error (.mismatch name)

/-- The value of a key, by default that of `fallback`. -/
def entry {α : Type} (decode? : Toml.Value → Option α) (entries : Toml.Table) (key : String)
    (fallback : α) : Except Defect α :=
  match entries.lookup key with
  | none => .ok fallback
  | some v =>
    match decode? v with
    | some x => .ok x
    | none => .error (.mismatch key)

/-- A text. -/
def text? : Toml.Value → Option String
  | .string s => some s
  | _ => none

/-- A truth value. -/
def truth? : Toml.Value → Option Bool
  | .boolean b => some b
  | _ => none

/-- A natural number below `2 ^ 64`. -/
def count? : Toml.Value → Option Nat
  | .integer n => if 0 ≤ n ∧ n < 0x10000000000000000 then some n.toNat else none
  | _ => none

/-- A name: a text, or the one key of a table that leads to nothing. -/
def name? : Toml.Value → Option String
  | .string s => some s
  | .table [(name, .table [])] => some name
  | .table [(name, .array [])] => some name
  | _ => none

/-- The settings of a document. -/
def ofDocument (fallback : Settings) (document : Toml.Table) : Except Defect Settings := do
  let cache ← sectionOf document "cache" ["dir"]
  let scan ← sectionOf document "scan" ["max_depth", "entrypoint", "isolate_failures"]
  let output ← sectionOf document "output" ["format", "severity_threshold"]
  return {
    scan := {
      directory := ← entry text? cache "dir" fallback.scan.directory
      depth := ← entry count? scan "max_depth" fallback.scan.depth
      entrypoint := ← entry text? scan "entrypoint" fallback.scan.entrypoint
      isolate := ← entry truth? scan "isolate_failures" fallback.scan.isolate }
    format := ← entry (fun v => (name? v).bind Report.Format.ofName?) output "format"
      fallback.format
    threshold := ← entry (fun v => (name? v).bind Severity.ofName?) output
      "severity_threshold" fallback.threshold }

/-- The settings of a text. -/
def ofText (fallback : Settings) (text : String) : Except Defect Settings := do
  ofDocument fallback (← (Toml.document text).mapError .notToml)

end Settings

/-- Why there are no settings. -/
inductive SettingsError where
  | unreadable (path : String) (reason : ReadError)
  | defective (path : String) (defect : Settings.Defect)
deriving DecidableEq

/-- The error in words. -/
def SettingsError.message : SettingsError → String
  | .unreadable path reason =>
    "Configuration error: Failed to read config file " ++ path ++ ": " ++ reason.message
  | .defective path defect =>
    "Configuration error: Failed to parse config file " ++ path ++ ": " ++ defect.message

namespace Settings

/-! ## Files -/

/-- The name of a file of settings. -/
def fileName : String := ".iac-scan.toml"

/-- The settings of a file. -/
def read (store : FileStore) (home? : Option String) (path : String) :
    Except SettingsError Settings := do
  let text ← (store.readText path).mapError (SettingsError.unreadable path)
  (ofText (default home?) text).mapError (SettingsError.defective path)

/-- The files that are tried in turn when none is named. -/
def candidates (home? project? : Option String) : List String :=
  (project?.toList ++ home?.toList).map fun directory => Path.join directory fileName

/-- The settings for a scan. -/
def load (store : FileStore) (home? named? project? : Option String) :
    Except SettingsError Settings :=
  match named? with
  | some path => read store home? path
  | none =>
    .ok (((candidates home? project?).findSome? fun path =>
      (read store home? path).toOption).getD (default home?))

end Settings
end PolicyScan
