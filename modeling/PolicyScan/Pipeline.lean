import PolicyScan.Results

/-!
# From a path to results

The pipeline checks that the artifacts are there, loads the files of a path,
parses them into documents and scans these.  Files that cannot be parsed, of
which there can only be any beside others, are listed as unscanned, and so are
the documents that an isolated scan sets aside.
-/

namespace PolicyScan

/-- How a scan is done. -/
structure ScanOptions where
  /-- The directory of the policies. -/
  directory : String
  /-- How deep a directory is walked. -/
  depth : Nat
  /-- The rule that is evaluated. -/
  entrypoint : String
  /-- Whether documents that an engine fails on are set aside. -/
  isolate : Bool
deriving DecidableEq, Repr

/-- Why there are no results. -/
inductive PipelineError where
  /-- An artifact is missing of those at the given paths. -/
  | missingArtifacts (required : List String)
  | load (error : LoadError)
  | parse (path : String) (error : ParseError)
  | scan (error : ScanError)
deriving DecidableEq

/-- The error in words. -/
def PipelineError.message : PipelineError → String
  | .missingArtifacts required =>
    "Missing IaC local cache data, please validate you have: \n" ++ "\n".intercalate required
  | .load error => error.message
  | .parse path error => "Failed to parse " ++ path ++ ": " ++ error.message
  | .scan error => error.message

namespace Pipeline

/-- Check that all artifacts are there. -/
def ensureArtifacts (store : FileStore) (artifacts : Artifacts) : Except PipelineError Unit :=
  if artifacts.isComplete store then .ok ()
  else .error (.missingArtifacts artifacts.required)

/-- Scan documents in the way that the options ask for. -/
def scan (source : EngineCache.Source) (isolate : Bool) (documents : List Document) :
    Except ScanError (List Scanned × List Unscanned) :=
  if isolate then (Scan.isolated source documents .empty).1
  else (Scan.fatal source documents .empty).1.map (·, [])

/-- The results for the files of a path. -/
def run (store : FileStore) (path : String) (options : ScanOptions) :
    Except PipelineError Results := do
  let artifacts : Artifacts := ⟨options.directory⟩
  ensureArtifacts store artifacts
  let files ← (Loader.load store path options.depth).mapError .load
  let batch ← (Batch.parse files).mapError fun (file, error) => .parse file.path error
  let source := artifacts.load store options.entrypoint
  let (scanned, failed) ← (scan source options.isolate batch.documents).mapError .scan
  return ⟨scanned, batch.failed ++ failed⟩

end Pipeline
end PolicyScan
