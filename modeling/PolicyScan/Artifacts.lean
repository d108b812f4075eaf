import PolicyScan.Engine
import PolicyScan.FileStore

/-!
# Policies on disk

A directory holds four artifacts: for each domain the module of its policy and
the metadata.  A scan needs all of them as files, whatever it scans.

Of several defects the first one counts: the module's file, the metadata's
file, the module, the metadata.  The error names the file at fault.
-/

namespace PolicyScan

/-- The directory of the policies. -/
structure Artifacts where
  directory : String
deriving DecidableEq, Repr

namespace Artifacts

/-- The directory below a home directory, or below the working directory if
there is none. -/
def defaultDirectory (home? : Option String) : String :=
  match home? with
  | some home => Path.join (Path.join home ".iac-scan") ".iac-data"
  | none => ".iac-data"

/-- The name of the module of a domain. -/
def moduleName : Domain → String
  | .kubernetes => "k8s_policy.rego"
  | .terraform => "tf_policy.rego"

/-- The name of the metadata of a domain. -/
def metadataName : Domain → String
  | .kubernetes => "k8s_data.json"
  | .terraform => "tf_data.json"

/-- The path of the module of a domain. -/
def modulePath (artifacts : Artifacts) (domain : Domain) : String :=
  Path.join artifacts.directory (moduleName domain)

/-- The path of the metadata of a domain. -/
def metadataPath (artifacts : Artifacts) (domain : Domain) : String :=
  Path.join artifacts.directory (metadataName domain)

/-- The paths of all artifacts. -/
def required (artifacts : Artifacts) : List String :=
  Domain.all.flatMap fun domain =>
    [artifacts.modulePath domain, artifacts.metadataPath domain]

/-- Whether all artifacts are there. -/
def isComplete (artifacts : Artifacts) (store : FileStore) : Bool :=
  artifacts.required.all store.isFile

/-- Why an engine cannot be built. -/
inductive BuildError where
  | unreadable (path : String) (reason : ReadError)
  | defective (path : String) (defect : Engine.Defect)
deriving DecidableEq

namespace BuildError

/-- The file at fault. -/
def path : BuildError → String
  | .unreadable path _ => path
  | .defective path _ => path

/-- What is wrong with the file. -/
def reason : BuildError → String
  | .unreadable _ reason => reason.message
  | .defective _ defect => defect.message

/-- The error in words. -/
def message (error : BuildError) : String :=
  "Failed to build policy engine from path: " ++ error.path ++ ": \n err: " ++ error.reason

end BuildError

/-- The path of the artifact that has a defect. -/
def pathOfDefect (artifacts : Artifacts) (domain : Domain) : Engine.Defect → String
  | .module _ => artifacts.modulePath domain
  | .metadata _ => artifacts.metadataPath domain

/-- The text of an artifact. -/
def read (store : FileStore) (path : String) : Except BuildError String :=
  (store.readText path).mapError (BuildError.unreadable path)

/-- The engine of a domain. -/
def load (artifacts : Artifacts) (store : FileStore) (entrypoint : String) (domain : Domain) :
    Except BuildError Engine := do
  let source ← read store (artifacts.modulePath domain)
  let metadata ← read store (artifacts.metadataPath domain)
  (Engine.build domain source metadata entrypoint).mapError fun defect =>
    .defective (artifacts.pathOfDefect domain defect) defect

end Artifacts
end PolicyScan
