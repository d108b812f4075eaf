import PolicyScan.FileKind
import PolicyScan.Json.Writer
import PolicyScan.Rego.Evaluation
import PolicyScan.Rego.Module.Reader
import PolicyScan.Text.Quoted
import PolicyScan.Violation.Reader

/-!
# Policy engines

An engine runs the policy of one domain.  It is built from the text of a module
and from metadata, a JSON object that the module sees as its data.  For a
document it evaluates the entrypoint, one of the module's rules: the value is
the list of the document's violations, and a rule without a value finds none.

The document is handed over as text, so that the reader's limit on nesting
holds for it too.  The value comes back as text in the same way.
-/

namespace PolicyScan

/-- An engine, ready to run. -/
structure Engine where
  domain : Domain
  module : Rego.Module
  data : Rego.Value
  entrypoint : String

namespace Engine

/-- The rule that is evaluated unless told otherwise. -/
def defaultEntrypoint : String := "data.rules.deny"

/-- What is wrong with the texts of a policy. -/
inductive Defect where
  | module (misread : Rego.Misread)
  | metadata (reason : String)
deriving DecidableEq

/-- The defect in words. -/
def Defect.message : Defect → String
  | .module misread => "invalid policy module: " ++ misread.message
  | .metadata reason => "invalid policy metadata: " ++ reason

/-- The object of a metadata text. -/
def metadataOf (text : String) : Except String Json := do
  match ← Json.parse text with
  | .obj fields => .ok (.obj fields)
  | _ => .error "expected a JSON object at the top level"

/-- The engine of a module and its metadata. -/
def build (domain : Domain) (source metadata entrypoint : String) : Except Defect Engine := do
  let module ← (Rego.Module.ofText source).mapError .module
  let data ← (metadataOf metadata).mapError .metadata
  return ⟨domain, module, .ofJson data, entrypoint⟩

/-- Why an engine has no answer for a document. -/
inductive Failure where
  /-- The document cannot be read as an input. -/
  | input (reason : String)
  | evaluation (fault : Rego.Fault)
  /-- The value of the entrypoint is no list of violations. -/
  | unexpected (entrypoint reason : String)
deriving DecidableEq

/-- The failure in words. -/
def Failure.message : Failure → String
  | .input reason => reason
  | .evaluation fault => fault.message
  | .unexpected entrypoint reason =>
    "unexpected result from " ++ entrypoint ++ ": " ++ reason

/-- A document as an engine sees it. -/
def inputOf (document : Json) : Except Failure Json :=
  (Json.parse document.compact).mapError .input

/-- The value of the entrypoint for an input; none if it is undefined. -/
def value (engine : Engine) (input : Json) : Except Failure (Option Rego.Value) :=
  (engine.module.evaluate engine.data (.ofJson input) engine.entrypoint).mapError .evaluation

/-- The violations that a value lists. -/
def violationsOf (entrypoint : String) (value : Rego.Value) :
    Except Failure (List Violation) := do
  match value.toJson? with
  | some json =>
    (Violation.listOfText json.pretty).mapError (Failure.unexpected entrypoint)
  | none => throw (.evaluation .noText)

/-- The violations of a document. -/
def evaluate (engine : Engine) (document : Json) : Except Failure (List Violation) := do
  let input ← inputOf document
  match ← engine.value input with
  | some value => violationsOf engine.entrypoint value
  | none => return []

/-- The name of a domain as the description of an engine has it. -/
def domainTitle : Domain → String
  | .kubernetes => "Kubernetes"
  | .terraform => "Terraform"

/-- A description of an engine, with its entrypoint in quotes. -/
def description (engine : Engine) : String :=
  "PolicyEngine \x7b engine_type: " ++ domainTitle engine.domain ++ ", entrypoint: "
    ++ Text.quoted engine.entrypoint ++ ", .. \x7d"

end Engine
end PolicyScan
