import PolicyScan.Text.Lines
import PolicyScan.Yaml.Document

/-!
# Kubernetes manifests

A manifest is a stream of YAML documents, each an object with the fields that
every Kubernetes object has.  The whole stream is read before any document is
checked.  A text of blanks and comments alone holds no documents.
-/

namespace PolicyScan.Manifest

/-- The fields that every object must have. -/
def requiredFields : List String := ["apiVersion", "kind", "metadata"]

/-- The required fields that a value lacks. -/
def missingFields (value : Json) : List String :=
  requiredFields.filter fun field => (value.get? field).isNone

/-- Whether some line holds more than blanks and a comment. -/
def hasContent (text : String) : Bool :=
  (Text.lines text.toList).any fun line =>
    match line.dropWhile Text.isWhite with
    | [] => false
    | c :: _ => c ≠ '#'

/-- Why a manifest is refused. -/
inductive Refusal where
  | notYaml (fault : Yaml.Fault)
  /-- The first document that lacks fields. -/
  | missing (index : Nat) (fields : List String)
deriving DecidableEq

/-- The refusal in words. -/
def Refusal.message : Refusal → String
  | .notYaml fault => "Invalid K8s File! YAML syntax error: " ++ fault.message
  | .missing index fields =>
    "Invalid K8s File! Document " ++ toString index ++ " is missing required field(s): "
      ++ ", ".intercalate fields

/-- Check the documents from the one at `index` on. -/
def check (index : Nat) : List Json → Except Refusal Unit
  | [] => .ok ()
  | value :: rest =>
    match missingFields value with
    | [] => check (index + 1) rest
    | fields => .error (.missing index fields)

/-- The objects of a manifest. -/
def objects (text : String) : Except Refusal (List Json) :=
  if hasContent text then do
    let values ← (Yaml.values text).mapError Refusal.notYaml
    check 0 values
    return values
  else .ok []

end PolicyScan.Manifest
