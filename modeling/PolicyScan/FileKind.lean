import PolicyScan.Path

/-!
# Kinds of files

A file declares its kind by the extension of its path, which must be one of
four in lower case.  The kind decides the policy domain of the documents
inside.
-/

namespace PolicyScan

/-- A policy domain.  Each has its own policy. -/
inductive Domain where
  | kubernetes
  | terraform
deriving DecidableEq, Repr, Inhabited

namespace Domain

/-- Every domain, in the order in which policies are loaded. -/
def all : List Domain := [.kubernetes, .terraform]

theorem mem_all (d : Domain) : d ∈ all := by
  cases d <;> simp [all]

/-- The place of a domain in `all`. -/
def index : Domain → Nat
  | .kubernetes => 0
  | .terraform => 1

theorem all_getElem?_index (d : Domain) : all[d.index]? = some d := by
  cases d <;> rfl

/-- The name of a domain in reports. -/
def name : Domain → String
  | .kubernetes => "kubernetes"
  | .terraform => "terraform"

/-- The domain of a name. -/
def ofName? : String → Option Domain
  | "kubernetes" => some .kubernetes
  | "terraform" => some .terraform
  | _ => none

@[simp]
theorem ofName?_name (d : Domain) : ofName? d.name = some d := by
  cases d <;> rfl

end Domain

/-- The kind that a file declares itself to be. -/
inductive FileKind where
  | tf
  | json
  | yaml
  | yml
deriving DecidableEq, Repr, Inhabited

namespace FileKind

/-- The extension of a kind, which is also its name. -/
def name : FileKind → String
  | .tf => "tf"
  | .json => "json"
  | .yaml => "yaml"
  | .yml => "yml"

/-- The kind of a name. -/
def ofName? : String → Option FileKind
  | "tf" => some .tf
  | "json" => some .json
  | "yaml" => some .yaml
  | "yml" => some .yml
  | _ => none

@[simp]
theorem ofName?_name (k : FileKind) : ofName? k.name = some k := by
  cases k <;> rfl

/-- The policy domain of the documents in a file. -/
def domain : FileKind → Domain
  | .tf => .terraform
  | .json | .yaml | .yml => .kubernetes

/-- The kind of the file at a path; none if the scanner does not take it. -/
def ofPath? (path : RawPath) : Option FileKind :=
  (path.extension?.bind Utf8.decode?).bind ofName?

end FileKind
end PolicyScan
