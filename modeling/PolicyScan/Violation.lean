import PolicyScan.Json.Basic

/-!
# Violations

A policy reports each violation as a record of thirteen fields.  The scanner
does not look into them, apart from the severity, which a threshold filters
by.  A field that a policy leaves out has a default.
-/

namespace PolicyScan

/-- How grave a violation is. -/
inductive Severity where
  | low
  | medium
  | high
  | critical
deriving DecidableEq, Repr, Inhabited

namespace Severity

/-- The severities, from the least to the gravest. -/
def all : List Severity := [.low, .medium, .high, .critical]

/-- The place of a severity in `all`. -/
def rank : Severity → Nat
  | .low => 0
  | .medium => 1
  | .high => 2
  | .critical => 3

/-- A severity is at most another if its place is. -/
instance : LE Severity := ⟨fun a b => a.rank ≤ b.rank⟩

instance (a b : Severity) : Decidable (a ≤ b) :=
  inferInstanceAs (Decidable (a.rank ≤ b.rank))

/-- The name of a severity. -/
def name : Severity → String
  | .low => "low"
  | .medium => "medium"
  | .high => "high"
  | .critical => "critical"

/-- The severities with their names. -/
def options : List (String × Severity) := all.map fun s => (s.name, s)

/-- The severity of a name. -/
def ofName? (name : String) : Option Severity := options.lookup name

@[simp]
theorem ofName?_name (s : Severity) : ofName? s.name = some s := by
  cases s <;> decide

theorem name_injective {s t : Severity} (same : s.name = t.name) : s = t :=
  Option.some.inj (by rw [← ofName?_name s, same, ofName?_name])

theorem name_of_ofName? {name : String} {s : Severity} (known : ofName? name = some s) :
    s.name = name := by
  obtain ⟨before, after, optionsEq, -⟩ := List.lookup_eq_some_iff.mp known
  have member : (name, s) ∈ options := by
    rw [optionsEq]
    simp
  obtain ⟨t, -, equal⟩ := List.mem_map.mp member
  cases equal
  rfl

end Severity

/-- The kind of policy that found a violation. -/
inductive PolicyKind where
  | opa
deriving DecidableEq, Repr, Inhabited

namespace PolicyKind

/-- The name of a kind. -/
def name : PolicyKind → String
  | .opa => "opa"

/-- The kinds with their names. -/
def options : List (String × PolicyKind) := [(name .opa, .opa)]

end PolicyKind

/-- A violation as a policy reports it. -/
structure Violation where
  id : String := ""
  publicId : String := ""
  type : String := ""
  subType : String := ""
  title : String := ""
  description : String := ""
  severity : Severity := .low
  msg : String := ""
  policyKind : PolicyKind := .opa
  issue : String := ""
  impact : String := ""
  resolve : String := ""
  references : List String := []
deriving DecidableEq, Inhabited

namespace Violation

/-- A field of the record. -/
inductive Field where
  | id
  | publicId
  | type
  | subType
  | title
  | description
  | severity
  | msg
  | policyKind
  | issue
  | impact
  | resolve
  | references
deriving DecidableEq, Repr

namespace Field

/-- The fields in the order in which they are written. -/
def all : List Field :=
  [.id, .publicId, .type, .subType, .title, .description, .severity, .msg, .policyKind,
    .issue, .impact, .resolve, .references]

theorem mem_all (f : Field) : f ∈ all := by
  cases f <;> decide

/-- The key of a field. -/
def key : Field → String
  | .id => "id"
  | .publicId => "publicId"
  | .type => "type"
  | .subType => "subType"
  | .title => "title"
  | .description => "description"
  | .severity => "severity"
  | .msg => "msg"
  | .policyKind => "policyEngineType"
  | .issue => "issue"
  | .impact => "impact"
  | .resolve => "resolve"
  | .references => "references"

/-- The field of a key. -/
def ofKey? (key : String) : Option Field := all.find? fun f => f.key = key

@[simp]
theorem ofKey?_key (f : Field) : ofKey? f.key = some f := by
  cases f <;> decide

/-- The value of a field in a record. -/
def value (f : Field) (v : Violation) : Json :=
  match f with
  | .id => .str v.id
  | .publicId => .str v.publicId
  | .type => .str v.type
  | .subType => .str v.subType
  | .title => .str v.title
  | .description => .str v.description
  | .severity => .str v.severity.name
  | .msg => .str v.msg
  | .policyKind => .str v.policyKind.name
  | .issue => .str v.issue
  | .impact => .str v.impact
  | .resolve => .str v.resolve
  | .references => .arr (v.references.map .str)

end Field

/-- The record as an object, its fields in order. -/
def toJson (v : Violation) : Json := .obj (Field.all.map fun f => (f.key, f.value v))

end Violation
end PolicyScan
