import PolicyScan.Report.Data
import PolicyScan.Report.Plain

/-!
# Reports

The results of a scan in one of two formats.  Colour is for the plain one only.
-/

namespace PolicyScan.Report

/-- The format of a report. -/
inductive Format where
  | plain
  | json
deriving DecidableEq, Repr, Inhabited

namespace Format

/-- The formats. -/
def all : List Format := [.plain, .json]

/-- The name of a format. -/
def name : Format → String
  | .plain => "plain"
  | .json => "json"

/-- The format of a name. -/
def ofName? (name : String) : Option Format := all.find? fun f => f.name = name

@[simp]
theorem ofName?_name (f : Format) : ofName? f.name = some f := by
  cases f <;> decide

end Format

/-- The text of a report. -/
def text (results : Results) (format : Format) (threshold : Severity) (colour : Bool) :
    String :=
  match format with
  | .plain => spansText colour (plainSpans results threshold)
  | .json => (data results threshold).pretty

end PolicyScan.Report
