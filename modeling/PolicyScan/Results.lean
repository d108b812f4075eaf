import PolicyScan.Scan

/-!
# Results of a scan

The scanned documents with their violations, and what was not scanned.  A
threshold leaves out violations of lesser severity.
-/

namespace PolicyScan

/-- What a scan finds. -/
structure Results where
  scanned : List Scanned
  unscanned : List Unscanned

namespace Scanned

/-- The violations at or above a severity, in their order. -/
def violationsFrom (s : Scanned) (threshold : Severity) : List Violation :=
  s.violations.filter fun v => threshold ≤ v.severity

end Scanned

namespace Results

/-- The number of violations at or above a severity. -/
def violationCount (results : Results) (threshold : Severity) : Nat :=
  results.scanned.foldl (fun n s => n + (s.violationsFrom threshold).length) 0

/-- Put a document behind those of the same position or a lower one. -/
def insertByPosition (s : Scanned) : List Scanned → List Scanned
  | [] => [s]
  | t :: rest => if s.position < t.position then s :: t :: rest else t :: insertByPosition s rest

/-- The scanned documents by position; of equal positions the earlier one in
the list comes first. -/
def inOrder (results : Results) : List Scanned :=
  results.scanned.foldl (fun acc s => insertByPosition s acc) []

end Results
end PolicyScan
