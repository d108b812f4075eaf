import PolicyScan.Report.Span
import PolicyScan.Results

/-!
# Reports to be read

A section for each scanned document in order, the files that were not scanned,
and the number of violations.  Only violations at or above the threshold are
shown and counted.
-/

namespace PolicyScan.Report

/-- The title of a severity. -/
def severityTitle : Severity → String
  | .low => "LOW"
  | .medium => "MEDIUM"
  | .high => "HIGH"
  | .critical => "CRITICAL"

/-- The style of a severity. -/
def severityStyle : Severity → Style
  | .low => .normal
  | .medium => .yellow
  | .high => .boldRed
  | .critical => .boldMagenta

/-- Where a document stands: its file, and its place in a manifest. -/
def location (d : Document) : String :=
  match d.index? with
  | some index => d.file.path ++ " (document " ++ toString index ++ ")"
  | none => d.file.path

/-- A line for a text, none for an empty one. -/
def detailLine (title text : String) : List Span :=
  if text = "" then [] else [.normal ("    " ++ title ++ ": " ++ text ++ "\n")]

/-- The lines of a violation. -/
def violationLines (v : Violation) : List Span :=
  .normal "  " :: ⟨severityStyle v.severity, "✗ " ++ severityTitle v.severity⟩ ::
    .normal (" " ++ v.title ++ " [" ++ v.publicId ++ "]\n") ::
    (detailLine "Path" v.msg ++ detailLine "Remediation" v.resolve)

/-- The line above the violations of a document. -/
def headerLine (d : Document) : List Span :=
  [.normal "\nTesting ", ⟨.bold, location d⟩, .normal (" [" ++ d.domain.name ++ "]\n")]

/-- The lines of violations, or the line that says that there are none. -/
def violationBlock : List Violation → List Span
  | [] => [.normal "  ", ⟨.green, "No issues found."⟩, .normal "\n"]
  | violations => violations.flatMap violationLines

/-- The section of a document. -/
def documentLines (threshold : Severity) (s : Scanned) : List Span :=
  headerLine s.document ++ violationBlock (s.violationsFrom threshold)

/-- The line of a file that was not scanned. -/
def unscannedLine (u : Unscanned) : Span :=
  .normal ("  " ++ u.file.path ++ ": " ++ u.reason ++ "\n")

/-- The files that were not scanned, if there are any. -/
def unscannedLines : List Unscanned → List Span
  | [] => []
  | unscanned =>
    .normal "\n" :: ⟨.yellow, "Files that could not be scanned:"⟩ :: .normal "\n" ::
      unscanned.map unscannedLine

/-- The last line. -/
def summaryLine (violations documents : Nat) : Span :=
  .normal (
    if violations = 0 then "\nNo issues found.\n"
    else "\nFound " ++ toString violations ++ " issue(s) across " ++ toString documents
      ++ " document(s).\n")

/-- The report. -/
def plainSpans (results : Results) (threshold : Severity) : List Span :=
  results.inOrder.flatMap (documentLines threshold) ++ unscannedLines results.unscanned
    ++ [summaryLine (results.violationCount threshold) results.scanned.length]

end PolicyScan.Report
