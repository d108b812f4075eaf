import PolicyScan.Json.Writer
import PolicyScan.Results

/-!
# Reports for programs

The report as a JSON value: the scanned documents in order with their
violations, the files that were not scanned, and a summary.  Only violations at
or above the threshold are listed and counted.
-/

namespace PolicyScan.Report

/-- A document with its violations. -/
def scannedData (threshold : Severity) (s : Scanned) : Json :=
  .obj (
    [("filePath", .str s.document.file.path), ("fileType", .str s.document.file.kind.name),
      ("engineType", .str s.document.domain.name)]
    ++ s.document.index?.toList.map (fun (index : Nat) => ("docId", Json.int index))
    ++ [("violatedPolicies", .arr ((s.violationsFrom threshold).map Violation.toJson))])

/-- A file that was not scanned. -/
def unscannedData (u : Unscanned) : Json :=
  .obj [("filePath", .str u.file.path), ("fileType", .str u.file.kind.name),
    ("failureReason", .str u.reason)]

/-- The numbers of a report. -/
def summaryData (results : Results) (threshold : Severity) : Json :=
  .obj [("scanned", Json.int results.scanned.length),
    ("unscanned", Json.int results.unscanned.length),
    ("totalViolations", Json.int (results.violationCount threshold)),
    ("severityThreshold", .str threshold.name)]

/-- The report. -/
def data (results : Results) (threshold : Severity) : Json :=
  .obj [("scannedFiles", .arr (results.inOrder.map (scannedData threshold))),
    ("unscannedFiles", .arr (results.unscanned.map unscannedData)),
    ("summary", summaryData results threshold)]

end PolicyScan.Report
