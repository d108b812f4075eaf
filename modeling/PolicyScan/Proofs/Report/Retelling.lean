import PolicyScan.Proofs.Report.Data
import PolicyScan.Text.Uppercase

/-!
# Both reports tell the same

What a reader sees in the report to be read is what a program reads from the JSON report
(`text_plain_retells`).  Here the lines are told from the values of the JSON report alone:
a section for each of its scanned files, with lines for each of the violations listed
there, the block of its files that were not scanned, and a last line with its numbers.
-/

namespace PolicyScan.Report

/-! ## Lines for values -/

/-- A line that is there just if something holds. -/
def LineIf (shown : Prop) (line : String) (lines : List Span) : Prop :=
  (shown → lines = [.normal line]) ∧ (¬shown → lines = [])

/-- The lines for an item of a list of violations. -/
inductive TellsViolation (item : Json) : List Span → Prop
  | mk {severity : Severity} {title publicId path remediation : String}
      {pathLine remediationLine : List Span}
      (severityEq : item.get? "severity" = some (.str severity.name))
      (titleEq : item.get? "title" = some (.str title))
      (publicIdEq : item.get? "publicId" = some (.str publicId))
      (pathEq : item.get? "msg" = some (.str path))
      (remediationEq : item.get? "resolve" = some (.str remediation))
      (pathLineIf : LineIf (path ≠ "") ("    Path: " ++ path ++ "\n") pathLine)
      (remediationLineIf :
        LineIf (remediation ≠ "") ("    Remediation: " ++ remediation ++ "\n") remediationLine) :
      TellsViolation item
        ([.normal "  ", ⟨severityStyle severity, "✗ " ++ Text.upper severity.name⟩,
          .normal (" " ++ title ++ " [" ++ publicId ++ "]\n")] ++ pathLine ++ remediationLine)

/-- The lines for a list of violations, or the line that says that it is empty. -/
inductive TellsViolations : List Json → List Span → Prop
  | none : TellsViolations [] [.normal "  ", ⟨.green, "No issues found."⟩, .normal "\n"]
  | some {items : List Json} {lines : List (List Span)} (listed : items ≠ [])
      (each : List.Forall₂ TellsViolation items lines) : TellsViolations items lines.flatten

/-- Where the entry of a scanned file stands: its path, and its number if it has one. -/
inductive TellsLocation (entry : Json) (path : String) : String → Prop
  | file (noIndex : entry.get? "docId" = none) : TellsLocation entry path path
  | document {index : Nat} (isIndex : (entry.get? "docId").isSome)
      (indexEq : HoldsNumber "docId" entry index) :
      TellsLocation entry path (path ++ " (document " ++ toString index ++ ")")

/-- The section for the entry of a scanned file. -/
inductive TellsScanned (entry : Json) : List Span → Prop
  | mk {path location domain : String} {lines : List Span}
      (pathEq : entry.get? "filePath" = some (.str path))
      (domainEq : entry.get? "engineType" = some (.str domain))
      (listed : HoldsArray "violatedPolicies" entry)
      (located : TellsLocation entry path location)
      (violations : TellsViolations (itemsAt "violatedPolicies" entry) lines) :
      TellsScanned entry
        ([.normal "\nTesting ", ⟨.bold, location⟩, .normal (" [" ++ domain ++ "]\n")] ++ lines)

/-- The line for the entry of a file that was not scanned. -/
inductive TellsUnscanned (entry : Json) : Span → Prop
  | mk {path reason : String}
      (pathEq : entry.get? "filePath" = some (.str path))
      (reasonEq : entry.get? "failureReason" = some (.str reason)) :
      TellsUnscanned entry (.normal ("  " ++ path ++ ": " ++ reason ++ "\n"))

/-- The block for the files that were not scanned, none if there are none. -/
inductive TellsAside : List Json → List Span → Prop
  | none : TellsAside [] []
  | some {entries : List Json} {lines : List Span} (listed : entries ≠ [])
      (each : List.Forall₂ TellsUnscanned entries lines) :
      TellsAside entries
        ([.normal "\n", ⟨.yellow, "Files that could not be scanned:"⟩, .normal "\n"] ++ lines)

/-- The last line for the numbers of violations and of documents. -/
inductive TellsNumbers : Nat → Nat → String → Prop
  | none {documents : Nat} : TellsNumbers 0 documents "\nNo issues found.\n"
  | some {violations documents : Nat} (positive : 0 < violations) :
      TellsNumbers violations documents
        ("\nFound " ++ toString violations ++ " issue(s) across " ++ toString documents ++
          " document(s).\n")

/-- A report to be read, of sections, a block and a last line, tells what is read from a
JSON report. -/
structure Retells (report : Json) (sections : List (List Span)) (aside : List Span)
    (last : String) : Prop where
  listed : HoldsArray "scannedFiles" report ∧ HoldsArray "unscannedFiles" report
  sections : List.Forall₂ TellsScanned (itemsAt "scannedFiles" report) sections
  aside : TellsAside (itemsAt "unscannedFiles" report) aside
  /-- The numbers are those of the summary, and also those of what is listed. -/
  last : ∃ summary, report.get? "summary" = some summary ∧
    ∃ violations documents,
      HoldsNumber "totalViolations" summary violations ∧
      HoldsNumber "scanned" summary documents ∧
      violations = ((itemsAt "scannedFiles" report).map fun entry =>
        (itemsAt "violatedPolicies" entry).length).sum ∧
      documents = (itemsAt "scannedFiles" report).length ∧ TellsNumbers violations documents last

/-! ## Lines of results -/

theorem severityTitle_eq (severity : Severity) :
    severityTitle severity = Text.upper severity.name := by
  cases severity <;> decide +kernel

theorem lineIf_detailLine (title text : String) :
    LineIf (text ≠ "") ("    " ++ title ++ ": " ++ text ++ "\n") (detailLine title text) := by
  rw [detailLine]
  constructor
  · exact fun shown => if_neg shown
  · exact fun hidden => if_pos (of_not_not hidden)

theorem tellsViolation (v : Violation) : TellsViolation v.toJson.ordered (violationLines v) := by
  have found := v.get?_ordered
  have lines := TellsViolation.mk (found .severity) (found .title) (found .publicId) (found .msg)
    (found .resolve) (lineIf_detailLine "Path" v.msg) (lineIf_detailLine "Remediation" v.resolve)
  rw [List.append_assoc, ← severityTitle_eq] at lines
  exact lines

theorem tellsViolations (violations : List Violation) :
    TellsViolations (violations.map fun v => v.toJson.ordered) (violationBlock violations) := by
  have each : List.Forall₂ TellsViolation (violations.map fun v => v.toJson.ordered)
      (violations.map violationLines) := by
    rw [List.forall₂_map_left_iff, List.forall₂_map_right_iff, List.forall₂_same]
    exact fun v _ => tellsViolation v
  cases violations with
  | nil => exact .none
  | cons v others => exact .some (by simp) each

theorem tellsLocation (threshold : Severity) (s : Scanned) :
    TellsLocation (scannedData threshold s).ordered s.document.file.path (location s.document) := by
  have reads := readsScanned threshold s
  rw [location]
  cases indexEq : s.document.index? with
  | none =>
      apply TellsLocation.file
      rw [← Option.isNone_iff_eq_none, ← Option.not_isSome, reads.index_isSome, indexEq]
      rfl
  | some index =>
      apply TellsLocation.document _ (reads.index index indexEq)
      rw [reads.index_isSome, indexEq]
      rfl

theorem tellsScanned (threshold : Severity) (s : Scanned) :
    TellsScanned (scannedData threshold s).ordered (documentLines threshold s) := by
  have reads := readsScanned threshold s
  have violationsEq := get?_violatedPolicies threshold s
  have domainEq : (scannedData threshold s).ordered.get? "engineType" =
      some (.str s.document.domain.name) := by
    rw [get?_scannedData]
    rfl
  have violations := tellsViolations (s.violationsFrom threshold)
  rw [← itemsAt_of_get? violationsEq] at violations
  exact .mk reads.path domainEq reads.listed (tellsLocation threshold s) violations

theorem tellsAside (unscanned : List Unscanned) :
    TellsAside (unscanned.map fun u => (unscannedData u).ordered) (unscannedLines unscanned) := by
  have each : List.Forall₂ TellsUnscanned (unscanned.map fun u => (unscannedData u).ordered)
      (unscanned.map unscannedLine) := by
    rw [List.forall₂_map_left_iff, List.forall₂_map_right_iff, List.forall₂_same]
    exact fun u _ => .mk (readsUnscanned u).path (readsUnscanned u).reason
  cases unscanned with
  | nil => exact .none
  | cons u others => exact .some (by simp) each

theorem exists_tellsNumbers (violations documents : Nat) :
    ∃ last, summaryLine violations documents = .normal last ∧
      TellsNumbers violations documents last := by
  refine ⟨_, rfl, ?_⟩
  by_cases noneFound : violations = 0
  · subst noneFound
    exact .none
  · rw [if_neg noneFound]
    exact .some (Nat.pos_of_ne_zero noneFound)

/-! ## Whole reports -/

/-- The report to be read tells what is read from the JSON report of the same results. -/
theorem text_plain_retells (results : Results) (threshold : Severity) (colour : Bool) :
    ∃ report sections aside last,
      Json.parse (text results .json threshold colour) = .ok report ∧
      text results .plain threshold colour =
        spansText colour (List.flatten sections ++ aside ++ [.normal last]) ∧
      Retells report sections aside last := by
  obtain ⟨scannedEq, unscannedEq, summaryEq⟩ := get?_data results threshold
  obtain ⟨documents, -, violations, -⟩ := readsSummary results threshold
  obtain ⟨last, lastEq, tellsLast⟩ :=
    exists_tellsNumbers (results.violationCount threshold) results.scanned.length
  refine ⟨(data results threshold).ordered, results.inOrder.map (documentLines threshold),
    unscannedLines results.unscanned, last, parse_text_json results threshold colour, ?_, ?_⟩
  · rw [text, plainSpans, lastEq]
    rfl
  constructor
  case listed => exact ⟨holdsArray_of_get? scannedEq, holdsArray_of_get? unscannedEq⟩
  case sections =>
    rw [itemsAt_of_get? scannedEq, List.forall₂_map_left_iff, List.forall₂_map_right_iff,
      List.forall₂_same]
    exact fun s _ => tellsScanned threshold s
  case aside =>
    rw [itemsAt_of_get? unscannedEq]
    exact tellsAside results.unscanned
  case last =>
    refine ⟨_, summaryEq, _, _, violations, documents, ?_, ?_, tellsLast⟩
    · rw [itemsAt_of_get? scannedEq, List.map_map, results.violationCount_eq_inOrder]
      exact congrArg List.sum
        (List.map_congr_left fun s _ => (length_itemsAt threshold s).symm)
    · rw [itemsAt_of_get? scannedEq, List.length_map,
        results.inOrder_isStable.perm.length_eq]

end PolicyScan.Report
