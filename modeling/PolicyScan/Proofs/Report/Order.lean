import PolicyScan.Proofs.Pipeline
import PolicyScan.Proofs.Report.Data

/-!
# The order of a report

A report lists documents by their positions and by nothing else: it does not matter in
which order the results have them, unless they share a position (`text_positional`).  The
positions of what the pipeline finds are the places of the documents in the files, so a
report lists these as they were found.
-/

namespace PolicyScan.Report

/-- The report of results lists documents in the given order: as sections one after the
other, or as the entries of an array. -/
def Lists (results : Results) (threshold : Severity) (colour : Bool) (order : List Scanned) :
    Format → String → Prop
  | .plain, report => report =
      String.join (order.map fun s => spansText colour (documentLines threshold s)) ++
        spansText colour (unscannedLines results.unscanned ++
          [summaryLine (results.violationCount threshold) results.scanned.length])
  | .json, report => ∃ value, Json.parse report = .ok value ∧
      value.get? "scannedFiles" =
        some (.arr (order.map fun s => (scannedData threshold s).ordered))

/-- What positions mean for a report. -/
structure Positional (format : Format) (threshold : Severity) (colour : Bool) : Prop where
  /-- Documents of different positions may be given in any order. -/
  perm : ∀ (results : Results) (scanned : List Scanned), scanned.Perm results.scanned →
    (results.scanned.map Scanned.position).Nodup →
      text ⟨scanned, results.unscanned⟩ format threshold colour =
        text results format threshold colour
  /-- Neighbours of different positions may change places. -/
  swap : ∀ (before after : List Scanned) (s t : Scanned) (unscanned : List Unscanned),
    s.position ≠ t.position →
      text ⟨before ++ s :: t :: after, unscanned⟩ format threshold colour =
        text ⟨before ++ t :: s :: after, unscanned⟩ format threshold colour
  /-- Documents are listed by position, those of equal positions as they were. -/
  stable : ∀ results : Results, ∃ order, Results.IsStable results.scanned order ∧
    Lists results threshold colour order format (text results format threshold colour)
  /-- What the pipeline finds is listed as it was found, each document at a place of its
  own in the files that were loaded. -/
  discovered : ∀ (store : FileStore) (path : String) (options : ScanOptions) (results : Results),
    Pipeline.run store path options = .ok results →
      (results.scanned.map Scanned.position).Nodup ∧
      Lists results threshold colour results.scanned format
        (text results format threshold colour) ∧
      ∃ files, Loader.load store path options.depth = .ok files ∧
        (results.scanned.map Scanned.position).Pairwise (· < ·) ∧
        ∀ s ∈ results.scanned, (Pipeline.documentsOf files)[s.position]? = some s.document

variable {results changed : Results}

/-- A report depends on the documents in order only. -/
theorem text_eq_of_inOrder_eq (same : results.inOrder = changed.inOrder)
    (sameUnscanned : results.unscanned = changed.unscanned) (format : Format)
    (threshold : Severity) (colour : Bool) :
    text results format threshold colour = text changed format threshold colour := by
  have count : results.violationCount threshold = changed.violationCount threshold := by
    rw [results.violationCount_eq_inOrder, changed.violationCount_eq_inOrder, same]
  have length : results.scanned.length = changed.scanned.length := by
    rw [← results.inOrder_isStable.perm.length_eq, ← changed.inOrder_isStable.perm.length_eq, same]
  cases format with
  | plain => simp only [text, plainSpans, same, sameUnscanned, count, length]
  | json => simp only [text, data, summaryData, same, sameUnscanned, count, length]

theorem spansText_append (colour : Bool) (spans others : List Span) :
    spansText colour (spans ++ others) = spansText colour spans ++ spansText colour others := by
  rw [spansText, List.flatMap_append, String.ofList_append]
  rfl

theorem spansText_flatMap {α : Type} (colour : Bool) (lines : α → List Span) (items : List α) :
    spansText colour (items.flatMap lines) =
      String.join (items.map fun item => spansText colour (lines item)) := by
  induction items with
  | nil => rfl
  | cons item items ih =>
      rw [List.flatMap_cons, spansText_append, ih, List.map_cons, String.join_cons]

theorem lists_inOrder (results : Results) (format : Format) (threshold : Severity)
    (colour : Bool) :
    Lists results threshold colour results.inOrder format
      (text results format threshold colour) := by
  cases format with
  | plain =>
      rw [Lists, text, plainSpans, List.append_assoc, spansText_append, spansText_flatMap]
  | json =>
      exact ⟨_, parse_text_json results threshold colour, (get?_data results threshold).1⟩

/-- Reports are ordered by positions. -/
theorem text_positional (format : Format) (threshold : Severity) (colour : Bool) :
    Positional format threshold colour where
  perm := by
    intro results scanned perm different
    have same := @Results.inOrder_eq_of_perm results ⟨scanned, results.unscanned⟩ perm different
    exact text_eq_of_inOrder_eq same rfl format threshold colour
  swap := fun _ _ _ _ _ different =>
    text_eq_of_inOrder_eq (Results.inOrder_swap different) rfl format threshold colour
  stable := fun results =>
    ⟨results.inOrder, results.inOrder_isStable, lists_inOrder results format threshold colour⟩
  discovered := by
    intro store path options results done
    obtain ⟨files, _, _, loaded, -, accounts⟩ := Pipeline.run_accounts done
    have ascending := accounts.scanned_in_order
    have inOrder : results.inOrder = results.scanned :=
      results.inOrder_isStable.unique (Results.isStable_of_ascending
        ((List.pairwise_map.mp ascending).imp Nat.le_of_lt))
    have lists := lists_inOrder results format threshold colour
    rw [inOrder] at lists
    exact ⟨ascending.imp Nat.ne_of_lt, lists, files, loaded, ascending,
      fun s member => (accounts.scanned s member).1⟩

end PolicyScan.Report
