import PolicyScan.Proofs.Report.Data

/-!
# Reports that show violations

A report for programs shows the violations that its entries list, and a report to be
read counts in its last line those that it shows.  Both show some just if there are
violations at or above the threshold (`shows_text_iff`).
-/

namespace PolicyScan.Report

/-- Some violation is listed, or the last line counts some. -/
def Shows : Format → String → Prop
  | .json, text => ∃ report, Json.parse text = .ok report ∧
      ∃ entry ∈ itemsAt "scannedFiles" report, itemsAt "violatedPolicies" entry ≠ []
  | .plain, text => ∃ violations documents, 0 < violations ∧
      (summaryLine violations documents).text.toList <:+ text.toList

variable (results : Results) (threshold : Severity) (colour : Bool)

theorem shows_json_iff :
    Shows .json (text results .json threshold colour) ↔
      0 < results.violationCount threshold := by
  have listed (s : Scanned) :
      itemsAt "violatedPolicies" (scannedData threshold s).ordered ≠ [] ↔
        ∃ v ∈ s.violations, threshold ≤ v.severity := by
    rw [← Results.violationsFrom_ne_nil_iff, ← List.length_pos_iff, ← List.length_pos_iff,
      length_itemsAt]
  rw [Results.violationCount_pos_iff, Shows]
  simp only [parse_text_json, Except.ok.injEq, exists_eq_left']
  rw [itemsAt_of_get? (get?_data results threshold).1]
  simp only [List.mem_map, exists_exists_and_eq_and, listed,
    results.inOrder_isStable.perm.mem_iff]

/-- The last line is not coloured. -/
theorem summaryLine_suffix :
    (summaryLine (results.violationCount threshold) results.scanned.length).text.toList <:+
      (text results .plain threshold colour).toList := by
  rw [text, spansText, String.toList_ofList, plainSpans, List.flatMap_append,
    List.flatMap_singleton]
  have plain (line : String) : (Span.normal line).chars colour = line.toList := by
    cases colour <;> rfl
  exact ⟨_, congrArg _ (plain _).symm⟩

theorem summaryLine_zero_suffix (documents : Nat) :
    ['d', '.', '\n'] <:+ (summaryLine 0 documents).text.toList := by
  rw [summaryLine, if_pos rfl, Span.normal]
  decide

theorem summaryLine_pos_suffix {violations : Nat} (some : 0 < violations) (documents : Nat) :
    [')', '.', '\n'] <:+ (summaryLine violations documents).text.toList := by
  rw [summaryLine, if_neg (Nat.ne_of_gt some), Span.normal, String.toList_append]
  exact (by decide : [')', '.', '\n'] <:+ " document(s).\n".toList).trans (List.suffix_append _ _)

theorem shows_plain_iff :
    Shows .plain (text results .plain threshold colour) ↔
      0 < results.violationCount threshold := by
  have last := summaryLine_suffix results threshold colour
  constructor
  · rintro ⟨violations, documents, some, shown⟩
    by_contra none
    -- The text would end with a line that counts violations and with one that does not.
    rw [Nat.eq_zero_of_not_pos none] at last
    have zeroEnd := (summaryLine_zero_suffix _).trans last
    have posEnd := (summaryLine_pos_suffix some documents).trans shown
    have same := List.suffix_of_suffix_length_le zeroEnd posEnd (Nat.le_refl 3)
    exact absurd (same.eq_of_length rfl) (by decide)
  · intro some
    exact ⟨_, _, some, last⟩

/-- A report shows violations just if there are some at or above the threshold. -/
theorem shows_text_iff (format : Format) :
    Shows format (text results format threshold colour) ↔
      ∃ s ∈ results.scanned, ∃ v ∈ s.violations, threshold ≤ v.severity := by
  rw [← Results.violationCount_pos_iff]
  cases format with
  | plain => exact shows_plain_iff results threshold colour
  | json => exact shows_json_iff results threshold colour

end PolicyScan.Report
