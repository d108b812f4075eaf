import PolicyScan.Proofs.Handoff
import PolicyScan.Proofs.Violation.Meaning

/-!
# What an engine makes of a document

The value of the entrypoint comes back as text, and the text is read.  Nothing gets lost
or is added on this way: an array or a set of values that are read as records gives these
records, one for each value, and every other value a failure (`evaluate_complete`).
-/

namespace PolicyScan

namespace Rego.Value

/-- The values that a value lists, those of a set in increasing order. -/
def members? : Value → Option (List Value)
  | .arr items => some items
  | .set members => some members
  | _ => none

/-- A value is read as a record if its JSON value is. -/
def Reads (value : Value) (violation : Violation) : Prop :=
  ∃ item, value.toJson? = some item ∧ Violation.Reads item violation

/-- The record that a value is read as. -/
def violation? (value : Value) : Option Violation := value.toJson?.bind Violation.ofJson?

theorem violation?_eq_some_iff {value : Value} {violation : Violation} :
    value.violation? = some violation ↔ value.Reads violation := by
  simp only [violation?, Option.bind_eq_some_iff, Violation.ofJson?_eq_some_iff, Reads]

theorem bind_toJsonItems (items : List Value) :
    (toJsonItems items).bind (List.mapM Violation.ofJson?) = items.mapM violation? := by
  induction items with
  | nil => rfl
  | cons item items ih =>
      rw [toJsonItems, List.mapM_cons, ← ih, violation?]
      cases item.toJson? with
      | none => rfl
      | some value => cases toJsonItems items <;> simp

/-- The members of a value are read from the items of its JSON value. -/
theorem bind_members? (value : Value) :
    value.members?.bind (List.mapM violation?) =
      value.toJson?.bind fun written =>
        written.items?.bind (List.mapM Violation.ofJson?) := by
  cases value with
  | arr items =>
      rw [toJson?, Option.bind_map]
      exact (bind_toJsonItems items).symm
  | set members =>
      rw [toJson?, Option.bind_map]
      exact (bind_toJsonItems members).symm
  | obj fields =>
      rw [toJson?]
      cases toJsonFields fields <;> rfl
  | num n =>
      rw [toJson?, numberToJson]
      split
      · rfl
      · cases n.toBinary64? <;> rfl
  | _ => rfl

end Rego.Value

namespace Engine

open Rego (Value)

theorem toOption_violationsOf (entrypoint : String) (value : Value) :
    (violationsOf entrypoint value).toOption =
      value.members?.bind (List.mapM Value.violation?) := by
  rw [violationsOf, Value.bind_members?]
  cases value.toJson? with
  | none => rfl
  | some written =>
      dsimp only
      rw [Json.toOption_mapError, Violation.toOption_listOfText_pretty, Option.bind_some]

theorem violationsOf_eq_ok_iff {entrypoint : String} {value : Value} {list : List Violation} :
    violationsOf entrypoint value = .ok list ↔
      ∃ members, value.members? = some members ∧ List.Forall₂ Value.Reads members list := by
  rw [← Json.toOption_eq_some_iff, toOption_violationsOf, Option.bind_eq_some_iff]
  simp only [mapM_eq_some_iff, Value.violation?_eq_some_iff]

/-- Without a list of records, the failure says which value was expected to be one. -/
theorem exists_violationsOf_eq_error (entrypoint : String) {value : Value}
    (written : value.toJson?.isSome)
    (unlisted : ¬∃ list, violationsOf entrypoint value = .ok list) :
    ∃ reason, violationsOf entrypoint value = .error (.unexpected entrypoint reason) := by
  obtain ⟨json, isWritten⟩ := Option.isSome_iff_exists.mp written
  rw [violationsOf, isWritten] at unlisted ⊢
  dsimp only at unlisted ⊢
  cases read : Violation.listOfText json.pretty with
  | ok list => exact absurd ⟨list, by rw [read]; rfl⟩ unlisted
  | error reason => exact ⟨reason, rfl⟩

/-- What an engine answers, in terms of what the evaluation of its entrypoint finds. -/
structure Complete (entrypoint : String) (found : Except Rego.Fault (Option Value))
    (answer : Except Failure (List Violation)) : Prop where
  /-- A failure of the evaluation is passed on in its own words. -/
  failed : ∀ fault, found = .error fault →
    ∃ failure, answer = .error failure ∧ failure.message = fault.message
  undefined : found = .ok none → answer = .ok []
  /-- The records of a list are all there, one for each member and in their order. -/
  listed : ∀ value list, found = .ok (some value) →
    (answer = .ok list ↔
      ∃ members, value.members? = some members ∧ List.Forall₂ Value.Reads members list)
  /-- A value with a number that JSON cannot have is a failure of the evaluation too. -/
  unwritten : ∀ value, found = .ok (some value) → value.toJson? = none →
    ∃ failure, answer = .error failure ∧ failure.message = Rego.Fault.noText.message
  /-- Whatever else the value is, the failure names the entrypoint. -/
  unexpected : ∀ value, found = .ok (some value) → value.toJson?.isSome →
    (¬∃ members list, value.members? = some members ∧ List.Forall₂ Value.Reads members list) →
    ∃ failure reason, answer = .error failure ∧
      failure.message = "unexpected result from " ++ entrypoint ++ ": " ++ reason

/-- The answer to what the evaluation of an entrypoint finds. -/
def answerTo (entrypoint : String) : Except Rego.Fault (Option Value) →
    Except Failure (List Violation)
  | .error fault => .error (.evaluation fault)
  | .ok none => .ok []
  | .ok (some value) => violationsOf entrypoint value

theorem answer_eq (engine : Engine) (input : Json) :
    engine.answer input = answerTo engine.entrypoint
      (engine.module.evaluate engine.data (.ofJson input) engine.entrypoint) := by
  rewrite [answer, value]
  generalize engine.module.evaluate engine.data (.ofJson input) engine.entrypoint = found
  rcases found with fault | _ | value <;> rfl

theorem complete_answerTo (entrypoint : String) (found : Except Rego.Fault (Option Value)) :
    Complete entrypoint found (answerTo entrypoint found) := by
  constructor
  case failed =>
    rintro fault rfl
    exact ⟨_, rfl, rfl⟩
  case undefined =>
    rintro rfl
    rfl
  case listed =>
    rintro value list rfl
    exact violationsOf_eq_ok_iff
  case unwritten =>
    rintro value rfl unwritten
    refine ⟨.evaluation .noText, ?_, rfl⟩
    rw [answerTo, violationsOf, unwritten]
    rfl
  case unexpected =>
    rintro value rfl written unlisted
    have noList : ¬∃ list, violationsOf entrypoint value = .ok list := by
      rintro ⟨list, listed⟩
      obtain ⟨members, isListed⟩ := violationsOf_eq_ok_iff.mp listed
      exact unlisted ⟨members, list, isListed⟩
    obtain ⟨reason, failed⟩ := exists_violationsOf_eq_error entrypoint written noList
    exact ⟨_, reason, failed, rfl⟩

/-- For a document that can be read as an input, the violations are those that the value
of the entrypoint lists. -/
theorem evaluate_complete {engine : Engine} {document input : Json}
    (accepted : inputOf document = .ok input) :
    Complete engine.entrypoint
      (engine.module.evaluate engine.data (.ofJson input) engine.entrypoint)
      (engine.evaluate document) := by
  have answered : engine.evaluate document = engine.answer input := by
    rewrite [engine.evaluate_eq, accepted]
    rfl
  rewrite [answered, engine.answer_eq]
  exact complete_answerTo engine.entrypoint _

/-- An engine whose entrypoint has the value of a field of the document. -/
def ofField (key : String) (domain : Domain) : Engine where
  domain := domain
  module :=
    { package := ["rules"]
      rules := [⟨["rules", "deny"], .value, [⟨.index (.var "input") (.const (.str key)), []⟩]⟩]
      defaults := [] }
  data := .obj []
  entrypoint := defaultEntrypoint

/-- Three findings, of which the first two are the same as records. -/
def findings : Json :=
  .arr [
    .obj [("msg", .str "open"), ("severity", .obj [("high", .null)])],
    .obj [("extra", .arr [.obj []]), ("msg", .str "open"), ("severity", .str "high")],
    .arr [.str "last"]]

/-- A document with the findings. -/
def report : Json := .obj [("findings", findings)]

/-- The findings are read one by one, and the second is not dropped. -/
theorem evaluate_complete_report :
    inputOf report = .ok report ∧
      (ofField "findings" .terraform).evaluate report =
        .ok [{ msg := "open", severity := .high }, { msg := "open", severity := .high },
          { id := "last" }] := by
  have accepted : inputOf report = .ok report := by
    have ints : report.AllInts := by
      simp [report, findings, Json.AllInts, Json.AllIntsItems, Json.AllIntsFields]
    have canonical : report.Canonical := by
      simp only [report, findings, Json.Canonical, Json.CanonicalItems, Json.CanonicalFields,
        List.map_cons, List.map_nil]
      decide
    have shallow : ¬Json.nestingLimit ≤ report.depth := by decide
    exact ((inputOf_cases ints canonical).resolve_right fun deep => shallow deep.1).2
  have found : (ofField "findings" .terraform).module.evaluate (.obj []) (.ofJson report)
      defaultEntrypoint = .ok (some (.ofJson findings)) := rfl
  have complete := @evaluate_complete (ofField "findings" .terraform) _ _ accepted
  refine ⟨accepted, ?_⟩
  apply (complete.listed _ _ found).mpr
  refine ⟨_, rfl, .cons ?_ (.cons ?_ (.cons ?_ .nil))⟩
  all_goals
    rw [← Value.violation?_eq_some_iff]
    decide

end Engine
end PolicyScan
