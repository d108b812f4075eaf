import PolicyScan.Json.Expect
import PolicyScan.Violation

/-!
# Reading violations

A record is read from an object, whose unknown fields are passed over and
whose known fields may stand in any order but only once, or from a list of the
values in the order of the fields, of which the last ones may be missing.
-/

namespace PolicyScan.Violation

open PolicyScan.Json

/-- Read the value of a field into a record. -/
def Field.read (f : Field) (v : Violation) (s : List Char) : Read Violation :=
  let text (set : String → Violation) : Read Violation :=
    (textValue s).map fun (t, rest) => (set t, rest)
  match f with
  | .id => text fun t => { v with id := t }
  | .publicId => text fun t => { v with publicId := t }
  | .type => text fun t => { v with type := t }
  | .subType => text fun t => { v with subType := t }
  | .title => text fun t => { v with title := t }
  | .description => text fun t => { v with description := t }
  | .severity =>
    (choice Severity.options s).map fun (x, rest) => ({ v with severity := x }, rest)
  | .msg => text fun t => { v with msg := t }
  | .policyKind =>
    (choice PolicyKind.options s).map fun (x, rest) => ({ v with policyKind := x }, rest)
  | .issue => text fun t => { v with issue := t }
  | .impact => text fun t => { v with impact := t }
  | .resolve => text fun t => { v with resolve := t }
  | .references =>
    (listValue textValue s).map fun (x, rest) => ({ v with references := x }, rest)

/-- The fault of a field that was given before, reported where the object would
have to end. -/
def repeated (f : Field) (s : List Char) : Fault :=
  let cause := Cause.duplicateField f.key
  match dropBlanks s with
  | '\x7d' :: rest => .here cause rest
  | rest => .here cause rest

/-- The fields of an object up to its closing bracket, read into a record;
`seen` are the known fields so far. -/
def readFields : (bound : List Char) → Bool → List Field → Violation → List Char →
    Except Fault (Violation × List Char)
  | [], _, _, _, s => .error (.here .eofInObject s)
  | _ :: bound, first, seen, v, s => do
    match ← keyStart first s with
    | (false, rest) => return (v, rest)
    | (true, rest) =>
      let (key, rest) ← string rest
      match Field.ofKey? key with
      | none => readFields bound false seen v (← skip (← colon rest))
      | some f =>
        if f ∈ seen then throw (repeated f rest)
        let (v, rest) ← f.read v (← colon rest)
        readFields bound false (f :: seen) v rest

/-- The end of a list that holds all its values. -/
def listEnd (s : List Char) : Except Fault (List Char) :=
  match dropBlanks s with
  | [] => .error (.here .eofInList [])
  | ']' :: rest => .ok rest
  | ',' :: rest =>
    match dropBlanks rest with
    | ']' :: rest => .error (.next .trailingComma (']' :: rest))
    | rest => .error (.next .trailingCharacters rest)
  | rest => .error (.next .trailingCharacters rest)

/-- The values of a list, one for each of the fields that remain. -/
def readValues : List Field → Bool → Violation → List Char →
    Except Fault (Violation × List Char)
  | [], _, v, s => do return (v, ← listEnd s)
  | f :: fields, first, v, s => do
    match dropBlanks s with
    | [] => throw (.here .eofInList [])
    | ']' :: rest => return (v, rest)
    | c :: rest =>
      let start ←
        if first then pure (c :: rest)
        else if c = ',' then
          match dropBlanks rest with
          | [] => throw (.here .eofInValue [])
          | ']' :: rest => throw (.next .trailingComma (']' :: rest))
          | rest => pure rest
        else throw (.next .expectedListCommaOrEnd (c :: rest))
      let (v, rest) ← f.read v start
      readValues fields false v rest

/-- A record. -/
def read (s : List Char) : Read Violation :=
  match dropBlanks s with
  | '[' :: rest => readValues Field.all true {} rest
  | '\x7b' :: rest => readFields s true [] {} rest
  | rest => .error (mismatch "struct PolicyMetadata" rest)

/-- A text that is one record. -/
def ofText (text : String) : Except String Violation :=
  (wholly read text.toList).mapError (·.report text.toList)

/-- A text that is a list of records. -/
def listOfText (text : String) : Except String (List Violation) :=
  (wholly (listValue read) text.toList).mapError (·.report text.toList)

end PolicyScan.Violation
