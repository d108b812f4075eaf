import PolicyScan.Toml.Scalar
import PolicyScan.Toml.Section

/-!
# Reading TOML

A document is a row of lines: headers of tables, and keys with their values,
which go into the table of the last header.  Arrays and tables in braces may
run over several lines and may have a comma at their end; they nest to a
limited depth.  A byte order mark may stand in front.
-/

namespace PolicyScan.Toml

/-! ## Values -/

/-- A reader of a value. -/
abbrev ValueReader := List Char → Except Fault (Value × List Char)

/-- The items of an array up to its closing bracket. -/
def itemsWithin (value : ValueReader) :
    Nat → List Value → List Char → Except Fault (List Value × List Char)
  | 0, _, _ => .error (.expected "`]`")
  | fuel + 1, acc, s =>
    match skipLines s with
    | ']' :: rest => .ok (acc.reverse, rest)
    | s => do
      let (v, s) ← value s
      match skipLines s with
      | ',' :: rest => itemsWithin value fuel (v :: acc) rest
      | ']' :: rest => return ((v :: acc).reverse, rest)
      | _ => throw (.expected "`,` or `]`")

/-- A key and its value. -/
def keyValue (value : ValueReader) (s : List Char) :
    Except Fault (List String × Value × List Char) := do
  let (path, s) ← key s
  let (v, s) ← value (skipBlanks (← expect '=' s))
  return (path, v, s)

/-- The fields of a table in braces up to its closing one. -/
def fieldsWithin (value : ValueReader) :
    Nat → Fields → List Char → Except Fault (Fields × List Char)
  | 0, _, _ => .error (.expected "`\x7d`")
  | fuel + 1, acc, s =>
    match skipLines s with
    | '\x7d' :: rest => .ok (acc, rest)
    | s => do
      let (path, v, s) ← keyValue value s
      let acc ← assign v path acc
      match skipLines s with
      | ',' :: rest => fieldsWithin value fuel acc rest
      | '\x7d' :: rest => return (acc, rest)
      | _ => throw (.expected "`,` or `\x7d`")

/-- A value with at most `depth` brackets in one another. -/
def valueWithin : (depth : Nat) → ValueReader
  | _, '"' :: rest => (string .double rest).map fun (t, rest) => (.string t, rest)
  | _, '\'' :: rest => (string .single rest).map fun (t, rest) => (.string t, rest)
  | 0, '[' :: _ => .error .nestedTooDeep
  | 0, '\x7b' :: _ => .error .nestedTooDeep
  | depth + 1, '[' :: rest =>
    (itemsWithin (valueWithin depth) (rest.length + 1) [] rest).map
      fun (items, rest) => (.array items, rest)
  | depth + 1, '\x7b' :: rest =>
    (fieldsWithin (valueWithin depth) (rest.length + 1) [] rest).map
      fun (fields, rest) => (.table (toTable fields), rest)
  | _, s => scalar s

/-- How many brackets may stand in one another. -/
def nestingLimit : Nat := 80

/-- A value. -/
def value : ValueReader := valueWithin nestingLimit

/-! ## Lines -/

/-- What has been read of a document. -/
structure Progress where
  root : Fields
  /-- The keys of the last header. -/
  header : List String

/-- A header, from after its bracket; `double` says whether there were two. -/
def headerLine (double : Bool) (p : Progress) (s : List Char) :
    Except Fault (Progress × List Char) := do
  let (path, s) ← key (skipBlanks s)
  let s ← expect ']' s
  let s ← if double then expect ']' s else pure s
  match path.getLast? with
  | some last =>
    let define := if double then addTable last else defineTable last
    return (⟨← within define path.dropLast p.root, path⟩, s)
  | none => throw (.expected "key")

/-- A line of a document without its end. -/
def line (p : Progress) (s : List Char) : Except Fault (Progress × List Char) :=
  match s with
  | '[' :: '[' :: rest => headerLine true p rest
  | '[' :: rest => headerLine false p rest
  | s => do
    let (path, v, s) ← keyValue value s
    return ({ p with root := ← within (assign v path) p.header p.root }, s)

/-- The lines of a document. -/
def linesWithin : Nat → Progress → List Char → Except Fault Progress
  | 0, _, _ => .error (.expected "line")
  | fuel + 1, p, s =>
    match skipLines s with
    | [] => .ok p
    | s => do
      let (p, s) ← line p s
      match skipComment s with
      | [] => return p
      | s =>
        match lineEnd? s with
        | some s => linesWithin fuel p s
        | none => throw (.expected "line end")

/-- The table of a document. -/
def document (text : String) : Except Fault Table := do
  let s := match text.toList with
    | '\uFEFF' :: rest => rest
    | s => s
  let p ← linesWithin (s.length + 1) ⟨[], []⟩ s
  return toTable p.root

end PolicyScan.Toml
