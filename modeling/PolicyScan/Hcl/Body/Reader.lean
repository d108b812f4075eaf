import PolicyScan.Hcl.Body
import PolicyScan.Hcl.Expr.Reader

/-!
# Reading bodies of HCL

Every attribute and every block ends with its line.  A block whose body stands
on one line has at most one attribute.  No attribute may come twice in a body.
Blocks and expressions may together stand `nestingLimit` deep in one another.
-/

namespace PolicyScan.Hcl

/-- The greatest number of blocks and expressions in one another. -/
def nestingLimit : Nat := 64

/-- A label of a block: a word or a quoted text without interpolations. -/
def label (s : List Char) : Except Fault (String × List Char) :=
  match s with
  | '"' :: rest => do
    match ← plainText rest with
    | some result => return result
    | none => throw (.expected "string without interpolations")
  | s => word s

/-- The labels of a block up to and with its opening brace. -/
def labels : Nat → List Char → List String → Except Fault (List String × List Char)
  | 0, _, _ => .error (.expected "`\x7b`")
  | fuel + 1, s, acc =>
    match skipGap false s with
    | '\x7b' :: rest => .ok (acc.reverse, rest)
    | s => do
      let (name, s) ← label s
      labels fuel s (name :: acc)

/-- The body of a block from after its opening brace to after its closing one;
`items` reads a body of several lines up to its end. -/
def blockBody (expr : ExprReader) (items : List Char → Except Fault (List Item × List Char))
    (s : List Char) : Except Fault (List Item × List Char) := do
  let s := skipGap false s
  match s with
  | '\x7d' :: rest => return ([], rest)
  | s =>
    match lineEnd? s with
    | some rest =>
      let (body, rest) ← items rest
      return (body, ← expect "\x7d" rest)
    | none =>
      let (name, s) ← word s
      let s ← expect "=" (skipGap false s)
      let (value, s) ← expr false (skipGap false s)
      return ([.attribute name value], ← expect "\x7d" (skipGap false s))

/-- The names of the attributes. -/
def attributeNames (items : List Item) : List String :=
  items.filterMap fun item =>
    match item with
    | .attribute name _ => some name
    | .block _ _ _ => none

/-- The items of a body up to the end of the text or a closing brace; `body`
reads the body of a block. -/
def bodyItems (expr : ExprReader) (body : List Char → Except Fault (List Item × List Char)) :
    Nat → List Char → List Item → Except Fault (List Item × List Char)
  | 0, _, _ => .error (.expected "end of body")
  | fuel + 1, s, acc =>
    match skipGap true s with
    | [] => .ok (acc.reverse, [])
    | '\x7d' :: rest => .ok (acc.reverse, '\x7d' :: rest)
    | s => do
      let (name, s) ← word s
      let (item, s) ← match skipGap false s with
        | '=' :: s => do
          let (value, s) ← expr false (skipGap false s)
          if name ∈ attributeNames acc then throw (.repeatedAttribute name)
          pure (Item.attribute name value, s)
        | s => do
          let (names, s) ← labels (s.length + 1) s []
          let (inner, s) ← body s
          pure (Item.block name names inner, s)
      match lineEnd? s with
      | some s => bodyItems expr body fuel s (item :: acc)
      | none => throw (.expected "newline")

/-- The items of a body with at most `depth` blocks and expressions in one
another. -/
def bodyWithin : Nat → List Char → Except Fault (List Item × List Char)
  | depth, s =>
    let body : List Char → Except Fault (List Item × List Char) := match depth with
      | 0 => fun _ => .error .nestedTooDeep
      | depth + 1 => blockBody (exprWithin depth) (bodyWithin depth)
    bodyItems (exprWithin depth) body (s.length + 1) s []

/-- The value of a text. -/
def value (text : String) : Except Fault Json := do
  match ← bodyWithin nestingLimit text.toList with
  | (items, []) => bodyToJson items
  | _ => throw (.expected "end of input")

end PolicyScan.Hcl
