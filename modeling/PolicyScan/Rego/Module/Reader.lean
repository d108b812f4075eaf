import PolicyScan.Rego.Term.Reader

/-!
# Reading modules

A module names its package, then its imports, then its rules.  The keywords
`if`, `contains`, `in` and `every` are ordinary names until they are imported;
the import of `rego.v1` brings all four and makes `if` needed before a body.
No keyword may be imported twice.
-/

namespace PolicyScan.Rego

/-! ## Paths and imports -/

/-- The names after the first one of a path. -/
def pathStepsWithin (d : Dialect) :
    Nat → List String → List Lexeme → Except Misread (List String × List Lexeme)
  | 0, acc, s => .ok (acc.reverse, s)
  | fuel + 1, acc, s =>
    match s with
    | ⟨.mark ".", .nothing⟩ :: rest => do
      let (name, rest) ← d.name rest
      pathStepsWithin d fuel (name :: acc) rest
    | ⟨.mark "[", .nothing⟩ :: ⟨.text name, _⟩ :: ⟨.mark "]", _⟩ :: rest =>
      pathStepsWithin d fuel (name :: acc) rest
    | s => .ok (acc.reverse, s)

/-- A path of names. -/
def path (d : Dialect) (s : List Lexeme) : Except Misread (List String × List Lexeme) := do
  let (first, s) ← d.name s
  pathStepsWithin d s.length [first] s

/-- The keywords that can be imported. -/
def futureKeywords : List String := ["contains", "every", "if", "in"]

/-- Make a keyword known. -/
def Dialect.addKeyword (d : Dialect) (keyword : String) : Except Misread Dialect :=
  if keyword ∉ futureKeywords then .error .unknownImport
  else if keyword ∈ d.keywords then .error (.importedTwice keyword)
  else .ok { d with keywords := keyword :: d.keywords }

/-- The expression of a path. -/
def pathExpr : List String → Expr
  | [] => .var "data"
  | root :: rest => rest.foldl (fun base key => .index base (.const (.str key))) (.var root)

/-- Make known what an import of a path brings. -/
def Dialect.addImport (d : Dialect) (path : List String) (name? : Option String) :
    Except Misread Dialect :=
  match path with
  | ["rego", "v1"] => do
    let d ← futureKeywords.foldlM Dialect.addKeyword d
    .ok { d with strict := true }
  | ["future", "keywords"] => futureKeywords.foldlM Dialect.addKeyword d
  | ["future", "keywords", keyword] => d.addKeyword keyword
  | root :: _ =>
    if root ∉ ["data", "input"] then .error .unknownImport
    else
      let name := name?.getD (path.getLast?.getD root)
      if name ∈ ["data", "input"] then .ok d
      else .ok { d with aliases := (name, pathExpr path) :: d.aliases }
  | [] => .error .unknownImport

/-- The imports of a module. -/
def importsWithin : Nat → Dialect → List Lexeme → Except Misread (Dialect × List Lexeme)
  | 0, d, s => .ok (d, s)
  | fuel + 1, d, s =>
    if nextIsWord "import" s then do
      -- Keywords imported before do not hide the names of the path.
      let (names, s) ← path {} s.tail
      let (name?, s) ←
        if nextIsWord "as" s then (d.name s.tail).map fun (name, s) => (some name, s)
        else pure (none, s)
      importsWithin fuel (← d.addImport names name?) s
    else .ok (d, s)

/-! ## Rules -/

/-- What is read of the start of a rule. -/
structure RuleStart where
  path : List String
  /-- A key in brackets behind the path. -/
  key : Option Expr

/-- The name of a rule with the steps after it. -/
def ruleStartWithin (d : Dialect) (inner : Inner) :
    Nat → List String → List Lexeme → Except Misread (RuleStart × List Lexeme)
  | 0, acc, s => .ok (⟨acc.reverse, none⟩, s)
  | fuel + 1, acc, s =>
    match s with
    | ⟨.mark ".", .nothing⟩ :: rest => do
      let (name, rest) ← d.name rest
      ruleStartWithin d inner fuel (name :: acc) rest
    | ⟨.mark "[", .nothing⟩ :: rest => do
      let (key, rest) ← inner.expr rest
      let rest ← expectMark "]" rest
      match d.strict, key with
      | true, .const (.str name) => ruleStartWithin d inner fuel (name :: acc) rest
      | _, key => .ok (⟨acc.reverse, some key⟩, rest)
    | s => .ok (⟨acc.reverse, none⟩, s)

/-- The value after `:=` or `=`, if there is one. -/
def assigned? (inner : Inner) (s : List Lexeme) :
    Except Misread (Option Expr × List Lexeme) :=
  if nextIs ":=" s || nextIs "=" s then (inner.expr s.tail).map fun (e, s) => (some e, s)
  else .ok (none, s)

/-- The body of a rule, if there is one. -/
def body? (d : Dialect) (inner : Inner) (literal : List Lexeme → Except Misread (Literal × List Lexeme))
    (s : List Lexeme) : Except Misread (Option Query × List Lexeme) :=
  if d.nextIs "if" s then
    if nextIs "\x7b" s.tail then
      (inner.query "\x7d" s.tail.tail).map fun (query, s) => (some query, s)
    else (literal s.tail).map fun (condition, s) => (some [condition], s)
  else if nextIs "\x7b" s && !d.strict then
    (inner.query "\x7d" s.tail).map fun (query, s) => (some query, s)
  else .ok (none, s)

/-- The clauses that start with `else`. -/
def elseClausesWithin (d : Dialect) (inner : Inner)
    (literal : List Lexeme → Except Misread (Literal × List Lexeme)) :
    Nat → List Clause → List Lexeme → Except Misread (List Clause × List Lexeme)
  | 0, acc, s => .ok (acc.reverse, s)
  | fuel + 1, acc, s =>
    if nextIsWord "else" s then do
      let (value, s) ← assigned? inner s.tail
      let (query, s) ← body? d inner literal s
      if value.isNone && query.isNone then throw (.expected "value or body")
      elseClausesWithin d inner literal fuel
        (⟨value.getD (.const (.bool true)), query.getD []⟩ :: acc) s
    else .ok (acc.reverse, s)

/-- Further bodies of a rule, each of which is enough. -/
def moreBodiesWithin (d : Dialect) (inner : Inner) :
    Nat → List Query → List Lexeme → Except Misread (List Query × List Lexeme)
  | 0, acc, s => .ok (acc.reverse, s)
  | fuel + 1, acc, s =>
    if nextIs "\x7b" s && !d.strict then do
      let (query, s) ← inner.query "\x7d" s.tail
      moreBodiesWithin d inner fuel (query :: acc) s
    else .ok (acc.reverse, s)

/-- The head of a rule. -/
def headOf (d : Dialect) (start : RuleStart) (parameters : Option (List Expr))
    (item value : Option Expr) (oldBody : Bool) : Except Misread Head :=
  match parameters, item, start.key with
  | some parameters, none, none => .ok (.function parameters)
  | none, some item, none =>
    if value.isSome then .error (.expected "body") else .ok (.member item)
  | none, none, some key =>
    if value.isSome || d.strict || !oldBody then .ok (.entry key) else .ok (.member key)
  | none, none, none => .ok .value
  | _, _, _ => .error (.expected "rule")

/-- A rule; several bodies make several rules. -/
def rule (d : Dialect) (inner : Inner)
    (literal : List Lexeme → Except Misread (Literal × List Lexeme)) (package : List String)
    (s : List Lexeme) : Except Misread (List Rule × List Lexeme) := do
  let (first, s) ← d.name s
  let (start, s) ← ruleStartWithin d inner s.length [first] s
  let (parameters, s) ← match s with
    | ⟨.mark "(", .nothing⟩ :: rest => do
      let (parameters, s) ← arguments inner.expr rest
      pure (some parameters, s)
    | s => pure (none, s)
  let (item, s) ←
    if d.nextIs "contains" s then do
      let (item, s) ← inner.expr s.tail
      pure (some item, s)
    else pure (none, s)
  let (value, s) ← assigned? inner s
  let oldBody := !d.nextIs "if" s
  let (query, s) ← body? d inner literal s
  let head ← headOf d start parameters item value oldBody
  if value.isNone && query.isNone && item.isNone && start.key.isNone then
    throw (.expected "value or body")
  let (more, s) ←
    if query.isSome && oldBody then moreBodiesWithin d inner s.length [] s else pure ([], s)
  let (others, s) ← elseClausesWithin d inner literal s.length [] s
  let value := value.getD (.const (.bool true))
  let path := package ++ start.path
  return (⟨path, head, ⟨value, query.getD []⟩ :: others⟩ ::
    more.map (fun query => ⟨path, head, [⟨value, query⟩]⟩), s)

/-- A default, from after its keyword. -/
def defaultValue (d : Dialect) (inner : Inner) (package : List String) (s : List Lexeme) :
    Except Misread (Default × List Lexeme) := do
  let (names, s) ← path d s
  match ← assigned? inner s with
  | (some value, s) => return (⟨package ++ names, value⟩, s)
  | (none, _) => throw (.expected "`:=`")

/-- The rules of a module. -/
def rulesWithin (d : Dialect) (inner : Inner)
    (literal : List Lexeme → Except Misread (Literal × List Lexeme)) (package : List String) :
    Nat → List Rule → List Default → List Lexeme → Except Misread Module
  | _, rules, defaults, [] => .ok ⟨package, rules, defaults⟩
  | 0, _, _, _ => .error (.expected "rule")
  | fuel + 1, rules, defaults, s =>
    if nextIsWord "default" s then do
      let (d', s) ← defaultValue d inner package s.tail
      rulesWithin d inner literal package fuel rules (defaults ++ [d']) s
    else do
      let (more, s) ← rule d inner literal package s
      rulesWithin d inner literal package fuel (rules ++ more) defaults s

/-- Whether a lexeme can start a further level of brackets. -/
def Lexeme.deepens (lexeme : Lexeme) : Bool :=
  match lexeme.token with
  | .mark m => m ∈ ["(", "[", "\x7b", "-"]
  | _ => false

/-- The module of a text. -/
def Module.ofText (text : String) : Except Misread Module := do
  let s ← lexemes text
  if !nextIsWord "package" s then throw (.expected "`package`")
  let (package, s) ← path {} s.tail
  let (d, s) ← importsWithin s.length {} s
  let depth := s.countP Lexeme.deepens
  let inner := readersWithin d (depth + 2)
  let operand := operandWith d (readersWithin d (depth + 1))
  let literal := literalOver d operand (operatorsOver operand ranks) inner.expr inner.query
  rulesWithin d inner literal package (s.length + 1) [] [] s

end PolicyScan.Rego
