import PolicyScan.Rego.Lexeme
import PolicyScan.Rego.Order

/-!
# Reading expressions and queries

Every bracket and every sign in front of an operand takes one level of depth.
The operators bind in five ranks, with the test for a member below them all.
What stands before the bar of a comprehension is read without the union
operator, whose sign is a bar too.

The literals of a query are parted by semicolons or line ends and put into the
order of their evaluation.
-/

namespace PolicyScan.Rego

/-- What a module can be written with. -/
structure Dialect where
  /-- The keywords that were imported. -/
  keywords : List String := []
  /-- Whether bodies have to follow the keyword `if`. -/
  strict : Bool := false
  /-- The names that imports stand for. -/
  aliases : List (String × Expr) := []

/-- The keywords of every module. -/
def fixedKeywords : List String :=
  ["as", "default", "else", "false", "import", "not", "null", "package", "some", "true", "with"]

/-- Whether a word is no name. -/
def Dialect.reserves (d : Dialect) (name : String) : Bool :=
  name ∈ fixedKeywords || name ∈ d.keywords

/-- A reader of an expression. -/
abbrev ExprReader := List Lexeme → Except Misread (Expr × List Lexeme)

/-- A reader of a query up to a closing mark, which it passes. -/
abbrev QueryReader := String → List Lexeme → Except Misread (Query × List Lexeme)

/-! ## Marks and words -/

/-- Whether a mark comes first. -/
def nextIs (sign : String) : List Lexeme → Bool
  | ⟨.mark m, _⟩ :: _ => m = sign
  | _ => false

/-- Whether a word comes first. -/
def nextIsWord (name : String) : List Lexeme → Bool
  | ⟨.word w, _⟩ :: _ => w = name
  | _ => false

/-- Whether an imported keyword comes first. -/
def Dialect.nextIs (d : Dialect) (keyword : String) (s : List Lexeme) : Bool :=
  keyword ∈ d.keywords && nextIsWord keyword s

/-- Pass a mark. -/
def expectMark (sign : String) (s : List Lexeme) : Except Misread (List Lexeme) :=
  if nextIs sign s then .ok s.tail else .error (.expected ("`" ++ sign ++ "`"))

/-- Pass an imported keyword. -/
def Dialect.expectWord (d : Dialect) (keyword : String) (s : List Lexeme) :
    Except Misread (List Lexeme) :=
  if d.nextIs keyword s then .ok s.tail else .error (.expected ("`" ++ keyword ++ "`"))

/-- A name. -/
def Dialect.name (d : Dialect) (s : List Lexeme) : Except Misread (String × List Lexeme) :=
  match s with
  | ⟨.word w, _⟩ :: rest => if d.reserves w then .error (.expected "name") else .ok (w, rest)
  | _ => .error (.expected "name")

/-! ## Operands -/

/-- The readers of what stands inside of brackets. -/
structure Inner where
  operand : ExprReader
  /-- An expression before the bar of a comprehension. -/
  head : ExprReader
  expr : ExprReader
  query : QueryReader

/-- No brackets may follow. -/
def Inner.tooDeep : Inner where
  operand := fun _ => .error .nestedTooDeep
  head := fun _ => .error .nestedTooDeep
  expr := fun _ => .error .nestedTooDeep
  query := fun _ _ => .error .nestedTooDeep

/-- The expressions after a first one, up to a closing mark.  A comma may stand
before the mark. -/
def itemsWithin (expr : ExprReader) (closing : String) :
    Nat → List Expr → List Lexeme → Except Misread (List Expr × List Lexeme)
  | 0, _, _ => .error (.expected ("`" ++ closing ++ "`"))
  | fuel + 1, acc, s =>
    if nextIs closing s then .ok (acc.reverse, s.tail)
    else do
      let s ← expectMark "," s
      if nextIs closing s then return (acc.reverse, s.tail)
      let (e, s) ← expr s
      itemsWithin expr closing fuel (e :: acc) s

/-- The arguments of a function, from after the opening bracket. -/
def arguments (expr : ExprReader) (s : List Lexeme) : Except Misread (List Expr × List Lexeme) :=
  if nextIs ")" s then .ok ([], s.tail)
  else do
    let (first, s) ← expr s
    itemsWithin expr ")" s.length [first] s

/-- The fields after a first one. -/
def fieldsWithin (expr : ExprReader) :
    Nat → List (Expr × Expr) → List Lexeme → Except Misread (List (Expr × Expr) × List Lexeme)
  | 0, _, _ => .error (.expected "`\x7d`")
  | fuel + 1, acc, s =>
    if nextIs "\x7d" s then .ok (acc.reverse, s.tail)
    else do
      let s ← expectMark "," s
      if nextIs "\x7d" s then return (acc.reverse, s.tail)
      let (key, s) ← expr s
      let (value, s) ← expr (← expectMark ":" s)
      fieldsWithin expr fuel ((key, value) :: acc) s

/-- An array, from after the opening bracket. -/
def array (inner : Inner) (s : List Lexeme) : Except Misread (Expr × List Lexeme) := do
  if nextIs "]" s then return (.arr [], s.tail)
  let (first, s) ← inner.head s
  if nextIs "|" s then
    let (query, s) ← inner.query "]" s.tail
    return (.arrOf first query, s)
  let (items, s) ← itemsWithin inner.expr "]" (s.length + 1) [first] s
  return (.arr items, s)

/-- A set or an object, from after the opening bracket. -/
def braces (inner : Inner) (s : List Lexeme) : Except Misread (Expr × List Lexeme) := do
  if nextIs "\x7d" s then return (.obj [], s.tail)
  let (first, s) ← inner.head s
  if nextIs ":" s then
    let (value, s) ← inner.head s.tail
    if nextIs "|" s then
      let (query, s) ← inner.query "\x7d" s.tail
      return (.objOf first value query, s)
    let (fields, s) ← fieldsWithin inner.expr (s.length + 1) [(first, value)] s
    return (.obj fields, s)
  if nextIs "|" s then
    let (query, s) ← inner.query "\x7d" s.tail
    return (.setOf first query, s)
  let (members, s) ← itemsWithin inner.expr "\x7d" (s.length + 1) [first] s
  return (.set members, s)

/-- An expression in parentheses, from after the opening one; a key may be
tested along with a member. -/
def parenthesized (d : Dialect) (inner : Inner) (s : List Lexeme) :
    Except Misread (Expr × List Lexeme) := do
  let (e, s) ← inner.expr s
  if nextIs "," s then
    match ← inner.expr s.tail with
    | (.holds collection item, s) =>
      if "in" ∈ d.keywords then return (.holdsAt collection e item, ← expectMark ")" s)
      else throw (.expected "`)`")
    | _ => throw (.expected "`in`")
  return (e, ← expectMark ")" s)

/-- The variable of a name.  One that stands for anything is a variable of its
own, told apart by the number of lexemes after it. -/
def Dialect.variable (d : Dialect) (name : String) (rest : List Lexeme) : Expr :=
  if name = "_" then .var ("$" ++ toString rest.length)
  else (d.aliases.lookup name).getD (.var name)

/-- The operand with the sign of a number in front. -/
def negated : Expr → Expr
  | .const (.num n) => .const (.num n.neg)
  | e => .negate e

/-- An operand without the steps after it. -/
def primary (d : Dialect) (inner : Inner) (s : List Lexeme) :
    Except Misread (Expr × List Lexeme) :=
  match s with
  | ⟨.number n, _⟩ :: rest => .ok (.const n, rest)
  | ⟨.text t, _⟩ :: rest => .ok (.const (.str t), rest)
  | ⟨.word "null", _⟩ :: rest => .ok (.const .null, rest)
  | ⟨.word "true", _⟩ :: rest => .ok (.const (.bool true), rest)
  | ⟨.word "false", _⟩ :: rest => .ok (.const (.bool false), rest)
  | ⟨.word "set", _⟩ :: ⟨.mark "(", _⟩ :: ⟨.mark ")", _⟩ :: rest => .ok (.set [], rest)
  | ⟨.word name, _⟩ :: rest =>
    if d.reserves name then .error (.expected "expression")
    else .ok (d.variable name rest, rest)
  | ⟨.mark "[", _⟩ :: rest => array inner rest
  | ⟨.mark "\x7b", _⟩ :: rest => braces inner rest
  | ⟨.mark "(", _⟩ :: rest => parenthesized d inner rest
  | ⟨.mark "-", _⟩ :: rest => (inner.operand rest).map fun (e, rest) => (negated e, rest)
  | _ => .error (.expected "expression")

/-- The name of a function, with dots. -/
def Expr.functionName? : Expr → Option String
  | .var name => some name
  | .index base (.const (.str key)) => base.functionName?.map (· ++ "." ++ key)
  | _ => none

/-- The steps after an operand; each stands right behind what is before it. -/
def stepsWithin (d : Dialect) (inner : Inner) :
    Nat → Expr → List Lexeme → Except Misread (Expr × List Lexeme)
  | 0, e, s => .ok (e, s)
  | fuel + 1, e, s =>
    match s with
    | ⟨.mark ".", .nothing⟩ :: rest => do
      let (name, rest) ← d.name rest
      stepsWithin d inner fuel (.index e (.const (.str name))) rest
    | ⟨.mark "[", .nothing⟩ :: rest => do
      let (key, rest) ← inner.expr rest
      stepsWithin d inner fuel (.index e key) (← expectMark "]" rest)
    | ⟨.mark "(", .nothing⟩ :: rest =>
      match e.functionName? with
      | some name => do
        let (args, rest) ← arguments inner.expr rest
        stepsWithin d inner fuel (.call name args) rest
      | none => .error (.expected "function")
    | _ => .ok (e, s)

/-- An operand; `inner` reads what stands inside of its brackets. -/
def operandWith (d : Dialect) (inner : Inner) : ExprReader := fun s => do
  let (e, s) ← primary d inner s
  stepsWithin d inner s.length e s

/-! ## Operators -/

/-- The operators of the comparing rank. -/
def comparisons : List BinaryOp :=
  [.equal, .notEqual, .less, .lessEqual, .greater, .greaterEqual]

/-- The ranks above the comparing one and the union, the strongest last. -/
def strongRanks : List (List BinaryOp) :=
  [[.intersection], [.add, .subtract], [.multiply, .divide, .modulo]]

/-- All ranks, the strongest last. -/
def ranks : List (List BinaryOp) := comparisons :: [.union] :: strongRanks

/-- All ranks but the one of the union. -/
def ranksWithoutUnion : List (List BinaryOp) := comparisons :: strongRanks

/-- The operator of a rank that comes first. -/
def operator? (rank : List BinaryOp) (s : List Lexeme) : Option BinaryOp :=
  rank.find? fun op => nextIs op.sign s

/-- The operators of a rank and their operands after the first one. -/
def chainWithin (operand : ExprReader) (rank : List BinaryOp) :
    Nat → Expr → List Lexeme → Except Misread (Expr × List Lexeme)
  | 0, e, s => .ok (e, s)
  | fuel + 1, e, s =>
    match operator? rank s with
    | some op => do
      let (right, s) ← operand s.tail
      chainWithin operand rank fuel (.binary op e right) s
    | none => .ok (e, s)

/-- An expression of operands and the operators of some ranks. -/
def operatorsOver (operand : ExprReader) (ranks : List (List BinaryOp)) : ExprReader :=
  ranks.foldr
    (fun rank stronger s => do
      let (e, s) ← stronger s
      chainWithin stronger rank s.length e s)
    operand

/-- The tests for a member after an expression. -/
def membershipsWithin (d : Dialect) (side : ExprReader) :
    Nat → Expr → List Lexeme → Except Misread (Expr × List Lexeme)
  | 0, e, s => .ok (e, s)
  | fuel + 1, e, s =>
    if d.nextIs "in" s then do
      let (collection, s) ← side s.tail
      membershipsWithin d side fuel (.holds collection e) s
    else .ok (e, s)

/-- An expression. -/
def exprOver (d : Dialect) (operand : ExprReader) (ranks : List (List BinaryOp)) : ExprReader :=
  fun s => do
    let side := operatorsOver operand ranks
    let (e, s) ← side s
    membershipsWithin d side s.length e s

/-! ## Literals and queries -/

/-- The names of patterns that are variables. -/
def variableNames : List Expr → Except Misread (List String)
  | [] => .ok []
  | .var name :: rest => (variableNames rest).map (name :: ·)
  | _ => .error (.expected "variable")

/-- The patterns after `some`. -/
def patternsWithin (operand : ExprReader) :
    Nat → List Expr → List Lexeme → Except Misread (List Expr × List Lexeme)
  | 0, acc, s => .ok (acc.reverse, s)
  | fuel + 1, acc, s => do
    let (pattern, s) ← operand s
    if nextIs "," s then patternsWithin operand fuel (pattern :: acc) s.tail
    else .ok ((pattern :: acc).reverse, s)

/-- New variables, from after `some`. -/
def someLiteral (d : Dialect) (operand side : ExprReader) (s : List Lexeme) :
    Except Misread (Literal × List Lexeme) := do
  let (patterns, s) ← patternsWithin operand s.length [] s
  if d.nextIs "in" s then
    let (collection, s) ← side s.tail
    match patterns with
    | [pattern] => return (.member none pattern collection, s)
    | [key, pattern] => return (.member (some key) pattern collection, s)
    | _ => throw (.expected "one variable or two")
  return (.declare (← variableNames patterns), s)

/-- A query for all members, from after `every`. -/
def everyLiteral (d : Dialect) (side : ExprReader) (query : QueryReader) (s : List Lexeme) :
    Except Misread (Literal × List Lexeme) := do
  let (first, s) ← d.name s
  let (key, name, s) ←
    if nextIs "," s then do
      let (second, s) ← d.name s.tail
      pure (some first, second, s)
    else pure (none, first, s)
  let (collection, s) ← side (← d.expectWord "in" s)
  let (query, s) ← query "\x7d" (← expectMark "\x7b" s)
  return (.every key name collection query, s)

/-- A literal that consists of expressions. -/
def statement (d : Dialect) (side expr : ExprReader) (s : List Lexeme) :
    Except Misread (Literal × List Lexeme) := do
  let (e, s) ← expr s
  if nextIs ":=" s then
    let (value, s) ← expr s.tail
    return (.assign e value, s)
  if nextIs "=" s then
    let (other, s) ← expr s.tail
    return (.unify e other, s)
  if nextIs "," s then
    let (item, s) ← side s.tail
    let (collection, s) ← side (← d.expectWord "in" s)
    return (.test (.holdsAt collection e item), s)
  return (.test e, s)

/-- A literal. -/
def literalOver (d : Dialect) (operand side expr : ExprReader) (query : QueryReader)
    (s : List Lexeme) : Except Misread (Literal × List Lexeme) :=
  if nextIsWord "some" s then someLiteral d operand side s.tail
  else if d.nextIs "every" s then everyLiteral d side query s.tail
  else if nextIsWord "not" s then
    (statement d side expr s.tail).map fun (literal, s) => (.not literal, s)
  else statement d side expr s

/-- The literals of a query up to a closing mark. -/
def queryWithin (literal : List Lexeme → Except Misread (Literal × List Lexeme))
    (closing : String) : Nat → Query → List Lexeme → Except Misread (Query × List Lexeme)
  | 0, _, _ => .error (.expected ("`" ++ closing ++ "`"))
  | fuel + 1, acc, s => do
    let (first, s) ← literal s
    let acc := first :: acc
    if nextIs closing s then return (arrange acc.reverse, s.tail)
    if nextIs ";" s then
      if nextIs closing s.tail then return (arrange acc.reverse, s.tail.tail)
      queryWithin literal closing fuel acc s.tail
    else if s.head?.any fun lexeme => lexeme.gap = .lineEnd then
      queryWithin literal closing fuel acc s
    else throw (.expected "`;` or line end")

/-! ## All readers -/

/-- The readers with at most `depth` levels of brackets. -/
def readersWithin (d : Dialect) : (depth : Nat) → Inner
  | 0 => .tooDeep
  | depth + 1 =>
    let inner := readersWithin d depth
    let operand := operandWith d inner
    let side := operatorsOver operand ranks
    let expr := exprOver d operand ranks
    { operand := operand
      head := exprOver d operand ranksWithoutUnion
      expr := expr
      query := fun closing s =>
        queryWithin (literalOver d operand side expr inner.query) closing (s.length + 1) [] s }

end PolicyScan.Rego
