import PolicyScan.Rego.Value

/-!
# Modules of Rego

A module is a package with rules.  A rule defines a value, the members of a
set, the entries of an object or a function, each under conditions: queries,
which are rows of literals over expressions.

Names that stand for nothing but "any" are told apart by numbers, so that
every such name is a variable of its own.
-/

namespace PolicyScan.Rego

/-- An operator between two operands. -/
inductive BinaryOp where
  | equal
  | notEqual
  | less
  | lessEqual
  | greater
  | greaterEqual
  | union
  | intersection
  | add
  | subtract
  | multiply
  | divide
  | modulo
deriving DecidableEq, Repr

/-- How an operator is written. -/
def BinaryOp.sign : BinaryOp → String
  | .equal => "=="
  | .notEqual => "!="
  | .less => "<"
  | .lessEqual => "<="
  | .greater => ">"
  | .greaterEqual => ">="
  | .union => "|"
  | .intersection => "&"
  | .add => "+"
  | .subtract => "-"
  | .multiply => "*"
  | .divide => "/"
  | .modulo => "%"

mutual

/-- An expression. -/
inductive Expr where
  | const (value : Value)
  | var (name : String)
  | arr (items : List Expr)
  | set (members : List Expr)
  | obj (fields : List (Expr × Expr))
  | arrOf (item : Expr) (query : List Literal)
  | setOf (item : Expr) (query : List Literal)
  | objOf (key value : Expr) (query : List Literal)
  /-- What stands at a key of a collection. -/
  | index (base key : Expr)
  | call (function : String) (arguments : List Expr)
  | binary (op : BinaryOp) (left right : Expr)
  | negate (operand : Expr)
  /-- Whether a collection holds a value. -/
  | holds (collection item : Expr)
  /-- Whether a collection holds a value at a key. -/
  | holdsAt (collection key item : Expr)

/-- A condition. -/
inductive Literal where
  | test (e : Expr)
  | not (condition : Literal)
  /-- New variables that are parts of a value. -/
  | assign (pattern e : Expr)
  /-- Two expressions that are to be equal. -/
  | unify (left right : Expr)
  | declare (names : List String)
  /-- New variables that are a member of a collection, and its key. -/
  | member (key : Option Expr) (pattern collection : Expr)
  /-- A query that holds for all members of a collection. -/
  | every (key : Option String) (name : String) (collection : Expr) (query : List Literal)

end

instance : Inhabited Expr := ⟨.const .null⟩

/-- A row of conditions. -/
abbrev Query := List Literal

/-- What a rule defines. -/
inductive Head where
  | value
  | member (item : Expr)
  | entry (key : Expr)
  | function (parameters : List Expr)

/-- A query with the value that the rule has if it holds. -/
structure Clause where
  value : Expr
  query : Query

/-- A rule.  Of its clauses the first one that holds counts. -/
structure Rule where
  /-- The names that lead to it, the package's included. -/
  path : List String
  head : Head
  clauses : List Clause

/-- The value of a rule that has none otherwise. -/
structure Default where
  path : List String
  value : Expr

/-- A module. -/
structure Module where
  /-- The names that lead to the package. -/
  package : List String
  rules : List Rule
  defaults : List Default

/-- The text of a path below `data`. -/
def pathText (path : List String) : String := ".".intercalate ("data" :: path)

namespace Module

/-- The paths of all rules. -/
def paths (m : Module) : List (List String) :=
  m.rules.map Rule.path ++ m.defaults.map Default.path

/-- Whether a name is the start of a rule of the package. -/
def isRule (m : Module) (name : String) : Bool :=
  m.paths.any fun path => (m.package ++ [name]).isPrefixOf path

end Module

end PolicyScan.Rego
