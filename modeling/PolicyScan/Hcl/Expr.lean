import PolicyScan.Json.Basic

/-!
# Expressions of HCL

An expression is a literal, a template, a collection, or a computation over
them.  Operators stand in the order in which they were written; since brackets
are kept as they were written too, the text of an expression does not depend
on how tightly its operators bind.
-/

namespace PolicyScan.Hcl

/-- A text with interpolations and directives, kept as written. -/
inductive Template where
  | quoted (text : String)
  /-- Lines up to a delimiter; `indented` ones have lost their indentation. -/
  | heredoc (delimiter : String) (indented : Bool) (text : String)
deriving DecidableEq, Repr

/-- The text of a template. -/
def Template.text : Template → String
  | .quoted text => text
  | .heredoc _ _ text => text

/-- An operator before its operand. -/
inductive UnaryOp where
  | negate
  | not
deriving DecidableEq, Repr

/-- The sign of an operator. -/
def UnaryOp.sign : UnaryOp → String
  | .negate => "-"
  | .not => "!"

/-- An operator between two operands. -/
inductive BinaryOp where
  | equal
  | notEqual
  | lessEqual
  | greaterEqual
  | less
  | greater
  | add
  | subtract
  | multiply
  | divide
  | remainder
  | and
  | or
deriving DecidableEq, Repr

namespace BinaryOp

/-- The operators; one whose sign starts another's stands after it. -/
def all : List BinaryOp :=
  [.equal, .notEqual, .lessEqual, .greaterEqual, .less, .greater, .add, .subtract, .multiply,
    .divide, .remainder, .and, .or]

/-- The sign of an operator. -/
def sign : BinaryOp → String
  | .equal => "=="
  | .notEqual => "!="
  | .lessEqual => "<="
  | .greaterEqual => ">="
  | .less => "<"
  | .greater => ">"
  | .add => "+"
  | .subtract => "-"
  | .multiply => "*"
  | .divide => "/"
  | .remainder => "%"
  | .and => "&&"
  | .or => "||"

end BinaryOp

mutual

/-- An expression. -/
inductive Expr where
  | null
  | bool (value : Bool)
  | number (value : Number)
  | string (text : String)
  | template (value : Template)
  | array (items : List Expr)
  | object (fields : List (Key × Expr))
  | variable (name : String)
  | select (base : Expr) (step : Step)
  /-- A function call; the last argument may be spread. -/
  | call (name : String) (arguments : List Expr) (spread : Bool)
  | parens (inner : Expr)
  | conditional (test yes no : Expr)
  | unary (op : UnaryOp) (operand : Expr)
  | binary (op : BinaryOp) (left right : Expr)
  | forList (names : List String) (source value : Expr) (filter : Option Expr)
  | forMap (names : List String) (source key value : Expr) (grouped : Bool)
      (filter : Option Expr)

/-- The key of an object's field. -/
inductive Key where
  | name (text : String)
  | computed (value : Expr)

/-- A step from a value to a part of it. -/
inductive Step where
  | attribute (name : String)
  | position (index : Nat)
  | everyAttribute
  | every
  | index (value : Expr)

end

instance : Inhabited Expr := ⟨.null⟩

/-! ## The text of an expression -/

/-- A character inside of quotes. -/
def escapeChar (c : Char) : String :=
  match c with
  | '"' => "\\\""
  | '\\' => "\\\\"
  | '\x08' => "\\b"
  | '\x0c' => "\\f"
  | '\n' => "\\n"
  | '\r' => "\\r"
  | '\t' => "\\t"
  | c =>
    if c.toNat < 0x20 then
      "\\u00" ++ (if c.toNat < 0x10 then "0" else "1")
        ++ String.ofList (Nat.toDigits 16 (c.toNat % 16))
    else String.singleton c

/-- A text in quotes. -/
def quote (text : String) : String :=
  "\"" ++ String.join (text.toList.map escapeChar) ++ "\""

/-- A number. -/
def numberText : Number → String
  | .int value _ => toString value
  | .float value => value.scientificText ""

/-- A template with its delimiters. -/
def Template.print : Template → String
  | .quoted text => "\"" ++ text ++ "\""
  | .heredoc delimiter indented text =>
    (if indented then "<<-" else "<<") ++ delimiter ++ "\n" ++ text ++ delimiter

/-- The names that a loop binds. -/
def loopNames (names : List String) : String := ", ".intercalate names

mutual

/-- The text of an expression: one space around operators and after commas. -/
def Expr.print : Expr → String
  | .null => "null"
  | .bool true => "true"
  | .bool false => "false"
  | .number value => numberText value
  | .string text => quote text
  | .template value => value.print
  | .array items => "[" ++ ", ".intercalate (printAll items) ++ "]"
  | .object [] => "\x7b\x7d"
  | .object fields => "\x7b " ++ ", ".intercalate (printFields fields) ++ " \x7d"
  | .variable name => name
  | .select base step => base.print ++ step.print
  | .call name arguments spread =>
    name ++ "(" ++ ", ".intercalate (printAll arguments) ++ (if spread then "..." else "") ++ ")"
  | .parens inner => "(" ++ inner.print ++ ")"
  | .conditional test yes no => test.print ++ " ? " ++ yes.print ++ " : " ++ no.print
  | .unary op operand => op.sign ++ operand.print
  | .binary op left right => left.print ++ " " ++ op.sign ++ " " ++ right.print
  | .forList names source value filter =>
    "[for " ++ loopNames names ++ " in " ++ source.print ++ " : " ++ value.print
      ++ printFilter filter ++ "]"
  | .forMap names source key value grouped filter =>
    "\x7bfor " ++ loopNames names ++ " in " ++ source.print ++ " : " ++ key.print ++ " => "
      ++ value.print ++ (if grouped then "..." else "") ++ printFilter filter ++ "\x7d"

/-- The condition of a loop. -/
def printFilter : Option Expr → String
  | none => ""
  | some test => " if " ++ test.print

/-- The texts of expressions. -/
def printAll : List Expr → List String
  | [] => []
  | item :: rest => item.print :: printAll rest

/-- The texts of fields. -/
def printFields : List (Key × Expr) → List String
  | [] => []
  | (key, value) :: rest => (key.print ++ " = " ++ value.print) :: printFields rest

/-- The text of a key. -/
def Key.print : Key → String
  | .name text => text
  | .computed value => value.print

/-- The text of a step. -/
def Step.print : Step → String
  | .attribute name => "." ++ name
  | .position index => "." ++ toString index
  | .everyAttribute => ".*"
  | .every => "[*]"
  | .index value => "[" ++ value.print ++ "]"

end

/-- Whether two keys are the same: both names or both computed, and written
alike. -/
def Key.same (a b : Key) : Bool :=
  match a, b with
  | .name a, .name b => a == b
  | .computed a, .computed b => a.print == b.print
  | _, _ => false

/-! ## The value of an expression -/

/-- What is wrong with a text. -/
inductive Fault where
  /-- Something else than the named should stand here. -/
  | expected (what : String)
  | nestedTooDeep
  | numberOutOfRange
  | repeatedAttribute (name : String)
  | repeatedKey (key : String)
  /-- A key that is no text. -/
  | keyNotText
deriving DecidableEq, Repr

/-- The fault in words. -/
def Fault.message : Fault → String
  | .expected what => "invalid input; expected " ++ what
  | .nestedTooDeep => "recursion limit exceeded"
  | .numberOutOfRange => "number out of range"
  | .repeatedAttribute name => "unique attribute key; found `" ++ name ++ "`"
  | .repeatedKey key => "unique object key; found `" ++ key ++ "`"
  | .keyNotText => "invalid type: expected a string key"

/-- An expression as a text that is to be computed. -/
def interpolated (e : Expr) : String := "$\x7b" ++ e.print ++ "\x7d"

mutual

/-- The value of an expression: literals and collections as they are, brackets
around them aside, and every other expression as an interpolation. -/
def Expr.toJson : Expr → Except Fault Json
  | .null => .ok .null
  | .bool value => .ok (.bool value)
  | .number value => .ok (.num value)
  | .string text => .ok (.str text)
  | .template value => .ok (.str value.text)
  | .array items => (itemsToJson items).map .arr
  | .object fields => (fieldsToJson fields).map .ofFields
  | .parens inner => inner.toJson
  | e => .ok (.str (interpolated e))

/-- The values of items. -/
def itemsToJson : List Expr → Except Fault (List Json)
  | [] => .ok []
  | item :: rest => do return (← item.toJson) :: (← itemsToJson rest)

/-- The values of fields. -/
def fieldsToJson : List (Key × Expr) → Except Fault (List (String × Json))
  | [] => .ok []
  | (key, value) :: rest => do
    let key ← key.toText
    return (key, ← value.toJson) :: (← fieldsToJson rest)

/-- The text of a key, which must not be a literal of another kind. -/
def Key.toText : Key → Except Fault String
  | .name text => .ok text
  | .computed value => do
    match ← value.toJson with
    | .str text => .ok text
    | _ => .error .keyNotText

end

end PolicyScan.Hcl
