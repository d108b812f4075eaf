import PolicyScan.Hcl.Lexeme
import PolicyScan.Text.Lines

/-!
# Reading expressions of HCL

An expression is read with at most `depth` further expressions in one another.
Inside of brackets other than those of an object a line end is a blank.

A template is passed over to find where it ends, and kept as it was written;
only the escapes of its quoted text are resolved.
-/

namespace PolicyScan.Hcl

/-- A reader of an expression; the flag says whether line ends are blanks. -/
abbrev ExprReader := Bool → List Char → Except Fault (Expr × List Char)

/-! ## Templates -/

/-- A part of a template's text. -/
inductive Piece where
  | literal (text : List Char)
  /-- An interpolation or a directive as written. -/
  | computed (source : List Char)
deriving DecidableEq

/-- The text of a piece. -/
def Piece.text : Piece → List Char
  | .literal text => text
  | .computed source => source

/-- Append a character to the last literal of pieces in reverse. -/
def addLiteral (c : List Char) : List Piece → List Piece
  | .literal text :: rest => .literal (text ++ c) :: rest
  | pieces => .literal c :: pieces

/-- The characters of `s` before the suffix `rest`. -/
def before (s rest : List Char) : List Char := s.take (s.length - rest.length)

/-- Where the literals of a template end, and which escapes they have. -/
inductive Quoting where
  /-- Up to a quote, with escapes. -/
  | quotes
  /-- Up to a line that starts with a delimiter. -/
  | lines (delimiter : List Char)
deriving DecidableEq

/-- The text from the delimiter of a heredoc on, when its line starts here. -/
def atDelimiter? (delimiter : List Char) (s : List Char) : Option (List Char) :=
  let s := s.dropWhile fun c => c = ' ' || c = '\t'
  if delimiter.isPrefixOf s && !((s.drop delimiter.length).head?.any continuesWord) then some s
  else none

/-- Whether a template's text ends here.  `fresh` tells whether a line starts
here. -/
def Quoting.ended (q : Quoting) (fresh : Bool) (s : List Char) : Bool :=
  match q with
  | .quotes => s.head? = some '"'
  | .lines delimiter => fresh && (atDelimiter? delimiter s).isSome

/-- The sign that may stand at both ends of a directive to trim blanks. -/
def skipTrim : List Char → List Char
  | '~' :: rest => rest
  | s => s

/-- The text after the end of an interpolation or a directive. -/
def closeBrace (s : List Char) : Except Fault (List Char) :=
  expect "\x7d" (skipTrim (skipGap true s))

/-- The words that end a part of a template. -/
inductive Ending where
  | elseWord
  | endifWord
  | endforWord
deriving DecidableEq

/-- The ending of a word. -/
def Ending.ofWord? : String → Option Ending
  | "else" => some .elseWord
  | "endif" => some .endifWord
  | "endfor" => some .endforWord
  | _ => none

/-- The names that a loop binds and the text after `in`. -/
def loopHead (s : List Char) : Except Fault (List String × List Char) := do
  let (first, s) ← word (skipGap true s)
  let s := skipGap true s
  let (names, s) ← match s with
    | ',' :: s => do
      let (second, s) ← word (skipGap true s)
      pure ([first, second], skipGap true s)
    | s => pure ([first], s)
  match keyword? "in" s with
  | some s => .ok (names, skipGap true s)
  | none => .error (.expected "`in`")

/-- Pass over the pieces of a template up to its end, or up to and with an
ending word.  `open` counts the directives that are not yet ended: for each,
whether an `else` may follow. -/
def piecesWithin (expr : ExprReader) (q : Quoting) :
    Nat → (fresh : Bool) → (opened : List (List Ending)) → (start : List Char) → List Char →
      List Piece → Except Fault (List Piece × List Char)
  | 0, _, _, _, _, _ => .error (.expected "end of template")
  | fuel + 1, fresh, opened, start, s, acc =>
    let literal (text : List Char) (fresh : Bool) (rest : List Char) :=
      let acc := if opened = [] then addLiteral text acc else acc
      piecesWithin expr q fuel fresh opened start rest acc
    let computed (opened' : List (List Ending)) (rest : List Char) :=
      let start := if opened = [] then s else start
      let acc := if opened' = [] then .computed (before start rest) :: acc else acc
      piecesWithin expr q fuel false opened' start rest acc
    if q.ended fresh s then
      if opened = [] then .ok (acc.reverse, s) else .error (.expected "end of directive")
    else match s with
      | [] => .error (.expected "end of template")
      | c :: rest =>
        match doubledSign? s with
        | some (sign, rest) => literal [sign, sign, '\x7b'] false rest
        | none =>
          match s with
          | '$' :: '\x7b' :: rest => do
            let (_, rest) ← expr true (skipGap true (skipTrim rest))
            computed opened (← closeBrace rest)
          | '%' :: '\x7b' :: rest => do
            let (name, rest) ← word (skipGap true (skipTrim rest))
            match name, Ending.ofWord? name, opened with
            | "if", _, _ =>
              let (_, rest) ← expr true (skipGap true rest)
              computed ([.elseWord, .endifWord] :: opened) (← closeBrace rest)
            | "for", _, _ =>
              let (_, rest) ← loopHead rest
              let (_, rest) ← expr true rest
              computed ([.endforWord] :: opened) (← closeBrace rest)
            | _, some ending, allowed :: outer =>
              if ending ∉ allowed then throw (.expected "directive")
              let rest ← closeBrace rest
              computed (if ending = .elseWord then [.endifWord] :: outer else outer) rest
            | _, _, _ => throw (.expected "directive")
          | _ =>
            if q = .quotes && c = '\\' then
              match escape rest with
              | .ok (d, rest) => literal [d] false rest
              | .error fault => .error fault
            else literal [c] (c = '\n') rest

/-- The pieces of a template up to its end. -/
def pieces (expr : ExprReader) (q : Quoting) (s : List Char) :
    Except Fault (List Piece × List Char) :=
  piecesWithin expr q (s.length + 1) true [] s s []

/-- A quoted text or template, its opening quote passed. -/
def quotedExpr (expr : ExprReader) (s : List Char) : Except Fault (Expr × List Char) := do
  match ← plainText s with
  | some (text, rest) => return (.string text, rest)
  | none =>
    let (ps, rest) ← pieces expr .quotes s
    return (.template (.quoted (String.ofList (ps.flatMap Piece.text))), rest.drop 1)

/-! ## Heredocs -/

/-- The lines of a literal piece, the first one aside if it continues a line. -/
def wholeLines (continues : Bool) (text : List Char) : List (List Char) :=
  (Text.lines text).drop (if continues then 1 else 0)

/-- The least indentation of the lines that literals start; empty lines do not
count. -/
def leastIndent (continues : Bool) : List Piece → Option Nat
  | [] => none
  | piece :: rest =>
    let own := match piece with
      | .literal text =>
        ((wholeLines continues text).filter (· ≠ [])).map fun line =>
          (line.takeWhile Text.isWhite).length
      | .computed _ => []
    (own ++ (leastIndent true rest).toList).min?

/-- Take the indentation from the lines that literals start. -/
def removeIndent (indent : Nat) (continues : Bool) : List Piece → List Piece
  | [] => []
  | .literal text :: rest =>
    let lines := Text.lines text
    let kept := lines.zipIdx.map fun (line, i) =>
      if i = 0 && continues then line else line.drop indent
    .literal (List.intercalate ['\n'] kept) :: removeIndent indent true rest
  | piece :: rest => piece :: removeIndent indent true rest

/-- A heredoc from after its opening signs. -/
def heredoc (expr : ExprReader) (s : List Char) : Except Fault (Expr × List Char) := do
  let (indented, s) := match s with
    | '-' :: s => (true, s)
    | s => (false, s)
  let (delimiter, s) ← word s
  let s ← match s with
    | '\n' :: s => pure s
    | '\r' :: '\n' :: s => pure s
    | _ => throw (.expected "newline")
  let (ps, rest) ← pieces expr (.lines delimiter.toList) s
  let ps := if indented then removeIndent ((leastIndent false ps).getD 0) false ps else ps
  let text := String.ofList (ps.flatMap Piece.text)
  match atDelimiter? delimiter.toList rest with
  | some rest =>
    return (.template (.heredoc delimiter indented text), rest.drop delimiter.toList.length)
  | none => throw (.expected "heredoc delimiter")

/-! ## Collections and calls -/

/-- Expressions between commas up to a closing sign.  The last one may be
spread where `spreads` says so. -/
def itemsWithin (expr : ExprReader) (closing : Char) (spreads : Bool) :
    Nat → List Char → List Expr → Except Fault (List Expr × Bool × List Char)
  | 0, _, _ => .error (.expected "closing bracket")
  | fuel + 1, s, acc => do
    let s := skipGap true s
    if s.head? = some closing then return (acc.reverse, false, s.drop 1)
    let (item, s) ← expr true s
    match skipGap true s with
    | ',' :: s => itemsWithin expr closing spreads fuel s (item :: acc)
    | '.' :: '.' :: '.' :: s =>
      if !spreads then throw (.expected "`,`")
      match skipGap true s with
      | c :: s =>
        if c = closing then return ((item :: acc).reverse, true, s)
        else throw (.expected "closing bracket")
      | [] => throw (.expected "closing bracket")
    | c :: s =>
      if c = closing then return ((item :: acc).reverse, false, s)
      else throw (.expected "`,`")
    | [] => throw (.expected "closing bracket")

/-- The key of a field: a lone word is a name. -/
def fieldKey (expr : ExprReader) (s : List Char) : Except Fault (Key × List Char) := do
  match ← expr false s with
  | (.variable name, s) => return (.name name, s)
  | (e, s) => return (.computed e, s)

/-- The fields of an object up to its closing brace.  A comma or a line end
stands between them, and no key may come twice. -/
def fieldsWithin (expr : ExprReader) :
    Nat → List Char → List (Key × Expr) → Except Fault (List (Key × Expr) × List Char)
  | 0, _, _ => .error (.expected "`\x7d`")
  | fuel + 1, s, acc => do
    let s := skipGap true s
    if s.head? = some '\x7d' then return (acc.reverse, s.drop 1)
    let (key, s) ← fieldKey expr s
    let s ← match skipGap false s with
      | '=' :: s => pure s
      | ':' :: s => pure s
      | _ => throw (.expected "`=` or `:`")
    let (value, s) ← expr false (skipGap false s)
    if acc.any fun field => field.1.same key then throw (.repeatedKey key.print)
    let acc := (key, value) :: acc
    match skipGap false s with
    | ',' :: s => fieldsWithin expr fuel s acc
    | '\x7d' :: s => return (acc.reverse, s)
    | s =>
      match lineEnd? s with
      | some s => fieldsWithin expr fuel s acc
      | none => throw (.expected "`,`, `\x7d` or newline")

/-- Whether a loop starts here, and the text after its first word. -/
def loopStart? (s : List Char) : Option (List Char) :=
  (keyword? "for" (skipGap true s)).filter fun rest => (skipGap true rest).head?.any startsWord

/-- The condition of a loop, which may be missing. -/
def loopFilter (expr : ExprReader) (s : List Char) : Except Fault (Option Expr × List Char) :=
  let s := skipGap true s
  match keyword? "if" s with
  | some s => do
    let (test, s) ← expr true (skipGap true s)
    return (some test, skipGap true s)
  | none => .ok (none, s)

/-- A loop that makes a list, from after `for`. -/
def forList (expr : ExprReader) (s : List Char) : Except Fault (Expr × List Char) := do
  let (names, s) ← loopHead s
  let (source, s) ← expr true s
  let s ← expect ":" (skipGap true s)
  let (value, s) ← expr true (skipGap true s)
  let (filter, s) ← loopFilter expr s
  return (.forList names source value filter, ← expect "]" s)

/-- A loop that makes an object, from after `for`. -/
def forMap (expr : ExprReader) (s : List Char) : Except Fault (Expr × List Char) := do
  let (names, s) ← loopHead s
  let (source, s) ← expr true s
  let s ← expect ":" (skipGap true s)
  let (key, s) ← expr true (skipGap true s)
  let s ← expect "=>" (skipGap true s)
  let (value, s) ← expr true (skipGap true s)
  let (grouped, s) := match skipGap true s with
    | '.' :: '.' :: '.' :: s => (true, s)
    | s => (false, s)
  let (filter, s) ← loopFilter expr s
  return (.forMap names source key value grouped filter, ← expect "\x7d" s)

/-- The names of a function after its first part. -/
def qualifiedName : Nat → String → List Char → Except Fault (String × List Char)
  | 0, name, s => .ok (name, s)
  | fuel + 1, name, s =>
    match skipGap false s with
    | ':' :: ':' :: s => do
      let (part, s) ← word (skipGap false s)
      qualifiedName fuel (name ++ "::" ++ part) s
    | _ => .ok (name, s)

/-- A word and what it stands for: a call, a literal or a variable. -/
def wordExpr (expr : ExprReader) (s : List Char) : Except Fault (Expr × List Char) := do
  let (name, rest) ← word s
  let (full, rest) ← qualifiedName rest.length name rest
  match skipGap false rest with
  | '(' :: rest =>
    let (arguments, spread, rest) ← itemsWithin expr ')' true (rest.length + 1) rest []
    return (.call full arguments spread, rest)
  | _ =>
    if full ≠ name then throw (.expected "`(`")
    let e := match name with
      | "null" => Expr.null
      | "true" => .bool true
      | "false" => .bool false
      | name => .variable name
    return (e, rest)

/-! ## Operands and operators -/

/-- A step from a value, from after its dot. -/
def dotStep (s : List Char) : Except Fault (Step × List Char) :=
  match skipGap false s with
  | '*' :: s => .ok (.everyAttribute, s)
  | c :: s =>
    if Json.isDigit c then
      let (ds, rest) := Json.digits (c :: s)
      match Number.ofInt? (Json.decimalValue ds) with
      | some _ => .ok (.position (Json.decimalValue ds), rest)
      | none => .error .numberOutOfRange
    else (word (c :: s)).map fun (name, s) => (.attribute name, s)
  | [] => .error (.expected "attribute")

/-- A step from a value, from after its opening bracket. -/
def bracketStep (expr : ExprReader) (s : List Char) : Except Fault (Step × List Char) := do
  match skipGap true s with
  | '*' :: rest =>
    return (.every, ← expect "]" (skipGap true rest))
  | s =>
    let (index, s) ← expr true s
    return (.index index, ← expect "]" (skipGap true s))

/-- The steps after a value. -/
def stepsWithin (expr : ExprReader) (lines : Bool) : Nat → Expr → List Char → Except Fault (Expr × List Char)
  | 0, e, s => .ok (e, s)
  | fuel + 1, e, s =>
    match skipGap lines s with
    | '.' :: '.' :: _ => .ok (e, s)
    | '.' :: rest => do
      let (step, rest) ← dotStep rest
      stepsWithin expr lines fuel (.select e step) rest
    | '[' :: rest => do
      let (step, rest) ← bracketStep expr rest
      stepsWithin expr lines fuel (.select e step) rest
    | _ => .ok (e, s)

/-- An operand without the steps after it; `operand` reads the operand of an
operator in front. -/
def primary (expr operand : ExprReader) (lines : Bool) (s : List Char) : Except Fault (Expr × List Char) :=
  match s with
  | '"' :: rest => quotedExpr expr rest
  | '<' :: '<' :: rest => heredoc expr rest
  | '[' :: rest =>
    match loopStart? rest with
    | some rest => forList expr rest
    | none => do
      let (items, _, rest) ← itemsWithin expr ']' false (rest.length + 1) rest []
      return (.array items, rest)
  | '\x7b' :: rest =>
    match loopStart? rest with
    | some rest => forMap expr rest
    | none => do
      let (fields, rest) ← fieldsWithin expr (rest.length + 1) rest []
      return (.object fields, rest)
  | '(' :: rest => do
    let (inner, rest) ← expr true (skipGap true rest)
    return (.parens inner, ← expect ")" (skipGap true rest))
  | '!' :: rest => do
    let (e, rest) ← operand lines (skipGap lines rest)
    return (.unary .not e, rest)
  | '-' :: rest =>
    let rest := skipGap lines rest
    if rest.head?.any Json.isDigit then
      (number rest).map fun (n, rest) => (.number (negate n), rest)
    else do
      let (e, rest) ← operand lines rest
      return (.unary .negate e, rest)
  | c :: _ =>
    if Json.isDigit c then (number s).map fun (n, rest) => (.number n, rest)
    else if startsWord c then wordExpr expr s
    else .error (.expected "expression")
  | [] => .error (.expected "expression")

/-- An operand; `expr` reads the expressions inside of it. -/
def operandWith (expr operand : ExprReader) : ExprReader := fun lines s => do
  let (e, s) ← primary expr operand lines s
  stepsWithin expr lines s.length e s

/-- The operator that comes next, and the text after it.  A slash before a
slash or a star starts a comment. -/
def operator? (s : List Char) : Option (BinaryOp × List Char) :=
  match s with
  | '/' :: '/' :: _ => none
  | '/' :: '*' :: _ => none
  | s =>
    (BinaryOp.all.find? fun op => op.sign.toList.isPrefixOf s).map fun op =>
      (op, s.drop op.sign.toList.length)

/-- The operators and operands after the first one. -/
def chainWithin (operand : ExprReader) (lines : Bool) : Nat → Expr → List Char → Except Fault (Expr × List Char)
  | 0, e, s => .ok (e, s)
  | fuel + 1, e, s =>
    match operator? (skipGap lines s) with
    | some (op, rest) => do
      let (right, rest) ← operand lines (skipGap lines rest)
      chainWithin operand lines fuel (.binary op e right) rest
    | none => .ok (e, s)

/-- An expression made of operands that `operand` reads; `branch` reads the two
branches of a conditional. -/
def exprWith (operand branch : ExprReader) : ExprReader := fun lines s => do
  let (e, s) ← operand lines s
  let (e, s) ← chainWithin operand lines s.length e s
  match skipGap lines s with
  | '?' :: rest =>
    let (yes, rest) ← branch lines (skipGap lines rest)
    let rest ← expect ":" (skipGap lines rest)
    let (no, rest) ← branch lines (skipGap lines rest)
    return (.conditional e yes no, rest)
  | _ => return (e, s)

/-- No expression may stand here. -/
def tooDeep : ExprReader := fun _ _ => .error .nestedTooDeep

/-- The readers of operands and of expressions with at most `depth` further
ones in one another. -/
def readersWithin : (depth : Nat) → ExprReader × ExprReader
  | 0 =>
    let operand := operandWith tooDeep tooDeep
    (operand, exprWith operand tooDeep)
  | depth + 1 =>
    let (operand', expr') := readersWithin depth
    let operand := operandWith expr' operand'
    (operand, exprWith operand expr')

/-- An expression with at most `depth` further ones in one another. -/
def exprWithin (depth : Nat) : ExprReader := (readersWithin depth).2

end PolicyScan.Hcl
