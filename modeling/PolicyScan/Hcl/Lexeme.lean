import PolicyScan.Hcl.Expr
import PolicyScan.Json.Reader
import PolicyScan.Text.Identifier

/-!
# Words, numbers and quoted texts of HCL

Readers for the smallest parts of a text, and for the blanks and comments
between them.  Where a line end means something, a gap stops at it and at
comments that run up to it; elsewhere it passes over them.
-/

namespace PolicyScan.Hcl

/-- The outcome of a reader: what was read and the characters after it. -/
abbrev Read (α : Type) := Except Fault (α × List Char)

/-! ## Gaps -/

/-- The text after a comment that has been opened with `/*`; none if it is not
closed. -/
def afterComment : List Char → Option (List Char)
  | [] => none
  | '*' :: '/' :: rest => some rest
  | _ :: rest => afterComment rest

/-- The text from the end of the line on. -/
def toLineEnd : List Char → List Char
  | [] => []
  | '\n' :: rest => '\n' :: rest
  | '\r' :: '\n' :: rest => '\r' :: '\n' :: rest
  | _ :: rest => toLineEnd rest

/-- The text after blanks and comments; `lines` says whether line ends are
blanks too. -/
def skipGapWithin (lines : Bool) : Nat → List Char → List Char
  | 0, s => s
  | fuel + 1, s =>
    match s with
    | ' ' :: rest => skipGapWithin lines fuel rest
    | '\t' :: rest => skipGapWithin lines fuel rest
    | '/' :: '*' :: rest =>
      match afterComment rest with
      | some rest => skipGapWithin lines fuel rest
      | none => s
    | '\n' :: rest => if lines then skipGapWithin lines fuel rest else s
    | '\r' :: '\n' :: rest => if lines then skipGapWithin lines fuel rest else s
    | '#' :: rest => if lines then skipGapWithin lines fuel (toLineEnd rest) else s
    | '/' :: '/' :: rest => if lines then skipGapWithin lines fuel (toLineEnd rest) else s
    | s => s

/-- The text after blanks and comments. -/
def skipGap (lines : Bool) (s : List Char) : List Char := skipGapWithin lines (s.length + 1) s

/-- The text after the end of a line, with a comment up to it. -/
def lineEnd? (s : List Char) : Option (List Char) :=
  let s := skipGap false s
  let s := match s with
    | '#' :: rest => toLineEnd rest
    | '/' :: '/' :: rest => toLineEnd rest
    | s => s
  match s with
  | [] => some []
  | '\n' :: rest => some rest
  | '\r' :: '\n' :: rest => some rest
  | _ => none

/-- Pass over a sign. -/
def expect (sign : String) (s : List Char) : Except Fault (List Char) :=
  let sign' := sign.toList
  if sign'.isPrefixOf s then .ok (s.drop sign'.length) else .error (.expected ("`" ++ sign ++ "`"))

/-! ## Words -/

/-- A character that starts a word. -/
def startsWord (c : Char) : Bool := c = '_' || Text.startsIdentifier c

/-- A character inside of a word. -/
def continuesWord (c : Char) : Bool := c = '-' || Text.continuesIdentifier c

/-- A word. -/
def word (s : List Char) : Read String :=
  match s with
  | c :: rest =>
    if startsWord c then
      let (tail, rest) := rest.span continuesWord
      .ok (String.ofList (c :: tail), rest)
    else .error (.expected "identifier")
  | [] => .error (.expected "identifier")

/-- The text after a keyword, if it comes next. -/
def keyword? (keyword : String) (s : List Char) : Option (List Char) :=
  match word s with
  | .ok (name, rest) => if name = keyword then some rest else none
  | .error _ => none

/-! ## Numbers -/

/-- A number that is whole and fits 64 bits is kept as such. -/
def wholeIfPossible (x : Binary64) : Number :=
  match x.toInt?.bind Number.ofInt? with
  | some n => n
  | none => .float x

/-- The digits of an exponent with its sign, and what follows them. -/
def exponent? (s : List Char) : Option (Int × List Char) :=
  let signed (s : List Char) : Option (Int × List Char) :=
    let (down, s) := Json.exponentSign s
    match Json.digits s with
    | ([], _) => none
    | (ds, rest) =>
      let n : Int := Json.decimalValue ds
      some (if down then -n else n, rest)
  match s with
  | 'e' :: s => signed s
  | 'E' :: s => signed s
  | _ => none

/-- A number without a sign: whole digits, and a fraction or an exponent or
both, or neither. -/
def number (s : List Char) : Read Number :=
  match Json.digits s with
  | ([], _) => .error (.expected "number")
  | (whole, rest) =>
    let (fraction, afterFraction) := match rest with
      | '.' :: tail =>
        match Json.digits tail with
        | ([], _) => ([], rest)
        | (ds, tail) => (ds, tail)
      | rest => ([], rest)
    let (power, rest) := match exponent? afterFraction with
      | some (e, rest) => (some e, rest)
      | none => (none, afterFraction)
    if fraction = [] ∧ power = none then
      match Number.ofInt? (Json.decimalValue whole) with
      | some n => .ok (n, rest)
      | none => .error .numberOutOfRange
    else
      let places : Int := fraction.length
      match Binary64.ofDecimal false (Json.decimalValue (whole ++ fraction))
          (power.getD 0 - places) with
      | some x => .ok (wholeIfPossible x, rest)
      | none => .error .numberOutOfRange

/-- The number with the other sign; one that no longer fits becomes the nearest
binary64 value. -/
def negate : Number → Number
  | .int value _ =>
    match Number.ofInt? (-value) with
    | some n => n
    | none => .float ((Binary64.ofRatio (value > 0) value.natAbs 1).getD .zero)
  | .float x => .float x.neg

/-! ## Quoted texts -/

/-- The character of a one-letter escape. -/
def shortEscape? : Char → Option Char
  | 'n' => some '\n'
  | 'r' => some '\r'
  | 't' => some '\t'
  | 'b' => some '\x08'
  | 'f' => some '\x0c'
  | '"' => some '"'
  | '\\' => some '\\'
  | '/' => some '/'
  | _ => none

/-- The character of `width` hexadecimal digits. -/
def codePoint (width : Nat) (s : List Char) : Read Char :=
  let digits := s.take width
  match digits.foldlM (fun n d => (Json.hexValue? d).map fun v => n * 16 + v) 0 with
  | some code =>
    if digits.length = width ∧ code.isValidChar then .ok (Char.ofNat code, s.drop width)
    else .error (.expected "unicode escape")
  | none => .error (.expected "unicode escape")

/-- The character of an escape from after its backslash. -/
def escape (s : List Char) : Read Char :=
  match s with
  | 'u' :: rest => codePoint 4 rest
  | 'U' :: rest => codePoint 8 rest
  | c :: rest =>
    match shortEscape? c with
    | some c => .ok (c, rest)
    | none => .error (.expected "escape sequence")
  | [] => .error (.expected "escape sequence")

/-- The sign that starts an interpolation or a directive. -/
def startsTemplate : List Char → Bool
  | '$' :: '\x7b' :: _ => true
  | '%' :: '\x7b' :: _ => true
  | _ => false

/-- A doubled sign, which stands for the sign itself. -/
def doubledSign? : List Char → Option (Char × List Char)
  | '$' :: '$' :: '\x7b' :: rest => some ('$', rest)
  | '%' :: '%' :: '\x7b' :: rest => some ('%', rest)
  | _ => none

/-- The rest of a text without interpolations up to its closing quote; none if
an interpolation or a directive comes first. -/
def plainChars : Nat → List Char → List Char → Except Fault (Option (String × List Char))
  | 0, _, _ => .error (.expected "`\"`")
  | fuel + 1, s, acc =>
    match s with
    | [] => .error (.expected "`\"`")
    | '"' :: rest => .ok (some (String.ofList acc.reverse, rest))
    | '\\' :: rest =>
      match escape rest with
      | .ok (c, rest) => plainChars fuel rest (c :: acc)
      | .error fault => .error fault
    | c :: rest =>
      match doubledSign? s with
      | some (sign, rest) => plainChars fuel rest ('\x7b' :: sign :: acc)
      | none => if startsTemplate s then .ok none else plainChars fuel rest (c :: acc)

/-- A quoted text without interpolations, its opening quote passed. -/
def plainText (s : List Char) : Except Fault (Option (String × List Char)) :=
  plainChars (s.length + 1) s []

end PolicyScan.Hcl
