import PolicyScan.Json.Reader
import PolicyScan.Yaml.Cursor
import PolicyScan.Yaml.Token

/-!
# Scalars of YAML

The text of a scalar as its token carries it: escapes resolved, lines folded.
Inside of quoted and plain scalars the blanks and line ends between two words
are a gap, which is kept back until the next word shows that the scalar goes
on.  A gap without a line end stands for its blanks, a gap with one line end
for a space, and a gap with more for all but the first of them.
-/

namespace PolicyScan.Yaml

/-- The blanks and line ends since the last word of a scalar. -/
inductive Gap where
  /-- Blanks, the last one first. -/
  | blanks (text : List Char)
  /-- The first line end, and the later ones with the last one first. -/
  | lines (first : List Char) (later : List Char)
deriving DecidableEq

namespace Gap

/-- No gap. -/
def none : Gap := .blanks []

/-- The gap with a blank more. -/
def addBlank (c : Char) : Gap → Gap
  | .blanks text => .blanks (c :: text)
  | .lines first later => .lines first later

/-- The gap with a line end more. -/
def addBreak (text : List Char) : Gap → Gap
  | .blanks _ => .lines text []
  | .lines first later => .lines first (text.reverse ++ later)

/-- Whether the gap holds a line end. -/
def isBroken : Gap → Bool
  | .blanks _ => false
  | .lines _ _ => true

/-- What the gap stands for, the last character first. -/
def folded : Gap → List Char
  | .blanks text => text
  | .lines first later =>
    if first = ['\n'] then (if later = [] then [' '] else later)
    else later ++ first.reverse

end Gap

/-! ## Quoted scalars -/

/-- The character of a one-letter escape. -/
def shortEscape? : Char → Option Char
  | '0' => some '\x00'
  | 'a' => some '\x07'
  | 'b' => some '\x08'
  | 't' => some '\t'
  | '\t' => some '\t'
  | 'n' => some '\n'
  | 'v' => some '\x0b'
  | 'f' => some '\x0c'
  | 'r' => some '\r'
  | 'e' => some '\x1b'
  | ' ' => some ' '
  | '"' => some '"'
  | '/' => some '/'
  | '\\' => some '\\'
  | 'N' => some '\x85'
  | '_' => some '\xa0'
  | 'L' => some '\u2028'
  | 'P' => some '\u2029'
  | _ => none

/-- The number of hexadecimal digits of a numeric escape. -/
def escapeWidth? : Char → Option Nat
  | 'x' => some 2
  | 'u' => some 4
  | 'U' => some 8
  | _ => none

/-- The number that hexadecimal digits write. -/
def hexNumber? (digits : List Char) : Option Nat :=
  digits.foldlM (fun n d => (Json.hexValue? d).map fun v => n * 16 + v) 0

/-- The character after a backslash, and the place after its escape. -/
def escape (c : Cursor) : Except Fault (Char × Cursor) :=
  match c.rest with
  | [] => .error .badEscape
  | e :: rest =>
    match shortEscape? e with
    | some char => .ok (char, c.next)
    | none =>
      match escapeWidth? e with
      | none => .error .badEscape
      | some width =>
        let digits := rest.take width
        match hexNumber? digits with
        | some code =>
          if digits.length = width ∧ code.isValidChar then
            .ok (Char.ofNat code, c.forward (width + 1))
          else .error .badEscape
        | none => .error .badEscape

/-- The text of a quoted scalar from after its opening quote, and the place
after the closing one. -/
def quoted (single : Bool) : Nat → Cursor → Gap → List Char → Except Fault (List Char × Cursor)
  | 0, _, _, _ => .error .unclosedQuote
  | fuel + 1, c, gap, acc =>
    match c.rest with
    | [] => .error .unclosedQuote
    | d :: rest =>
      if isBlank d then quoted single fuel c.next (gap.addBlank d) acc
      else if isBreak d then
        let (text, after) := c.takeBreak
        quoted single fuel after (gap.addBreak text) acc
      else if c.atDocumentMark then .error .markInQuote
      else
        let acc := gap.folded ++ acc
        if single then
          match d, rest with
          | '\'', '\'' :: _ => quoted single fuel (c.forward 2) .none ('\'' :: acc)
          | '\'', _ => .ok (acc.reverse, c.next)
          | d, _ => quoted single fuel c.next .none (d :: acc)
        else if d = '"' then .ok (acc.reverse, c.next)
        else if d = '\\' then
          if rest ≠ [] ∧ atLineEnd rest then
            quoted single fuel c.next.takeBreak.2 (.lines [] []) acc
          else
            match escape c.next with
            | .ok (char, after) => quoted single fuel after .none (char :: acc)
            | .error fault => .error fault
        else quoted single fuel c.next .none (d :: acc)

/-! ## Plain scalars -/

/-- A character that ends a plain scalar inside of a flow collection. -/
def isFlowIndicator (c : Char) : Bool :=
  c = ',' || c = '[' || c = ']' || c = '\x7b' || c = '\x7d'

/-- The text of a plain scalar, the place where the next token is looked for,
and whether a line ended before that place.  `indent` is the least column of
the lines after the first. -/
def plain (inFlow : Bool) (indent : Int) :
    Nat → Cursor → Gap → List Char → Except Fault (List Char × Cursor × Bool)
  | 0, c, gap, acc => .ok (acc.reverse, c, gap.isBroken)
  | fuel + 1, c, gap, acc =>
    let stop : Except Fault (List Char × Cursor × Bool) := .ok (acc.reverse, c, gap.isBroken)
    match c.rest with
    | [] => stop
    | d :: rest =>
      if isBlank d then
        if d = '\t' ∧ gap.isBroken ∧ c.column < indent then .error .tabAsIndentation
        else plain inFlow indent fuel c.next (gap.addBlank d) acc
      else if isBreak d then
        let (text, after) := c.takeBreak
        plain inFlow indent fuel after (gap.addBreak text) acc
      else if !inFlow && gap ≠ .none && c.column < indent then stop
      else if c.atDocumentMark then stop
      else if d = '#' && gap ≠ .none then stop
      else if inFlow && d = ':' && rest.head?.any (fun e => isFlowIndicator e || e = '?') then
        .error .ambiguousColon
      else if d = ':' && atGap rest then stop
      else if inFlow && isFlowIndicator d then stop
      else plain inFlow indent fuel c.next .none (d :: (gap.folded ++ acc))

/-! ## Block scalars -/

/-- What happens to the line ends after the last line of a block scalar. -/
inductive Chomping where
  | strip
  | clip
  | keep
deriving DecidableEq, Repr

/-- The chomping of an indicator. -/
def Chomping.ofChar? : Char → Option Chomping
  | '-' => some .strip
  | '+' => some .keep
  | _ => none

/-- The digit of an indentation indicator. -/
def indentDigit? (c : Char) : Option Nat := if c.isDigit then some (c.toNat - 48) else none

/-- The indicators of a block scalar's header in either order, and the place
after them. -/
def blockHeader (c : Cursor) : Except Fault (Chomping × Option Nat × Cursor) := do
  let chomping (c : Cursor) : Option Chomping × Cursor :=
    match c.rest.head?.bind Chomping.ofChar? with
    | some chomping => (some chomping, c.next)
    | none => (none, c)
  let digit (c : Cursor) : Except Fault (Option Nat × Cursor) :=
    match c.rest.head?.bind indentDigit? with
    | some 0 => .error .badBlockHeader
    | some n => .ok (some n, c.next)
    | none => .ok (none, c)
  match chomping c with
  | (some ch, c) =>
    let (n, c) ← digit c
    return (ch, n, c)
  | (none, c) =>
    let (n, c) ← digit c
    let (ch, c) := if n.isSome then chomping c else (none, c)
    return (ch.getD .clip, n, c)

/-- Pass over indentation and empty lines before a line of a block scalar.  The
indentation is `indent`, or the deepest of the lines passed when it is not
known.  Yields that depth, the line ends with the last one first, and the
place. -/
def blockGap (indent : Option Nat) :
    Nat → Cursor → Nat → List Char → Except Fault (Nat × List Char × Cursor)
  | 0, c, deepest, breaks => .ok (deepest, breaks, c)
  | fuel + 1, c, deepest, breaks =>
    let c :=
      match indent with
      | some n => c.forward (min (n - c.column) (c.rest.takeWhile (· = ' ')).length)
      | none => c.skipWhile (· = ' ')
    let deepest := max deepest c.column
    match c.rest with
    | [] => .ok (deepest, breaks, c)
    | d :: _ =>
      if d = '\t' ∧ indent.all (c.column < ·) then .error .tabAsIndentation
      else if isBreak d then
        let (text, after) := c.takeBreak
        blockGap indent fuel after deepest (text.reverse ++ breaks)
      else .ok (deepest, breaks, c)

/-- The state of reading the lines of a block scalar, texts with the last
character first. -/
structure BlockLines where
  text : List Char := []
  /-- The line end of the last line. -/
  ending : List Char := []
  /-- The ends of the empty lines since. -/
  breaks : List Char
  /-- Whether the last line started with a blank. -/
  indented : Bool := false

/-- The text before the next line: lines that both start with no blank are
folded, unless the scalar is literal. -/
def BlockLines.joined (b : BlockLines) (literal indented : Bool) : List Char :=
  if !literal && b.ending = ['\n'] && !b.indented && !indented then
    b.breaks ++ (if b.breaks = [] then ' ' :: b.text else b.text)
  else b.breaks ++ (b.ending.reverse ++ b.text)

/-- Read the lines of a block scalar that stand at the column `indent`. -/
def blockLines (literal : Bool) (indent : Nat) :
    Nat → Cursor → BlockLines → Except Fault (BlockLines × Cursor)
  | 0, c, b => .ok (b, c)
  | fuel + 1, c, b =>
    if c.column = indent ∧ c.rest ≠ [] then do
      let indented := c.rest.head?.any isBlank
      let start := b.joined literal indented
      let (line, after) := c.takeWhile fun d => !isBreak d
      let (ending, after) := after.takeBreak
      let (_, breaks, after) ← blockGap (some indent) (after.rest.length + 1) after 0 []
      blockLines literal indent fuel after ⟨line.reverse ++ start, ending, breaks, indented⟩
    else .ok (b, c)

/-- The text of a block scalar from after its indicator, and the place after
it.  `parent` is the column of the collection around it. -/
def blockScalar (literal : Bool) (parent : Int) (c : Cursor) :
    Except Fault (List Char × Cursor) := do
  let (chomping, increment, c) ← blockHeader c
  let c := c.skipWhile isBlank
  let c := if c.rest.head? = some '#' then c.skipWhile (fun d => !isBreak d) else c
  if !atLineEnd c.rest then throw .badBlockHeader
  let c := c.takeBreak.2
  let known := increment.map fun n => (if parent ≥ 0 then parent.toNat else 0) + n
  let (deepest, breaks, c) ← blockGap known (c.rest.length + 1) c 0 []
  let indent := known.getD (max (max deepest (parent + 1).toNat) 1)
  let (b, c) ← blockLines literal indent (c.rest.length + 1) c ⟨[], [], breaks, false⟩
  let text := match chomping with
    | .strip => b.text
    | .clip => b.ending.reverse ++ b.text
    | .keep => b.breaks ++ (b.ending.reverse ++ b.text)
  return (text.reverse, c)

end PolicyScan.Yaml
