/-!
# A place in a YAML text

The characters that are left together with the number of characters, lines and
columns before them.  Five characters end a line, and a carriage return with a
line feed counts as one of them.
-/

namespace PolicyScan.Yaml

/-- A character that a YAML text may hold. -/
def isAllowed (c : Char) : Bool :=
  c = '\t' || c = '\n' || c = '\r' || ('\x20' ≤ c && c ≤ '\x7e') || c = '\x85'
    || ('\xa0' ≤ c && c ≤ '\ufffd') || 0x10000 ≤ c.toNat

/-- A character that ends a line. -/
def isBreak (c : Char) : Bool :=
  c = '\n' || c = '\r' || c = '\x85' || c = '\u2028' || c = '\u2029'

/-- A space or a tab. -/
def isBlank (c : Char) : Bool := c = ' ' || c = '\t'

/-- Whether a blank, a line end or the end of the text comes next. -/
def atGap : List Char → Bool
  | [] => true
  | c :: _ => isBlank c || isBreak c

/-- Whether a line end or the end of the text comes next. -/
def atLineEnd : List Char → Bool
  | [] => true
  | c :: _ => isBreak c

/-- A letter or digit of a name, a low line or a hyphen. -/
def isNameChar (c : Char) : Bool := c.isAlphanum || c = '_' || c = '-'

/-- A place in a text. -/
structure Cursor where
  /-- The characters that are left. -/
  rest : List Char
  /-- The number of characters before. -/
  index : Nat := 0
  /-- The number of lines before. -/
  line : Nat := 0
  /-- The number of characters before on the same line. -/
  column : Nat := 0
deriving DecidableEq

namespace Cursor

/-- The place after the next character, which ends no line. -/
def next (c : Cursor) : Cursor :=
  match c.rest with
  | [] => c
  | _ :: rest => ⟨rest, c.index + 1, c.line, c.column + 1⟩

/-- The place `n` characters further on the line. -/
def forward : Nat → Cursor → Cursor
  | 0, c => c
  | n + 1, c => forward n c.next

/-- The line end that comes next as a text takes it up, and the place after
it.  Line and paragraph separators stay as they are, the others become a line
feed. -/
def takeBreak (c : Cursor) : List Char × Cursor :=
  match c.rest with
  | '\r' :: '\n' :: rest => (['\n'], ⟨rest, c.index + 2, c.line + 1, 0⟩)
  | d :: rest =>
    let text := if d = '\u2028' ∨ d = '\u2029' then d else '\n'
    ([text], ⟨rest, c.index + 1, c.line + 1, 0⟩)
  | [] => ([], c)

/-- The place after the characters in front that `p` accepts. -/
def skipWhile (p : Char → Bool) (c : Cursor) : Cursor :=
  forward (c.rest.takeWhile p).length c

/-- The characters in front that `p` accepts, and the place after them. -/
def takeWhile (p : Char → Bool) (c : Cursor) : List Char × Cursor :=
  (c.rest.takeWhile p, c.skipWhile p)

/-- Whether the text goes on with three of the character and a gap. -/
def atTriple (mark : Char) (c : Cursor) : Bool :=
  match c.rest with
  | x :: y :: z :: rest => x = mark && y = mark && z = mark && atGap rest
  | _ => false

/-- Whether a line starts here that begins or ends a document. -/
def atDocumentMark (c : Cursor) : Bool :=
  c.column = 0 && (c.atTriple '-' || c.atTriple '.')

end Cursor
end PolicyScan.Yaml
