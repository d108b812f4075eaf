import PolicyScan.Json.Reader
import PolicyScan.Rego.Value

/-!
# Lexemes of Rego

A module is a row of words, numbers, texts and marks.  Between them stand
blanks, line ends and comments, which go; what of them stood before a lexeme is
kept as its gap, for a line end can end a condition, and a step into a value
stands right behind it.

Texts are written in quotes with the escapes of JSON, or in grave accents
without any.  Numbers are written as in JSON.
-/

namespace PolicyScan.Rego

/-- Why a text is not a module. -/
inductive Misread where
  /-- A character that starts nothing. -/
  | character
  | number
  | quotedText
  | expected (what : String)
  /-- A keyword is imported again. -/
  | importedTwice (keyword : String)
  | unknownImport
  | nestedTooDeep
deriving DecidableEq, Repr

/-- What is wrong in words. -/
def Misread.message : Misread → String
  | .character => "unexpected character"
  | .number => "invalid number"
  | .quotedText => "invalid string"
  | .expected what => "expected " ++ what
  | .importedTwice keyword => "`" ++ keyword ++ "` is imported twice"
  | .unknownImport => "unknown import"
  | .nestedTooDeep => "nested too deep"

/-- A smallest part of a text. -/
inductive Token where
  | word (name : String)
  | number (value : Value)
  | text (value : String)
  | mark (sign : String)

/-- What stands before a lexeme. -/
inductive Gap where
  | nothing
  | blanks
  | lineEnd
deriving DecidableEq, Repr

/-- A token and the gap before it. -/
structure Lexeme where
  token : Token
  gap : Gap

/-- The marks that consist of two characters. -/
def longMarks : List String := [":=", "==", "!=", "<=", ">="]

/-- The marks that consist of one character. -/
def shortMarks : List Char :=
  ['\x7b', '\x7d', '[', ']', '(', ')', ':', ';', ',', '.', '+', '-', '*', '/', '%', '&', '|',
    '<', '>', '=']

/-- The mark that comes first, and the text after it. -/
def mark? (s : List Char) : Option (String × List Char) :=
  match longMarks.find? fun m => m.toList.isPrefixOf s, s with
  | some m, _ => some (m, s.drop m.length)
  | none, c :: rest => if c ∈ shortMarks then some (c.toString, rest) else none
  | none, [] => none

/-- A character that starts a word. -/
def startsWord (c : Char) : Bool := c.isAlpha || c = '_'

/-- A character inside of a word. -/
def continuesWord (c : Char) : Bool := startsWord c || Json.isDigit c

/-- The token that comes first, and the text after it. -/
def token (s : List Char) : Except Misread (Token × List Char) :=
  match s with
  | '"' :: rest =>
    match Json.string rest with
    | .ok (text, rest) => .ok (.text text, rest)
    | .error _ => .error .quotedText
  | '\x60' :: rest =>
    match rest.span (· ≠ '\x60') with
    | (text, _ :: rest) => .ok (.text (String.ofList text), rest)
    | (_, []) => .error .quotedText
  | c :: rest =>
    if startsWord c then
      let (tail, rest) := rest.span continuesWord
      .ok (.word (String.ofList (c :: tail)), rest)
    else if Json.isDigit c then
      match Json.number false s with
      | .ok (n, rest) =>
        if rest.head?.any continuesWord then .error .number
        else .ok (.number (.ofJson (.num n)), rest)
      | .error _ => .error .number
    else match mark? s with
      | some (m, rest) => .ok (.mark m, rest)
      | none => .error .character
  | [] => .error .character

/-- The lexemes of a text; `gap` stands before it, and `fuel` bounds its
length. -/
def lexemesWithin : Nat → Gap → List Char → Except Misread (List Lexeme)
  | 0, _, _ => .ok []
  | fuel + 1, gap, s =>
    match s with
    | [] => .ok []
    | '\n' :: rest => lexemesWithin fuel .lineEnd rest
    | '#' :: rest => lexemesWithin fuel gap (rest.dropWhile (· ≠ '\n'))
    | c :: rest =>
      if Json.isBlank c then lexemesWithin fuel (if gap = .lineEnd then gap else .blanks) rest
      else do
        let (first, rest) ← token (c :: rest)
        return ⟨first, gap⟩ :: (← lexemesWithin fuel .nothing rest)

/-- The lexemes of a text. -/
def lexemes (text : String) : Except Misread (List Lexeme) :=
  lexemesWithin (text.length + 1) .lineEnd text.toList

end PolicyScan.Rego
