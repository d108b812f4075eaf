import PolicyScan.Json.Reader
import PolicyScan.Toml.Value

/-!
# Keys, strings and gaps of TOML

Lines end with a line feed, with or without a carriage return before it.  No
other control character but the tab may stand anywhere, comments and strings
included.
-/

namespace PolicyScan.Toml

/-! ## Gaps -/

/-- A character that may stand in comments and strings. -/
def isPlain (c : Char) : Bool := c = '\t' || (0x20 ≤ c.toNat && c.toNat ≠ 0x7f)

/-- The text after blanks. -/
def skipBlanks (s : List Char) : List Char := s.dropWhile fun c => c = ' ' || c = '\t'

/-- The text after blanks and a comment. -/
def skipComment (s : List Char) : List Char :=
  match skipBlanks s with
  | '#' :: rest => rest.dropWhile isPlain
  | rest => rest

/-- The text after a line end. -/
def lineEnd? : List Char → Option (List Char)
  | '\n' :: rest => some rest
  | '\r' :: '\n' :: rest => some rest
  | _ => none

/-- The text after blanks, comments and line ends. -/
def skipLinesWithin : Nat → List Char → List Char
  | 0, s => s
  | fuel + 1, s =>
    let s := skipComment s
    match lineEnd? s with
    | some rest => skipLinesWithin fuel rest
    | none => s

/-- The text after blanks, comments and line ends. -/
def skipLines (s : List Char) : List Char := skipLinesWithin (s.length + 1) s

/-- Pass a character. -/
def expect (c : Char) : List Char → Except Fault (List Char)
  | d :: rest => if c = d then .ok rest else .error (.expected ("`" ++ c.toString ++ "`"))
  | [] => .error (.expected ("`" ++ c.toString ++ "`"))

/-! ## Strings -/

/-- The value of `n` hexadecimal digits. -/
def hexDigits : Nat → Nat → List Char → Except Fault (Nat × List Char)
  | 0, value, s => .ok (value, s)
  | n + 1, value, s =>
    match s with
    | c :: rest =>
      match Json.hexValue? c with
      | some digit => hexDigits n (value * 16 + digit) rest
      | none => .error .escape
    | [] => .error .escape

/-- A character given by `n` hexadecimal digits. -/
def hexCharacter (n : Nat) (s : List Char) : Except Fault (Char × List Char) := do
  let (code, rest) ← hexDigits n 0 s
  if code.isValidChar then .ok (Char.ofNat code, rest) else .error .escape

/-- The character of an escape, from after the backslash. -/
def escaped (s : List Char) : Except Fault (Char × List Char) :=
  match s with
  | 'b' :: rest => .ok ('\x08', rest)
  | 't' :: rest => .ok ('\t', rest)
  | 'n' :: rest => .ok ('\n', rest)
  | 'f' :: rest => .ok ('\x0c', rest)
  | 'r' :: rest => .ok ('\r', rest)
  | 'e' :: rest => .ok ('\x1b', rest)
  | '"' :: rest => .ok ('"', rest)
  | '\\' :: rest => .ok ('\\', rest)
  | 'x' :: rest => hexCharacter 2 rest
  | 'u' :: rest => hexCharacter 4 rest
  | 'U' :: rest => hexCharacter 8 rest
  | _ => .error .escape

/-- The quote of a string, and whether backslashes escape in it. -/
inductive Quote where
  | double
  | single
deriving DecidableEq, Repr

/-- The character of a quote. -/
def Quote.char : Quote → Char
  | .double => '"'
  | .single => '\''

/-- The characters of a string on one line, from after its quote. -/
def lineString (q : Quote) : Nat → List Char → List Char → Except Fault (List Char × List Char)
  | 0, _, _ => .error (.expected "end of string")
  | fuel + 1, acc, s =>
    match s with
    | [] => .error (.expected "end of string")
    | c :: rest =>
      if c = q.char then .ok (acc.reverse, rest)
      else if c = '\\' && q = .double then do
        let (d, rest) ← escaped rest
        lineString q fuel (d :: acc) rest
      else if isPlain c then lineString q fuel (c :: acc) rest
      else .error (.expected "end of string")

/-- The text after the line end that a backslash hides, with all blanks and
line ends behind it. -/
def hiddenLineEnd? (s : List Char) : Option (List Char) :=
  (lineEnd? (skipBlanks s)).map fun rest =>
    rest.dropWhile fun c => c = ' ' || c = '\t' || c = '\n' || c = '\r'

/-- The characters of a string over several lines, from after its three quotes.
Up to two further quotes may stand before the closing three. -/
def linesString (q : Quote) : Nat → List Char → List Char → Except Fault (List Char × List Char)
  | 0, _, _ => .error (.expected "end of string")
  | fuel + 1, acc, s =>
    match lineEnd? s, s with
    | some rest, _ => linesString q fuel ('\n' :: acc) rest
    | none, [] => .error (.expected "end of string")
    | none, c :: rest =>
      if c = q.char then
        let quotes := (s.takeWhile (· = c)).length
        if quotes < 3 then linesString q fuel (c :: acc) rest
        else
          let extra := min quotes 5 - 3
          .ok (acc.reverse ++ List.replicate extra c, s.drop (extra + 3))
      else if c = '\\' && q = .double then
        match hiddenLineEnd? rest with
        | some rest => linesString q fuel acc rest
        | none => do
          let (d, rest) ← escaped rest
          linesString q fuel (d :: acc) rest
      else if isPlain c then linesString q fuel (c :: acc) rest
      else .error (.expected "end of string")

/-- The text without a line end in front. -/
def dropLineEnd (s : List Char) : List Char := (lineEnd? s).getD s

/-- A string of either form, from after its first quote. -/
def string (q : Quote) (s : List Char) : Except Fault (String × List Char) := do
  let (text, rest) ← match s with
    | a :: b :: rest =>
      if a = q.char && b = q.char then linesString q (s.length + 1) [] (dropLineEnd rest)
      else lineString q (s.length + 1) [] s
    | s => lineString q (s.length + 1) [] s
  .ok (String.ofList text, rest)

/-! ## Keys -/

/-- A character of a key without quotes. -/
def isBare (c : Char) : Bool := c.isAlphanum || c = '_' || c = '-'

/-- One part of a key. -/
def keyPart (s : List Char) : Except Fault (String × List Char) :=
  match s with
  | '"' :: rest =>
    (lineString .double (s.length + 1) [] rest).map fun (t, rest) => (String.ofList t, rest)
  | '\'' :: rest =>
    (lineString .single (s.length + 1) [] rest).map fun (t, rest) => (String.ofList t, rest)
  | s =>
    match s.span isBare with
    | ([], _) => .error (.expected "key")
    | (name, rest) => .ok (String.ofList name, rest)

/-- The parts of a key after the first one. -/
def keyPartsWithin : Nat → List String → List Char → Except Fault (List String × List Char)
  | 0, acc, s => .ok (acc.reverse, s)
  | fuel + 1, acc, s =>
    match skipBlanks s with
    | '.' :: rest => do
      let (part, rest) ← keyPart (skipBlanks rest)
      keyPartsWithin fuel (part :: acc) rest
    | rest => .ok (acc.reverse, rest)

/-- A key with its parts between dots, and the blanks after it. -/
def key (s : List Char) : Except Fault (List String × List Char) := do
  let (first, s) ← keyPart s
  keyPartsWithin (s.length + 1) [first] s

end PolicyScan.Toml
