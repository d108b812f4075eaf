import PolicyScan.Json.Basic

/-!
# JSON text

Two layouts of a value: `compact`, without any blank, and `pretty`, with two
spaces per level and one item a line.  Both write the fields of an object in
the order of the list.  A string is written with the short escapes, with
`\u00xx` for the other control characters, and every other character as it is.
-/

namespace PolicyScan.Json

/-- A digit of a hexadecimal number, lower case. -/
def hexDigit (n : Nat) : Char :=
  if n < 10 then Char.ofNat (48 + n) else Char.ofNat (87 + n)

/-- The characters that stand for `c` inside a string. -/
def escapeChar (c : Char) : List Char :=
  match c with
  | '"' => ['\\', '"']
  | '\\' => ['\\', '\\']
  | '\x08' => ['\\', 'b']
  | '\x0c' => ['\\', 'f']
  | '\n' => ['\\', 'n']
  | '\r' => ['\\', 'r']
  | '\t' => ['\\', 't']
  | c =>
    if c.toNat < 0x20 then
      ['\\', 'u', '0', '0', hexDigit (c.toNat / 16), hexDigit (c.toNat % 16)]
    else [c]

/-- A string with its quotes. -/
def quote (text : List Char) : List Char :=
  '"' :: text.flatMap escapeChar ++ ['"']

/-- Join the parts, with `sep` between neighbours. -/
def joinWith (sep : List Char) : List (List Char) → List Char
  | [] => []
  | [part] => part
  | part :: rest => part ++ sep ++ joinWith sep rest

mutual

/-- The compact text of a value. -/
def compactChars : Json → List Char
  | .null => ['n', 'u', 'l', 'l']
  | .bool true => ['t', 'r', 'u', 'e']
  | .bool false => ['f', 'a', 'l', 's', 'e']
  | .num value => value.text.toList
  | .str text => quote text.toList
  | .arr items => '[' :: joinWith [','] (compactItems items) ++ [']']
  | .obj fields => '\x7b' :: joinWith [','] (compactFields fields) ++ ['\x7d']

/-- The texts of the items. -/
def compactItems : List Json → List (List Char)
  | [] => []
  | item :: rest => compactChars item :: compactItems rest

/-- The texts of the fields. -/
def compactFields : List (String × Json) → List (List Char)
  | [] => []
  | (key, value) :: rest =>
    (quote key.toList ++ ':' :: compactChars value) :: compactFields rest

end

/-- The text without blanks. -/
def compact (value : Json) : String := String.ofList (compactChars value)

/-- A line break followed by `level` steps of two spaces. -/
def newline (level : Nat) : List Char := '\n' :: List.replicate (2 * level) ' '

/-- The lines of a collection between its brackets; an empty one stays on one
line. -/
def bracketed (opening closing : Char) (level : Nat) (parts : List (List Char)) : List Char :=
  match parts with
  | [] => [opening, closing]
  | parts =>
    opening :: newline (level + 1) ++ joinWith (',' :: newline (level + 1)) parts
      ++ newline level ++ [closing]

mutual

/-- The indented text of a value that starts at the given level. -/
def prettyChars (level : Nat) : Json → List Char
  | .arr items => bracketed '[' ']' level (prettyItems (level + 1) items)
  | .obj fields => bracketed '\x7b' '\x7d' level (prettyFields (level + 1) fields)
  | value => compactChars value

/-- The indented texts of the items. -/
def prettyItems (level : Nat) : List Json → List (List Char)
  | [] => []
  | item :: rest => prettyChars level item :: prettyItems level rest

/-- The indented texts of the fields. -/
def prettyFields (level : Nat) : List (String × Json) → List (List Char)
  | [] => []
  | (key, value) :: rest =>
    (quote key.toList ++ ':' :: ' ' :: prettyChars level value) :: prettyFields level rest

end

/-- The text with two spaces per level. -/
def pretty (value : Json) : String := String.ofList (prettyChars 0 value)

end PolicyScan.Json
