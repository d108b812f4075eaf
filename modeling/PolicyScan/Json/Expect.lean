import PolicyScan.Json.Reader
import PolicyScan.Text.Quoted

/-!
# Reading values of a known kind

Readers for a text, a list, one of several names, and nothing.  When a value
of another kind stands in its place, the fault names what was found: a scalar
is read to its end first, and a collection is named at its opening bracket.
-/

namespace PolicyScan.Json

/-- A number as a fault names it. -/
def describeNumber : Number → String
  | .int value _ => "integer `" ++ toString value ++ "`"
  | .float value => "floating point `" ++ value.plainText true ++ "`"

/-- The fault of finding the value at `s` where `expected` should stand. -/
def mismatch (expected : String) (s : List Char) : Fault :=
  let found (what : String) (rest : List Char) : Fault :=
    .here (.wrongType what expected) rest
  let afterWord (what : String) (rest : Except Fault (List Char)) : Fault :=
    match rest with
    | .ok rest => found what rest
    | .error fault => fault
  let afterNumber (n : Read Number) : Fault :=
    match n with
    | .ok (n, rest) => found (describeNumber n) rest
    | .error fault => fault
  match dropBlanks s with
  | [] => .here .eofInValue []
  | 'n' :: rest => afterWord "null" (word ['u', 'l', 'l'] rest)
  | 't' :: rest => afterWord "boolean `true`" (word ['r', 'u', 'e'] rest)
  | 'f' :: rest => afterWord "boolean `false`" (word ['a', 'l', 's', 'e'] rest)
  | '-' :: rest => afterNumber (number true rest)
  | '"' :: rest =>
    match string rest with
    | .ok (text, rest) => found ("string " ++ Text.quoted text) rest
    | .error fault => fault
  | '[' :: rest => found "sequence" ('[' :: rest)
  | '\x7b' :: rest => found "map" ('\x7b' :: rest)
  | c :: rest =>
    if isDigit c then afterNumber (number false (c :: rest))
    else .next .expectedValue (c :: rest)

/-- A text. -/
def textValue (s : List Char) : Read String :=
  match dropBlanks s with
  | '"' :: rest => string rest
  | rest => .error (mismatch "a string" rest)

/-- A list whose items are read by `item`. -/
def listValue {α : Type} (item : List Char → Read α) (s : List Char) : Read (List α) :=
  match dropBlanks s with
  | '[' :: rest => itemsWith item s true rest []
  | rest => .error (mismatch "a sequence" rest)

/-- Nothing, written as null. -/
def nullValue (s : List Char) : Except Fault (List Char) :=
  match dropBlanks s with
  | 'n' :: rest => word ['u', 'l', 'l'] rest
  | rest => .error (mismatch "unit" rest)

/-- Names to choose from, in words. -/
def alternatives : List String → String
  | [name] => "`" ++ name ++ "`"
  | [a, b] => "`" ++ a ++ "` or `" ++ b ++ "`"
  | names => "one of " ++ ", ".intercalate (names.map fun name => "`" ++ name ++ "`")

/-- The value of a name that has been read, with `rest` after it. -/
def chosen {α : Type} (options : List (String × α)) (name : String) (rest : List Char) :
    Except Fault α :=
  match options.lookup name with
  | some value => .ok value
  | none => .error (.here (.unknownVariant name (alternatives (options.map Prod.fst))) rest)

/-- One of several names, written as a text or as an object whose one field has
the name and holds null. -/
def choice {α : Type} (options : List (String × α)) (s : List Char) :
    Except Fault (α × List Char) :=
  match dropBlanks s with
  | [] => .error (.here .eofInValue [])
  | '"' :: rest => do
    let (name, rest) ← string rest
    return (← chosen options name rest, rest)
  | '\x7b' :: rest => do
    let (name, rest) ← match dropBlanks rest with
      | '"' :: rest => string rest
      | rest => .error (mismatch "variant identifier" rest)
    let value ← chosen options name rest
    let rest ← nullValue (← colon rest)
    match dropBlanks rest with
    | [] => .error (.here .eofInObject [])
    | '\x7d' :: rest => return (value, rest)
    | rest => .error (.here .expectedValue rest)
  | c :: rest => .error (.next .expectedValue (c :: rest))

end PolicyScan.Json
