import PolicyScan.Json.Basic
import PolicyScan.Text.Position

/-!
# Reading JSON text

A reader takes the characters that are left and returns what it read with the
characters after it, or a fault.  A fault says what is wrong and where: the
characters that were left there, and how many bytes of them the report counts
as read.  The same readers serve `value`, which builds a value, `skip`, which
passes over one, and the typed readers of other modules.

A reader that goes on until it meets a closing sign takes the text it starts at
as a bound: every step uses up a character of the text, so the bound never runs
out before the text does.

Nested arrays and objects may go `nestingLimit - 1` deep in `value`; `skip` has
no limit.
-/

namespace PolicyScan.Json

/-- What is wrong with a text. -/
inductive Cause where
  | eofInList
  | eofInObject
  | eofInString
  | eofInValue
  | expectedColon
  | expectedListCommaOrEnd
  | expectedObjectCommaOrEnd
  | expectedWord
  | expectedValue
  | invalidEscape
  | invalidNumber
  | numberOutOfRange
  | controlCharacter
  | keyMustBeString
  | loneSurrogate
  | trailingComma
  | trailingCharacters
  | endOfHexEscape
  | nestedTooDeep
  /-- A value of another kind than the reader wants. -/
  | wrongType (found expected : String)
  /-- A name that is none of the known ones. -/
  | unknownVariant (name expected : String)
  /-- A field that was given before. -/
  | duplicateField (name : String)
deriving DecidableEq, Repr

/-- The cause in words. -/
def Cause.message : Cause → String
  | .eofInList => "EOF while parsing a list"
  | .eofInObject => "EOF while parsing an object"
  | .eofInString => "EOF while parsing a string"
  | .eofInValue => "EOF while parsing a value"
  | .expectedColon => "expected `:`"
  | .expectedListCommaOrEnd => "expected `,` or `]`"
  | .expectedObjectCommaOrEnd => "expected `,` or `\x7d`"
  | .expectedWord => "expected ident"
  | .expectedValue => "expected value"
  | .invalidEscape => "invalid escape"
  | .invalidNumber => "invalid number"
  | .numberOutOfRange => "number out of range"
  | .controlCharacter => "control character (\\u0000-\\u001F) found while parsing a string"
  | .keyMustBeString => "key must be a string"
  | .loneSurrogate => "lone leading surrogate in hex escape"
  | .trailingComma => "trailing comma"
  | .trailingCharacters => "trailing characters"
  | .endOfHexEscape => "unexpected end of hex escape"
  | .nestedTooDeep => "recursion limit exceeded"
  | .wrongType found expected => "invalid type: " ++ found ++ ", expected " ++ expected
  | .unknownVariant name expected => "unknown variant `" ++ name ++ "`, expected " ++ expected
  | .duplicateField name => "duplicate field `" ++ name ++ "`"

/-- A cause and the place it is reported at: `ahead` bytes into `rest`. -/
structure Fault where
  cause : Cause
  rest : List Char
  ahead : Nat
deriving DecidableEq, Repr

/-- A fault at the next character, not counting it. -/
def Fault.here (cause : Cause) (rest : List Char) : Fault := ⟨cause, rest, 0⟩

/-- A fault that counts the next byte as read. -/
def Fault.next (cause : Cause) (rest : List Char) : Fault := ⟨cause, rest, 1⟩

/-- The position of a fault of reading `text`. -/
def Fault.position (fault : Fault) (text : List Char) : Position :=
  .after (utf8Length text - utf8Length fault.rest + fault.ahead) text

/-- The report of a fault of reading `text`. -/
def Fault.report (fault : Fault) (text : List Char) : String :=
  let place := fault.position text
  fault.cause.message ++ " at line " ++ toString place.line ++ " column " ++ toString place.column

/-- The outcome of a reader: what was read and the characters after it. -/
abbrev Read (α : Type) := Except Fault (α × List Char)

/-- The four blanks between the tokens of a text. -/
def isBlank (c : Char) : Bool := c = ' ' || c = '\n' || c = '\t' || c = '\r'

/-- The text after its leading blanks. -/
def dropBlanks (s : List Char) : List Char := s.dropWhile isBlank

/-! ## Words and strings -/

/-- The rest of a word whose first character has been read. -/
def word : List Char → List Char → Except Fault (List Char)
  | [], s => .ok s
  | _ :: _, [] => .error (.here .eofInValue [])
  | w :: ws, c :: s => if c = w then word ws s else .error (.next .expectedWord (c :: s))

/-- The value of a hexadecimal digit. -/
def hexValue? (c : Char) : Option Nat :=
  if '0' ≤ c ∧ c ≤ '9' then some (c.toNat - 48)
  else if 'a' ≤ c ∧ c ≤ 'f' then some (c.toNat - 87)
  else if 'A' ≤ c ∧ c ≤ 'F' then some (c.toNat - 55)
  else none

/-- The four digits of a hexadecimal escape. -/
def hexEscape (s : List Char) : Read Nat :=
  match s with
  | a :: b :: c :: d :: rest =>
    match hexValue? a, hexValue? b, hexValue? c, hexValue? d with
    | some a, some b, some c, some d => .ok (((a * 16 + b) * 16 + c) * 16 + d, rest)
    | _, _, _, _ => .error ⟨.invalidEscape, s, 4⟩
  | _ =>
    if utf8Length s < 4 then .error (.here .eofInString [])
    else .error ⟨.invalidEscape, s, 4⟩

/-- The escape after `\u`, with its second half when the first is a leading
surrogate. -/
def unicodeEscape (s : List Char) : Except Fault (Char × List Char) := do
  let (n, rest) ← hexEscape s
  if 0xDC00 ≤ n ∧ n ≤ 0xDFFF then .error (.here .loneSurrogate rest)
  else if n < 0xD800 ∨ 0xDBFF < n then .ok (Char.ofNat n, rest)
  else match rest with
    | [] => .error (.here .eofInString [])
    | '\\' :: 'u' :: rest =>
      let (m, rest) ← hexEscape rest
      if m < 0xDC00 ∨ 0xDFFF < m then .error (.here .loneSurrogate rest)
      else .ok (Char.ofNat ((n - 0xD800) * 0x400 + (m - 0xDC00) + 0x10000), rest)
    | ['\\'] => .error (.here .eofInString [])
    | '\\' :: rest => .error (.next .endOfHexEscape rest)
    | rest => .error (.next .endOfHexEscape rest)

/-- The character that a one-letter escape stands for. -/
def shortEscape? : Char → Option Char
  | '"' => some '"'
  | '\\' => some '\\'
  | '/' => some '/'
  | 'b' => some '\x08'
  | 'f' => some '\x0c'
  | 'n' => some '\n'
  | 'r' => some '\r'
  | 't' => some '\t'
  | _ => none

/-- One character of a string, plain or escaped; none at the closing quote. -/
def stringChar (s : List Char) : Read (Option Char) :=
  match s with
  | [] => .error (.here .eofInString [])
  | '"' :: rest => .ok (none, rest)
  | ['\\'] => .error (.here .eofInString [])
  | '\\' :: 'u' :: rest => (unicodeEscape rest).map fun (c, rest) => (some c, rest)
  | '\\' :: e :: rest =>
    match shortEscape? e with
    | some c => .ok (some c, rest)
    | none => .error (.next .invalidEscape (e :: rest))
  | c :: rest =>
    if c.toNat < 0x20 then .error (.next .controlCharacter (c :: rest)) else .ok (some c, rest)

/-- The characters of a string up to its closing quote. -/
def stringChars : (bound : List Char) → List Char → List Char →
    Except Fault (List Char × List Char)
  | [], s, _ => .error (.here .eofInString s)
  | _ :: bound, s, acc => do
    match ← stringChar s with
    | (none, rest) => .ok (acc.reverse, rest)
    | (some c, rest) => stringChars bound rest (c :: acc)

/-- A string whose opening quote has been read. -/
def string (s : List Char) : Read String :=
  (stringChars s s []).map fun (text, rest) => (String.ofList text, rest)

/-! ## Numbers -/

/-- A decimal digit. -/
def isDigit (c : Char) : Bool := '0' ≤ c && c ≤ '9'

/-- The digits at the front of a text, and what follows. -/
def digits (s : List Char) : List Char × List Char := s.span isDigit

/-- The number that a row of decimal digits writes. -/
def decimalValue (ds : List Char) : Nat := ds.foldl (fun n d => n * 10 + (d.toNat - 48)) 0

/-- The power of ten `10 ^ k` as a binary64 value, for `k` up to 308. -/
def powerOfTen (k : Nat) : Binary64 := (Binary64.ofDecimal false 1 k).getD .zero

/-- A 64-bit significand times a power of ten: the significand is rounded
first, then multiplied or divided by powers of ten up to `10 ^ 308`, rounding
each time. -/
def scaled (negative : Bool) (significand : Nat) (e : Int) : Option Binary64 :=
  let start := (Binary64.ofNat? significand).getD .zero
  let magnitude :=
    if significand = 0 then some Binary64.zero
    else if e > 308 then none
    else if e ≥ 0 then start.mul? (powerOfTen e.toNat)
    else descend 4 start (-e).toNat
  magnitude.map fun x => if negative then x.neg else x
where
  /-- Divide by `10 ^ k`, at most `10 ^ 308` at a time. -/
  descend : Nat → Binary64 → Nat → Option Binary64
    | 0, _, _ => some .zero
    | fuel + 1, x, k =>
      if x.significand = 0 then some x
      else if k ≤ 308 then x.div? (powerOfTen k)
      else (x.div? (powerOfTen 308)).bind fun y => descend fuel y (k - 308)

/-- The sign of an exponent, negative or not, and what follows it. -/
def exponentSign : List Char → Bool × List Char
  | '+' :: s => (false, s)
  | '-' :: s => (true, s)
  | s => (false, s)

/-- The digits of an exponent as a number, as far as it stays below `2 ^ 31`.
The flag tells whether a digit went beyond; the rest starts after that digit. -/
def exponentDigits (n : Nat) : List Char → Nat × Bool × List Char
  | [] => (n, false, [])
  | c :: s =>
    if isDigit c then
      let next := n * 10 + (c.toNat - 48)
      if next < 0x80000000 then exponentDigits next s else (n, true, s)
    else (n, false, c :: s)

/-- Take fraction digits into the significand while it fits 64 bits. -/
def absorb (significand : Nat) (taken : Nat) : List Char → Nat × Nat
  | [] => (significand, taken)
  | d :: ds =>
    let next := significand * 10 + (d.toNat - 48)
    if next < 0x10000000000000000 then absorb next (taken + 1) ds else (significand, taken)

/-- A binary64 number whose parts have been read. -/
def finish (negative : Bool) (significand : Nat) (e : Int) (rest : List Char) : Read Number :=
  match scaled negative significand e with
  | some x => .ok (.float x, rest)
  | none => .error (.here .numberOutOfRange rest)

/-- A binary64 number whose exponent is still to be read, from after the letter
in front of it. -/
def withExponent (negative : Bool) (significand : Nat) (base : Int) (s : List Char) :
    Read Number :=
  let (down, s) := exponentSign s
  match s with
  | [] => .error (.here .eofInValue [])
  | c :: _ =>
    if !isDigit c then .error (.next .invalidNumber s)
    else match exponentDigits 0 s with
      | (n, false, rest) =>
        finish negative significand (if down then base - n else base + n) rest
      | (_, true, rest) =>
        if significand ≠ 0 && !down then .error (.here .numberOutOfRange rest)
        else finish negative 0 0 (digits rest).2

/-- Whether a fraction or an exponent follows. -/
def startsFraction : List Char → Bool
  | '.' :: _ => true
  | 'e' :: _ => true
  | 'E' :: _ => true
  | _ => false

/-- What follows the whole part of a number that has a fraction or an exponent,
or whose whole part has dropped digits. -/
def fractional (negative : Bool) (significand : Nat) (dropped : Nat) (s : List Char) :
    Read Number :=
  match s with
  | '.' :: s =>
    let (ds, rest) := digits s
    match ds, rest with
    | [], [] => .error (.here .eofInValue [])
    | [], rest => .error (.next .invalidNumber rest)
    | ds, rest =>
      let (significand, taken) := absorb significand 0 ds
      let base : Int := dropped - taken
      match rest with
      | 'e' :: rest => withExponent negative significand base rest
      | 'E' :: rest => withExponent negative significand base rest
      | rest => finish negative significand base rest
  | 'e' :: s => withExponent negative significand dropped s
  | 'E' :: s => withExponent negative significand dropped s
  | s => finish negative significand dropped s

/-- A number from its first digit on. -/
def number (negative : Bool) (s : List Char) : Read Number :=
  match s with
  | [] => .error (.here .eofInValue [])
  | '0' :: d :: rest =>
    if isDigit d then .error (.next .invalidNumber (d :: rest))
    else afterWhole ['0'] (d :: rest)
  | c :: _ =>
    if isDigit c then
      let (ds, rest) := digits s
      afterWhole ds rest
    else .error (.next .invalidNumber s)
where
  /-- The rest of a number with the given whole digits. -/
  afterWhole (ds rest : List Char) : Read Number :=
    let (significand, taken) := absorb 0 0 ds
    let dropped := ds.length - taken
    if startsFraction rest || dropped > 0 then fractional negative significand dropped rest
    else
      let value : Int := if negative then -(significand : Int) else significand
      if negative && significand = 0 then finish true 0 0 rest
      else match Number.ofInt? value with
        | some n => .ok (n, rest)
        | none => finish negative significand 0 rest

/-! ## Collections -/

/-- Items of an array up to and with its closing bracket, each read by `item`.
`first` tells whether no item has been read yet. -/
def itemsWith {α : Type} (item : List Char → Read α) :
    (bound : List Char) → Bool → List Char → List α → Read (List α)
  | [], _, s, _ => .error (.here .eofInList s)
  | _ :: bound, first, s, acc =>
    match dropBlanks s with
    | [] => .error (.here .eofInList [])
    | ']' :: rest => .ok (acc.reverse, rest)
    | c :: rest =>
      if first then next bound (c :: rest) acc
      else if c = ',' then
        match dropBlanks rest with
        | [] => .error (.here .eofInValue [])
        | ']' :: rest => .error (.next .trailingComma (']' :: rest))
        | rest => next bound rest acc
      else .error (.next .expectedListCommaOrEnd (c :: rest))
where
  /-- One more item, and then the others. -/
  next (bound s : List Char) (acc : List α) : Except Fault (List α × List Char) := do
    let (x, rest) ← item s
    itemsWith item bound false rest (x :: acc)

/-- The key of the next field, with its opening quote read, or none at the
closing bracket. -/
def keyStart (first : Bool) (s : List Char) : Read Bool :=
  match dropBlanks s with
  | [] => .error (.here .eofInObject [])
  | '\x7d' :: rest => .ok (false, rest)
  | c :: rest =>
    if first then
      if c = '"' then .ok (true, rest) else .error (.next .keyMustBeString (c :: rest))
    else if c = ',' then
      match dropBlanks rest with
      | [] => .error (.here .eofInValue [])
      | '"' :: rest => .ok (true, rest)
      | '\x7d' :: rest => .error (.next .trailingComma ('\x7d' :: rest))
      | rest => .error (.next .keyMustBeString rest)
    else .error (.next .expectedObjectCommaOrEnd (c :: rest))

/-- The colon between a key and its value. -/
def colon (s : List Char) : Except Fault (List Char) :=
  match dropBlanks s with
  | [] => .error (.here .eofInObject [])
  | ':' :: rest => .ok rest
  | rest => .error (.next .expectedColon rest)

/-- Fields of an object up to and with its closing bracket. -/
def fieldsWith {α : Type} (item : List Char → Read α) :
    (bound : List Char) → Bool → List Char → List (String × α) →
      Except Fault (List (String × α) × List Char)
  | [], _, s, _ => .error (.here .eofInObject s)
  | _ :: bound, first, s, acc => do
    match ← keyStart first s with
    | (false, rest) => .ok (acc.reverse, rest)
    | (true, rest) =>
      let (key, rest) ← string rest
      let rest ← colon rest
      let (x, rest) ← item rest
      fieldsWith item bound false rest ((key, x) :: acc)

/-- The number of collections that may be nested, plus one. -/
def nestingLimit : Nat := 128

/-- A value nested in fewer than `depth` further collections. -/
def valueWithin : Nat → List Char → Read Json
  | depth, s =>
    match dropBlanks s with
    | [] => .error (.here .eofInValue [])
    | 'n' :: rest => (word ['u', 'l', 'l'] rest).map ((Json.null, ·))
    | 't' :: rest => (word ['r', 'u', 'e'] rest).map ((Json.bool true, ·))
    | 'f' :: rest => (word ['a', 'l', 's', 'e'] rest).map ((Json.bool false, ·))
    | '"' :: rest => (string rest).map fun (text, rest) => (.str text, rest)
    | '-' :: rest => (number true rest).map fun (n, rest) => (.num n, rest)
    | '[' :: rest =>
      match depth with
      | 0 => .error (.next .nestedTooDeep ('[' :: rest))
      | depth + 1 =>
        (itemsWith (valueWithin depth) s true rest []).map
          fun (items, rest) => (.arr items, rest)
    | '\x7b' :: rest =>
      match depth with
      | 0 => .error (.next .nestedTooDeep ('\x7b' :: rest))
      | depth + 1 =>
        (fieldsWith (valueWithin depth) s true rest []).map
          fun (fields, rest) => (.ofFields fields, rest)
    | c :: rest =>
      if isDigit c then (number false (c :: rest)).map fun (n, rest) => (.num n, rest)
      else .error (.next .expectedValue (c :: rest))

/-- Require that only blanks are left. -/
def atEnd (s : List Char) : Except Fault Unit :=
  match dropBlanks s with
  | [] => .ok ()
  | rest => .error (.next .trailingCharacters rest)

/-- A text that is one value read by `reader`, blanks around it aside. -/
def wholly {α : Type} (reader : List Char → Read α) (text : List Char) : Except Fault α := do
  let (x, rest) ← reader text
  atEnd rest
  return x

/-- Read a text as one JSON value. -/
def ofChars? (text : List Char) : Except Fault Json :=
  wholly (valueWithin (nestingLimit - 1)) text

/-- Read a text as one JSON value, the fault in words. -/
def parse (text : String) : Except String Json :=
  (ofChars? text.toList).mapError (·.report text.toList)

/-! ## Passing over a value -/

/-- The rest after one or more digits. -/
def skipDigits (s : List Char) : Except Fault (List Char) :=
  match digits s with
  | ([], rest) => .error (.next .invalidNumber rest)
  | (_, rest) => .ok rest

/-- The rest after the exponent of a number, if it has one. -/
def skipExponent (s : List Char) : Except Fault (List Char) :=
  match s with
  | 'e' :: s => skipDigits (exponentSign s).2
  | 'E' :: s => skipDigits (exponentSign s).2
  | s => .ok s

/-- The rest after a number that is not kept. -/
def skipNumber (s : List Char) : Except Fault (List Char) := do
  let rest ← match s with
    | '0' :: d :: rest =>
      if isDigit d then .error (.next .invalidNumber (d :: rest)) else .ok (d :: rest)
    | s => skipDigits s
  match rest with
  | '.' :: rest => skipExponent (← skipDigits rest)
  | rest => skipExponent rest

/-- The rest after a string that is not kept, its opening quote read.  Halves of
surrogate pairs pass. -/
def skipString : (bound : List Char) → List Char → Except Fault (List Char)
  | [], s => .error (.here .eofInString s)
  | _, [] => .error (.here .eofInString [])
  | _, '"' :: rest => .ok rest
  | _, ['\\'] => .error (.here .eofInString [])
  | _ :: bound, '\\' :: 'u' :: rest => do
    let (_, rest) ← hexEscape rest
    skipString bound rest
  | _ :: bound, '\\' :: e :: rest =>
    match shortEscape? e with
    | some _ => skipString bound rest
    | none => .error (.next .invalidEscape (e :: rest))
  | _ :: bound, c :: rest =>
    if c.toNat < 0x20 then .error (.here .controlCharacter (c :: rest)) else skipString bound rest

/-- The kind of collection that is open. -/
inductive Frame where
  | list
  | object
deriving DecidableEq

/-- The start of the next value inside an open collection: for an object, after
its key and colon. -/
def enter (frame : Frame) (s : List Char) : Except Fault (List Char) :=
  match frame with
  | .list => .ok s
  | .object => do
    let rest ← match dropBlanks s with
      | [] => .error (.here .eofInObject [])
      | '"' :: rest => .ok rest
      | rest => .error (.next .keyMustBeString rest)
    let rest ← skipString rest rest
    colon rest

/-- After a value, or after an opening bracket when `after` is false: close
collections and pass a comma.  None when nothing is left open. -/
def leave : Bool → List Frame → List Char → Read (Option (List Frame))
  | _, [], s => .ok (none, s)
  | after, frame :: outer, s =>
    match frame, dropBlanks s with
    | .list, [] => .error (.here .eofInList [])
    | .object, [] => .error (.here .eofInObject [])
    | .list, ']' :: rest => leave true outer rest
    | .object, '\x7d' :: rest => leave true outer rest
    | frame, c :: rest =>
      if after then
        if c = ',' then .ok (some (frame :: outer), rest)
        else
          let cause := match frame with
            | .list => Cause.expectedListCommaOrEnd
            | .object => Cause.expectedObjectCommaOrEnd
          .error (.next cause (c :: rest))
      else .ok (some (frame :: outer), c :: rest)

/-- Pass over a value inside the open collections, and over the rest of them. -/
def skipWithin : (bound : List Char) → List Frame → List Char → Except Fault (List Char)
  | [], _, s => .error (.here .eofInValue s)
  | _ :: bound, frames, s => do
    let (opened, rest) ← match dropBlanks s with
      | [] => .error (.here .eofInValue [])
      | 'n' :: rest => (word ['u', 'l', 'l'] rest).map ((none, ·))
      | 't' :: rest => (word ['r', 'u', 'e'] rest).map ((none, ·))
      | 'f' :: rest => (word ['a', 'l', 's', 'e'] rest).map ((none, ·))
      | '-' :: rest => (skipNumber rest).map ((none, ·))
      | '"' :: rest => (skipString rest rest).map ((none, ·))
      | '[' :: rest => .ok (some Frame.list, rest)
      | '\x7b' :: rest => .ok (some Frame.object, rest)
      | c :: rest =>
        if isDigit c then (skipNumber (c :: rest)).map ((none, ·))
        else .error (.next .expectedValue (c :: rest))
    let left ← match opened with
      | some frame => leave false (frame :: frames) rest
      | none => leave true frames rest
    match left with
    | (none, rest) => .ok rest
    | (some [], rest) => .ok rest
    | (some (frame :: outer), rest) => skipWithin bound (frame :: outer) (← enter frame rest)

/-- Pass over one value of any kind and any depth. -/
def skip (s : List Char) : Except Fault (List Char) := skipWithin s [] s

end PolicyScan.Json
