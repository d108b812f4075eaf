import PolicyScan.Yaml.Token.Scalar

/-!
# The tokens of a YAML text

The lexer goes through the text once.  It keeps the columns of the open block
collections, and for each open flow collection the token that may turn out to
be a key: only the colon after it decides, and then the key token is put in
front of it.  Such a candidate must be followed by its colon on the same line
and within 1024 characters; a candidate at the column of the open block must
be a key.
-/

namespace PolicyScan.Yaml

/-- A token that may turn out to be a key. -/
structure Candidate where
  /-- It stands where only a key can. -/
  required : Bool
  /-- The number of tokens before it. -/
  place : Nat
  index : Nat
  line : Nat
  column : Nat
deriving DecidableEq

/-- The greatest number of characters of a key. -/
def keyLimit : Nat := 1024

/-- The state of the lexer. -/
structure Lexer where
  cursor : Cursor
  /-- The tokens so far, the last one first. -/
  tokens : List Token := []
  /-- The number of tokens so far. -/
  count : Nat := 0
  /-- The column of the innermost block collection, -1 outside of all. -/
  indent : Int := -1
  /-- The columns of the block collections around it. -/
  indents : List Int := []
  /-- The candidate of the innermost flow collection. -/
  candidate : Option Candidate := none
  /-- The candidates of the block and the flow collections around it. -/
  outer : List (Option Candidate) := []
  /-- Whether a candidate may start here. -/
  keyAllowed : Bool := true

namespace Lexer

/-- Whether a flow collection is open. -/
def inFlow (s : Lexer) : Bool := !s.outer.isEmpty

/-- Append a token. -/
def push (t : Token) (s : Lexer) : Lexer :=
  { s with tokens := t :: s.tokens, count := s.count + 1 }

/-- Put a token in front of the one with `place` tokens before it. -/
def insertAt (place : Nat) (t : Token) (s : Lexer) : Lexer :=
  let (later, earlier) := s.tokens.splitAt (s.count - place)
  { s with tokens := later ++ t :: earlier, count := s.count + 1 }

/-- Move to another place. -/
def goTo (c : Cursor) (s : Lexer) : Lexer := { s with cursor := c }

/-- Append a token of `n` characters. -/
def take (n : Nat) (t : Token) (s : Lexer) : Lexer :=
  (s.goTo (s.cursor.forward n)).push t

/-- Say whether a candidate may start from here on. -/
def allowKey (allowed : Bool) (s : Lexer) : Lexer := { s with keyAllowed := allowed }

/-! ## Candidates for keys -/

/-- Give up the candidate, which must not be a required one. -/
def dropCandidate (s : Lexer) : Except Fault Lexer :=
  if s.candidate.any (·.required) then .error .keyWithoutColon
  else .ok { s with candidate := none }

/-- Make the next token the candidate, if one may start here. -/
def saveCandidate (s : Lexer) : Except Fault Lexer :=
  if s.keyAllowed then do
    let c := s.cursor
    let required := !s.inFlow && s.indent = c.column
    let s ← s.dropCandidate
    return { s with candidate := some ⟨required, s.count, c.index, c.line, c.column⟩ }
  else .ok s

/-- The candidate, if its colon may still follow here. -/
def liveCandidate? (s : Lexer) : Except Fault (Option Candidate) :=
  match s.candidate with
  | none => .ok none
  | some k =>
    if k.line < s.cursor.line ∨ k.index + keyLimit < s.cursor.index then
      if k.required then .error .keyWithoutColon else .ok none
    else .ok (some k)

/-! ## Indentation -/

/-- Open a block collection at a column to the right of the innermost one; its
token stands before the one at `place`. -/
def openBlock (column : Nat) (place : Nat) (t : Token) (s : Lexer) : Lexer :=
  if !s.inFlow && s.indent < column then
    { s with indents := s.indent :: s.indents, indent := column }.insertAt place t
  else s

/-- Close the block collections to the right of a column. -/
def closeBlocks (column : Int) (s : Lexer) : Lexer :=
  if s.inFlow then s else go s.indents s
where
  /-- Close the innermost block while it lies to the right. -/
  go : List Int → Lexer → Lexer
    | [], s => s
    | parent :: parents, s =>
      if column < s.indent then
        go parents ({ s with indent := parent, indents := parents }.push .blockEnd)
      else s

/-! ## Blanks, comments and line ends -/

/-- The place after a byte order mark at the start of a line. -/
def passMark (c : Cursor) : Cursor :=
  if c.column = 0 ∧ c.rest.head? = some '\ufeff' then c.next else c

/-- The place after a comment. -/
def passComment (c : Cursor) : Cursor :=
  if c.rest.head? = some '#' then c.skipWhile (fun d => !isBreak d) else c

/-- The place after what separates tokens on a line: a byte order mark, blanks
and a comment.  Tabs count as blanks where `tabs` says so. -/
def passGap (tabs : Bool) (c : Cursor) : Cursor :=
  passComment ((passMark c).skipWhile fun d => d = ' ' || (tabs && d = '\t'))

/-- Pass over what separates tokens. -/
def skipGap : Nat → Lexer → Lexer
  | 0, s => s
  | fuel + 1, s =>
    let c := passGap (s.inFlow || !s.keyAllowed) s.cursor
    match c.rest with
    | [] => s.goTo c
    | d :: _ =>
      if isBreak d then
        let s := s.goTo c.takeBreak.2
        skipGap fuel (if s.inFlow then s else s.allowKey true)
      else s.goTo c

/-! ## Directives, tags and names -/

/-- A character of a tag. -/
def isTagChar (full : Bool) (c : Char) : Bool :=
  isNameChar c || ";/?:@&=+$.%!~*'()".toList.contains c
    || (full && (c = ',' || c = '[' || c = ']'))

/-- The byte that a percent sign and two digits write. -/
def escapedByte? : List Char → Option (Nat × List Char)
  | '%' :: a :: b :: rest => do
    let high ← Json.hexValue? a
    let low ← Json.hexValue? b
    return (high * 16 + low, rest)
  | _ => none

/-- The bytes that continue an escaped character. -/
def escapedRest : Nat → List Char → Option (List Char × List Char)
  | 0, s => some ([], s)
  | n + 1, s => do
    let (byte, s) ← escapedByte? s
    if byte / 64 ≠ 2 then none
    let (bytes, s) ← escapedRest n s
    return (Char.ofNat byte :: bytes, s)

/-- The bytes of one escaped character and what follows it. -/
def escapedChar (s : List Char) : Option (List Char × List Char) := do
  let (byte, s) ← escapedByte? s
  let more ←
    if byte < 0x80 then some 0
    else if byte / 32 = 6 then some 1
    else if byte / 16 = 14 then some 2
    else if byte / 8 = 30 then some 3
    else none
  let (bytes, s) ← escapedRest more s
  return (Char.ofNat byte :: bytes, s)

/-- The characters of a tag, escapes resolved to bytes. -/
def tagText (full : Bool) : Nat → Cursor → List Char → Except Fault (List Char × Cursor)
  | 0, c, acc => .ok (acc.reverse, c)
  | fuel + 1, c, acc =>
    match c.rest with
    | [] => .ok (acc.reverse, c)
    | d :: _ =>
      if !isTagChar full d then .ok (acc.reverse, c)
      else if d = '%' then
        match escapedChar c.rest with
        | some (bytes, rest) =>
          tagText full fuel (c.forward (c.rest.length - rest.length)) (bytes.reverse ++ acc)
        | none => .error .badTag
      else tagText full fuel c.next (d :: acc)

/-- A tag handle: an exclamation mark, and a name with a second one. -/
def tagHandle (c : Cursor) : Except Fault (List Char × Cursor) :=
  match c.rest with
  | '!' :: _ =>
    let (name, c) := c.next.takeWhile isNameChar
    match c.rest with
    | '!' :: _ => .ok ('!' :: name ++ ['!'], c.next)
    | _ => .ok ('!' :: name, c)
  | _ => .error .badTag

/-- A tag.  One without a named handle has the handle `!`, and a lone `!` has
none. -/
def tag (inFlow : Bool) (c : Cursor) : Except Fault (Token × Cursor) := do
  let (token, c) ← match c.rest with
    | '!' :: '<' :: _ => do
      let (text, c) ← tagText true (c.rest.length + 1) (c.forward 2) []
      if text = [] ∨ c.rest.head? ≠ some '>' then throw .badTag
      pure (Token.tag [] text, c.next)
    | _ => do
      let (handle, c) ← tagHandle c
      let (text, c) ← tagText false (c.rest.length + 1) c []
      if 1 < handle.length ∧ handle.getLast? = some '!' then
        if text = [] then throw .badTag
        pure (Token.tag handle text, c)
      else
        let suffix := handle.drop 1 ++ text
        pure (if suffix = [] then Token.tag [] ['!'] else Token.tag ['!'] suffix, c)
  if atGap c.rest ∨ (inFlow ∧ c.rest.head? = some ',') then return (token, c)
  else throw .badTag

/-- The digits of a version number. -/
def versionNumber (c : Cursor) : Except Fault (Nat × Cursor) :=
  let (digits, c) := c.takeWhile Char.isDigit
  if digits = [] ∨ digits.length > 9 then .error .badDirective
  else .ok (Json.decimalValue digits, c)

/-- A directive from its percent sign to the end of its line. -/
def directive (c : Cursor) : Except Fault (Token × Cursor) := do
  let (name, c) := c.next.takeWhile isNameChar
  if name = [] ∨ !atGap c.rest then throw .badDirective
  let c := c.skipWhile isBlank
  let (token, c) ←
    if name = "YAML".toList then do
      let (major, c) ← versionNumber c
      if c.rest.head? ≠ some '.' then throw .badDirective
      let (minor, c) ← versionNumber c.next
      pure (Token.version major minor, c)
    else if name = "TAG".toList then do
      let (handle, c) ← tagHandle c
      if handle ≠ ['!'] ∧ handle.getLast? ≠ some '!' then throw .badDirective
      if !c.rest.head?.any isBlank then throw .badDirective
      let c := c.skipWhile isBlank
      let (text, c) ← tagText true (c.rest.length + 1) c []
      if text = [] ∨ !atGap c.rest then throw .badDirective
      pure (Token.tagHandle handle text, c)
    else throw .badDirective
  let c := passComment (c.skipWhile isBlank)
  if atLineEnd c.rest then return (token, c.takeBreak.2) else throw .badDirective

/-- The name after the sign of an anchor or an alias. -/
def anchorName (c : Cursor) : Except Fault (List Char × Cursor) :=
  let (name, c) := c.next.takeWhile isNameChar
  if name ≠ [] ∧ (atGap c.rest ∨ c.rest.head?.any "?:,]\x7d%@\x60".toList.contains) then
    .ok (name, c)
  else .error .badName

/-! ## One token -/

/-- Leave all blocks before a directive or a document mark. -/
def leaveBlocks (s : Lexer) : Except Fault Lexer := do
  return (← (s.closeBlocks (-1)).dropCandidate).allowKey false

/-- The end of the text. -/
def finish (s : Lexer) : Except Fault Lexer := s.leaveBlocks

/-- The start of a flow collection. -/
def openFlow (t : Token) (s : Lexer) : Except Fault Lexer := do
  let s ← s.saveCandidate
  return { s with candidate := none, outer := s.candidate :: s.outer, keyAllowed := true }.take 1 t

/-- The end of a flow collection. -/
def closeFlow (t : Token) (s : Lexer) : Except Fault Lexer := do
  let s ← s.dropCandidate
  let s := match s.outer with
    | [] => s
    | candidate :: outer => { s with candidate, outer }
  return (s.allowKey false).take 1 t

/-- The comma of a flow collection. -/
def flowEntry (s : Lexer) : Except Fault Lexer := do
  return ((← s.dropCandidate).allowKey true).take 1 .flowEntry

/-- The hyphen of a block sequence. -/
def blockEntry (s : Lexer) : Except Fault Lexer := do
  if !s.inFlow && !s.keyAllowed then throw .misplacedEntry
  let s ← (s.openBlock s.cursor.column s.count .blockSequenceStart).dropCandidate
  return (s.allowKey true).take 1 .blockEntry

/-- The question mark before a key. -/
def explicitKey (s : Lexer) : Except Fault Lexer := do
  if !s.inFlow && !s.keyAllowed then throw .misplacedKey
  let s ← (s.openBlock s.cursor.column s.count .blockMappingStart).dropCandidate
  return (s.allowKey (!s.inFlow)).take 1 .key

/-- The colon before a value.  A candidate becomes the key. -/
def valueMark (s : Lexer) : Except Fault Lexer := do
  match ← s.liveCandidate? with
  | some k =>
    let s := (s.insertAt k.place .key).openBlock k.column k.place .blockMappingStart
    return ({ s with candidate := none }.allowKey false).take 1 .value
  | none =>
    let s := { s with candidate := none }
    if !s.inFlow && !s.keyAllowed then throw .misplacedValue
    let s := s.openBlock s.cursor.column s.count .blockMappingStart
    return (s.allowKey (!s.inFlow)).take 1 .value

/-- A name or a tag, which may start a key. -/
def property (t : Token) (c : Cursor) (s : Lexer) : Except Fault Lexer := do
  return (((← s.saveCandidate).allowKey false).goTo c).push t

/-- A block scalar. -/
def block (literal : Bool) (s : Lexer) : Except Fault Lexer := do
  let s ← s.dropCandidate
  let (text, c) ← blockScalar literal s.indent s.cursor.next
  return ((s.allowKey true).goTo c).push (.scalar false text)

/-- A quoted scalar. -/
def quote (single : Bool) (s : Lexer) : Except Fault Lexer := do
  let s ← s.saveCandidate
  let c := s.cursor.next
  let (text, c) ← quoted single (c.rest.length + 1) c .none []
  return ((s.allowKey false).goTo c).push (.scalar false text)

/-- A plain scalar. -/
def word (s : Lexer) : Except Fault Lexer := do
  let s ← s.saveCandidate
  let c := s.cursor
  let (text, c, broken) ← plain s.inFlow (s.indent + 1) (c.rest.length + 1) c .none []
  return ((s.allowKey broken).goTo c).push (.scalar true text)

/-- A character that starts a token of its own kind and no plain scalar. -/
def isIndicator (c : Char) : Bool := "-?:,[]\x7b\x7d#&*!|>'\"%@\x60".toList.contains c

/-- The next token, the gap before it passed over. -/
def token (s : Lexer) (d : Char) (rest : List Char) : Except Fault Lexer :=
  let c := s.cursor
  if c.column = 0 ∧ d = '%' then do
    let s ← s.leaveBlocks
    let (t, c) ← directive c
    return (s.goTo c).push t
  else if c.column = 0 ∧ c.atTriple '-' then do return (← s.leaveBlocks).take 3 .documentStart
  else if c.column = 0 ∧ c.atTriple '.' then do return (← s.leaveBlocks).take 3 .documentEnd
  else if d = '[' then s.openFlow .flowSequenceStart
  else if d = '\x7b' then s.openFlow .flowMappingStart
  else if d = ']' then s.closeFlow .flowSequenceEnd
  else if d = '\x7d' then s.closeFlow .flowMappingEnd
  else if d = ',' then s.flowEntry
  else if d = '-' && atGap rest then s.blockEntry
  else if d = '?' && (s.inFlow || atGap rest) then s.explicitKey
  else if d = ':' && (s.inFlow || atGap rest) then s.valueMark
  else if d = '*' then do
    let (name, c) ← anchorName c
    s.property (.alias name) c
  else if d = '&' then do
    let (name, c) ← anchorName c
    s.property (.anchor name) c
  else if d = '!' then do
    let (t, c) ← tag s.inFlow c
    s.property t c
  else if d = '|' && !s.inFlow then s.block true
  else if d = '>' && !s.inFlow then s.block false
  else if d = '\'' then s.quote true
  else if d = '"' then s.quote false
  else if !(isBlank d || isIndicator d) || (d = '-' && !rest.head?.any isBlank)
      || (!s.inFlow && (d = '?' || d = ':') && !atGap rest) then s.word
  else .error .strayCharacter

/-- The lexer after the whole text. -/
def run : Nat → Lexer → Except Fault Lexer
  | 0, s => s.finish
  | fuel + 1, s =>
    let s := skipGap (s.cursor.rest.length + 1) s
    match s.cursor.rest with
    | [] => s.finish
    | d :: rest => do
      let s := s.closeBlocks s.cursor.column
      run fuel (← s.token d rest)

end Lexer

/-- The tokens of a text. -/
def tokens (text : List Char) : Except Fault (List Token) := do
  if !text.all isAllowed then throw .characterNotAllowed
  let s ← Lexer.run (text.length + 1) { cursor := ⟨text, 0, 0, 0⟩ }
  return s.tokens.reverse

end PolicyScan.Yaml
