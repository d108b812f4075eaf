import PolicyScan.Yaml.Node
import PolicyScan.Yaml.Token.Lexer

/-!
# The documents of a YAML text

A text is a row of documents.  The first one may start without a mark, unless
it has directives; every other one starts with `---`.  A document is read from
its tokens with collections nested at most `nestingLimit` deep.

Anchors are numbered by the count of different names before them.  A name that
is used again takes a new number, and an alias means the number that its name
has where the alias stands.
-/

namespace PolicyScan.Yaml

/-- The greatest number of collections nested in one another. -/
def nestingLimit : Nat := 128

/-- The expansions of tag handles. -/
abbrev TagHandles := List (List Char × List Char)

/-- The handles that need no directive. -/
def TagHandles.standard : TagHandles :=
  [(['!'], ['!']), (['!', '!'], "tag:yaml.org,2002:".toList)]

/-- The tokens that are left, and the numbers of the anchors so far. -/
structure TokenStream where
  tokens : List Token
  anchors : List (List Char × Nat) := []

/-- The outcome of reading a part of a document. -/
abbrev Parsed (α : Type) := Except Fault (α × TokenStream)

namespace TokenStream

/-- The stream after its first token. -/
def skip (s : TokenStream) : TokenStream := { s with tokens := s.tokens.drop 1 }

/-- Whether the next token is one of the given. -/
def isAt (s : TokenStream) (ts : List Token) : Bool := s.tokens.head?.any ts.contains

/-- Number an anchor. -/
def mark (name : List Char) (s : TokenStream) : Nat × TokenStream :=
  let number := s.anchors.length
  (number, { s with anchors := (name, number) :: s.anchors.filter (·.1 ≠ name) })

/-- An anchor, if one comes next. -/
def anchor? (s : TokenStream) : Option Nat × TokenStream :=
  match s.tokens with
  | .anchor name :: rest =>
    let (number, s) := { s with tokens := rest }.mark name
    (some number, s)
  | _ => (none, s)

/-- A tag with its handle expanded, if one comes next. -/
def tag? (handles : TagHandles) (s : TokenStream) : Except Fault (Option (List Char) × TokenStream) :=
  match s.tokens with
  | .tag [] suffix :: rest => .ok (some suffix, { s with tokens := rest })
  | .tag handle suffix :: rest =>
    match handles.lookup handle with
    | some expansion => .ok (some (expansion ++ suffix), { s with tokens := rest })
    | none => .error .unknownTagHandle
  | _ => .ok (none, s)

/-- An anchor and a tag in either order. -/
def properties (handles : TagHandles) (s : TokenStream) : Except Fault (Properties × TokenStream) := do
  match s.anchor? with
  | (some anchor, s) =>
    let (tag, s) ← s.tag? handles
    return (⟨some anchor, tag⟩, s)
  | (none, s) =>
    let (tag, s) ← s.tag? handles
    let (anchor, s) := if tag.isSome then s.anchor? else (none, s)
    return (⟨anchor, tag⟩, s)

end TokenStream

namespace Node

/-- The node read by `item`, or an empty one before the given tokens. -/
def orEmpty (ends : List Token) (item : TokenStream → Parsed Node) (s : TokenStream) : Parsed Node :=
  if s.isAt ends then .ok (.empty, s) else item s

/-- The entries of a block sequence up to and with its end. -/
def blockItems (item : TokenStream → Parsed Node) :
    Nat → TokenStream → List Node → Except Fault (List Node × TokenStream)
  | 0, _, _ => .error .unexpectedToken
  | fuel + 1, s, acc =>
    match s.tokens with
    | .blockEntry :: _ => do
      let (x, s) ← orEmpty [.blockEntry, .blockEnd] item s.skip
      blockItems item fuel s (x :: acc)
    | .blockEnd :: _ => .ok (acc.reverse, s.skip)
    | _ => .error .unexpectedToken

/-- The entries of a sequence that stands at the column of the mapping around
it. -/
def alignedItems (item : TokenStream → Parsed Node) :
    Nat → TokenStream → List Node → Except Fault (List Node × TokenStream)
  | 0, _, _ => .error .unexpectedToken
  | fuel + 1, s, acc =>
    match s.tokens with
    | .blockEntry :: _ => do
      let (x, s) ← orEmpty [.blockEntry, .key, .value, .blockEnd] item s.skip
      alignedItems item fuel s (x :: acc)
    | _ => .ok (acc.reverse, s)

/-- A value after its mark, or an empty one without a mark. -/
def valueOrEmpty (ends : List Token) (item : TokenStream → Parsed Node) (s : TokenStream) : Parsed Node :=
  if s.isAt [.value] then orEmpty ends item s.skip else .ok (.empty, s)

/-- The entries of a block mapping up to and with its end. -/
def blockEntries (item : TokenStream → Parsed Node) :
    Nat → TokenStream → List (Node × Node) → Except Fault (List (Node × Node) × TokenStream)
  | 0, _, _ => .error .unexpectedToken
  | fuel + 1, s, acc =>
    match s.tokens with
    | .key :: _ => do
      let (k, s) ← orEmpty [.key, .value, .blockEnd] item s.skip
      let (v, s) ← valueOrEmpty [.key, .value, .blockEnd] item s
      blockEntries item fuel s ((k, v) :: acc)
    | .blockEnd :: _ => .ok (acc.reverse, s.skip)
    | _ => .error .unexpectedToken

/-- The stream after the comma that separates entries; no comma stands before
the first one. -/
def separator (first : Bool) (s : TokenStream) : Except Fault TokenStream :=
  if first then .ok s
  else if s.isAt [.flowEntry] then .ok s.skip
  else .error .unexpectedToken

/-- The mapping of one entry inside a flow sequence, its key token passed.  A
key that is not written takes the token in its place along. -/
def flowPair (item : TokenStream → Parsed Node) (s : TokenStream) : Except Fault (Node × TokenStream) := do
  let (k, s) ←
    if s.isAt [.value, .flowEntry, .flowSequenceEnd] then pure (Node.empty, s.skip)
    else item s
  let (v, s) ← valueOrEmpty [.flowEntry, .flowSequenceEnd] item s
  return (.mapping {} [(k, v)], s)

/-- The entries of a flow sequence up to and with its end; `inner` reads key
and value of an entry that is a pair. -/
def flowItems (item inner : TokenStream → Parsed Node) :
    Nat → Bool → TokenStream → List Node → Except Fault (List Node × TokenStream)
  | 0, _, _, _ => .error .unexpectedToken
  | fuel + 1, first, s, acc =>
    if s.isAt [.flowSequenceEnd] then .ok (acc.reverse, s.skip)
    else do
      let s ← separator first s
      if s.isAt [.flowSequenceEnd] then return (acc.reverse, s.skip)
      let (x, s) ← if s.isAt [.key] then flowPair inner s.skip else item s
      flowItems item inner fuel false s (x :: acc)

/-- The entries of a flow mapping up to and with its end. -/
def flowEntries (item : TokenStream → Parsed Node) :
    Nat → Bool → TokenStream → List (Node × Node) → Except Fault (List (Node × Node) × TokenStream)
  | 0, _, _, _ => .error .unexpectedToken
  | fuel + 1, first, s, acc =>
    if s.isAt [.flowMappingEnd] then .ok (acc.reverse, s.skip)
    else do
      let s ← separator first s
      if s.isAt [.flowMappingEnd] then return (acc.reverse, s.skip)
      let (entry, s) ←
        if s.isAt [.key] then do
          let (k, s) ← orEmpty [.value, .flowEntry, .flowMappingEnd] item s.skip
          let (v, s) ← valueOrEmpty [.flowEntry, .flowMappingEnd] item s
          pure ((k, v), s)
        else do
          let (k, s) ← item s
          pure ((k, Node.empty), s)
      flowEntries item fuel false s (entry :: acc)

/-- The readers of the nodes inside of a collection. -/
structure Inner where
  /-- A node inside of a block collection, which may be a sequence at the column
  of its mapping where `aligned` says so. -/
  block : (aligned : Bool) → TokenStream → Parsed Node
  /-- A node inside of a flow collection. -/
  flow : TokenStream → Parsed Node
  /-- Key or value of an entry of a flow sequence that is a pair. -/
  pair : TokenStream → Parsed Node

/-- A collection behind its properties, which may also stand before nothing. -/
def collection (inner : Inner) (block aligned : Bool) (props : Properties) (s : TokenStream) :
    Except Fault (Node × TokenStream) :=
  let fuel := s.tokens.length + 1
  match s.tokens with
  | t :: _ =>
    if aligned && t = .blockEntry then do
      let (items, s) ← alignedItems (inner.block false) fuel s []
      return (.sequence props items, s)
    else if t = .flowSequenceStart then do
      let (items, s) ← flowItems inner.flow inner.pair fuel true s.skip []
      return (.sequence props items, s)
    else if t = .flowMappingStart then do
      let (entries, s) ← flowEntries inner.flow fuel true s.skip []
      return (.mapping props entries, s)
    else if block && t = .blockSequenceStart then do
      let (items, s) ← blockItems (inner.block false) fuel s.skip []
      return (.sequence props items, s)
    else if block && t = .blockMappingStart then do
      let (entries, s) ← blockEntries (inner.block true) fuel s.skip []
      return (.mapping props entries, s)
    else if props ≠ {} then return (.scalar props true [], s)
    else throw .unexpectedToken
  | [] => if props ≠ {} then return (.scalar props true [], s) else throw .unexpectedToken

/-- A node, which may be a collection if there are readers of what is inside. -/
def readWith (handles : TagHandles) (inner? : Option Inner) (block aligned : Bool)
    (s : TokenStream) : Except Fault (Node × TokenStream) :=
  match s.tokens with
  | .alias name :: _ =>
    match s.anchors.lookup name with
    | some anchor => .ok (.alias anchor, s.skip)
    | none => .error .unknownAnchor
  | _ => do
    let (props, s) ← s.properties handles
    match inner?, s.tokens with
    | _, .scalar plain text :: _ => return (.scalar props plain text, s.skip)
    | none, _ => throw .nestedTooDeep
    | some inner, _ => collection inner block aligned props s

/-- The readers inside of a collection that holds less than `depth` others in one
another, none if there may be no collection at all.  A pair takes up one of
them. -/
def readers (handles : TagHandles) : (depth : Nat) → Option Inner
  | 0 => none
  | depth + 1 =>
    let inner? := readers handles depth
    some {
      block := readWith handles inner? true
      flow := readWith handles inner? false false
      pair := match inner? with
        | some inner => inner.flow
        | none => fun _ => .error .nestedTooDeep }

/-- A node with at most `depth` collections in one another.  Block collections
may only stand where `block` says so, and a sequence at the column of its
mapping only where `aligned` does. -/
def read (handles : TagHandles) (depth : Nat) (block aligned : Bool) (s : TokenStream) :
    Except Fault (Node × TokenStream) :=
  readWith handles (readers handles depth) block aligned s

end Node

/-! ## Documents -/

/-- The directives in front of a document: whether a version was given, and the
handles. -/
def directives : Bool → TagHandles → List Token → Except Fault (TagHandles × List Token)
  | given, handles, .version major minor :: rest =>
    if given ∨ major ≠ 1 ∨ (minor ≠ 1 ∧ minor ≠ 2) then .error .badDirective
    else directives true handles rest
  | given, handles, .tagHandle handle expansion :: rest =>
    if (handles.lookup handle).isSome then .error .badDirective
    else directives given ((handle, expansion) :: handles) rest
  | _, handles, rest => .ok (handles ++ TagHandles.standard, rest)

/-- Whether a document without content ends before these tokens. -/
def atDocumentEnd : List Token → Bool
  | [] => true
  | .version _ _ :: _ => true
  | .tagHandle _ _ :: _ => true
  | .documentStart :: _ => true
  | .documentEnd :: _ => true
  | _ => false

/-- The tokens after the end mark of a document, which may be missing. -/
def afterDocument : List Token → List Token
  | .documentEnd :: rest => rest
  | rest => rest

/-- The document that tokens start with, and the tokens after it. -/
def nextDocument (first : Bool) (ts : List Token) : Except Fault (Node × List Token) := do
  if first && (!atDocumentEnd ts || ts.head? = some .documentEnd) then
    let (node, s) ← Node.read .standard nestingLimit true false ⟨ts, []⟩
    return (node, afterDocument s.tokens)
  else
    let (handles, ts) ← directives false [] ts
    match ts with
    | .documentStart :: ts =>
      if atDocumentEnd ts then return (.empty, afterDocument ts)
      else
        let (node, s) ← Node.read handles nestingLimit true false ⟨ts, []⟩
        return (node, afterDocument s.tokens)
    | _ => throw .unexpectedToken

/-- The documents of a row of tokens. -/
def documentsOf : Nat → (first : Bool) → List Token → List Node → Except Fault (List Node)
  | 0, _, _, acc => .ok acc.reverse
  | fuel + 1, first, ts, acc =>
    match if first then ts else ts.dropWhile (· = .documentEnd) with
    | [] => .ok acc.reverse
    | ts => do
      let (node, ts) ← nextDocument first ts
      documentsOf fuel false ts (node :: acc)

/-- The documents of a text. -/
def documents (text : List Char) : Except Fault (List Node) := do
  let ts ← tokens text
  documentsOf (ts.length + 1) true ts []

end PolicyScan.Yaml
