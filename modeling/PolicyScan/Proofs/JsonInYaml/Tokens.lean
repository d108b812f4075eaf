import PolicyScan.Proofs.Yaml.Flow

/-!
# The tokens of JSON texts

The lexer of YAML takes the text of a JSON tree for the tokens of flow
collections.  Every string that folds is a scalar, and a string in the place of a
key is marked as one if its colon stands on the same line and within 1024
characters; there is a fault exactly if some string does not fold
(`Tree.lexes`).
-/

namespace PolicyScan.Json

open Yaml (Token Lexer folded)
open Yaml.Lexer (Emits Faults Reaches ArrivesAt Calm EndsGap)

/-- A key from its opening quote up to its colon. -/
def keySpan (key : List Glyph) (afterKey : Gap) : List Char :=
  '"' :: glyphChars key ++ ['"'] ++ afterKey.chars

/-- YAML takes the string for a key: it stands on one line with its colon, and
not too far in front of it. -/
def IsKey (key : List Glyph) (afterKey : Gap) : Prop :=
  (∀ c ∈ keySpan key afterKey, Yaml.isBreak c = false) ∧
    (keySpan key afterKey).length ≤ Yaml.keyLimit

instance (key : List Glyph) (afterKey : Gap) : Decidable (IsKey key afterKey) :=
  inferInstanceAs (Decidable (_ ∧ _))

/-- The token of the comma before an item. -/
def commaTokens (first : Bool) : List Token := if first then [] else [.flowEntry]

/-- The tokens of a key with its colon. -/
def keyTokens (key : List Glyph) (afterKey : Gap) (text : List Char) : List Token :=
  if IsKey key afterKey then [.key, .scalar false text, .value] else [.scalar false text, .value]

/-- Tokens one after the other, if there are both. -/
def andThen (ts? us? : Option (List Token)) : Option (List Token) :=
  ts?.bind fun ts => us?.map fun us => ts ++ us

mutual

/-- The tokens of a tree, if its strings fold. -/
def Tree.tokens? : Tree → Option (List Token)
  | .null => some [.scalar true ['n', 'u', 'l', 'l']]
  | .bool true => some [.scalar true ['t', 'r', 'u', 'e']]
  | .bool false => some [.scalar true ['f', 'a', 'l', 's', 'e']]
  | .num text _ _ => some [.scalar true text]
  | .str glyphs => (folded false .none glyphs).map fun text => [.scalar false text]
  | .arr _ items =>
    (items.tokens? true).map fun ts => .flowSequenceStart :: ts ++ [.flowSequenceEnd]
  | .obj _ fields =>
    (fields.tokens? true).map fun ts => .flowMappingStart :: ts ++ [.flowMappingEnd]

/-- The tokens of the items, with a comma before all but the first. -/
def Items.tokens? (first : Bool) : Items → Option (List Token)
  | .nil => some []
  | .cons _ item _ rest =>
    andThen (some (commaTokens first)) (andThen item.tokens? (rest.tokens? false))

/-- The tokens of the fields, with a comma before all but the first. -/
def Fields.tokens? (first : Bool) : Fields → Option (List Token)
  | .nil => some []
  | .cons _ key afterKey _ value _ rest =>
    andThen (some (commaTokens first))
      (andThen ((folded false .none key).map (keyTokens key afterKey))
        (andThen value.tokens? (rest.tokens? false)))

end

/-! ## Lexing -/

/-- The lexer gives the tokens and comes to a gap before the rest of the text, or
finds a fault where there are none. -/
def Lexes (s : Lexer) (ts? : Option (List Token)) (rest : List Char) : Prop :=
  match ts? with
  | some ts => ∃ s', ∃ gap : Gap, Emits ts s s' ∧ s'.cursor.rest = gap.chars ++ rest
  | none => s.Faults

section Steps

variable {s : Lexer} {ts? us? : Option (List Token)} {middle rest : List Char}

theorem Lexes.of_emits {s' : Lexer} {ts : List Token} (emits : Emits ts s s')
    (later : Lexes s' us? rest) : Lexes s (andThen (some ts) us?) rest := by
  cases us? with
  | none => exact emits.reaches.faults later
  | some us =>
      rcases later with ⟨s'', gap, emits', restEq⟩
      exact ⟨s'', gap, emits.trans emits', restEq⟩

theorem Lexes.andThen (first : Lexes s ts? middle)
    (later : ∀ s' ts, ∀ gap : Gap, Emits ts s s' → s'.cursor.rest = gap.chars ++ middle →
      Lexes s' us? rest) :
    Lexes s (andThen ts? us?) rest := by
  cases ts? with
  | none => exact first
  | some ts =>
      rcases first with ⟨s', gap, emits, restEq⟩
      exact .of_emits emits (later s' ts gap emits restEq)

/-- Inside of a collection the lexer passes over a gap of JSON. -/
theorem arrivesAt_of_gap (inFlow : s.outer ≠ []) {gap : Gap}
    (restEq : s.cursor.rest = gap.chars ++ rest) (ends : EndsGap true rest) :
    ∃ c, s.ArrivesAt c ∧ c.rest = rest ∧ s.cursor.Passed gap.chars c := by
  have passes : s.PassesTabs true := .inl ⟨by simpa [Lexer.inFlow] using inFlow, rfl⟩
  have lengths := congrArg List.length restEq
  rw [List.length_append] at lengths
  rcases Yaml.Lexer.skipGap_append (s.cursor.rest.length + 1) passes restEq
    (fun c member => Yaml.isBlank_or_isBreak (gap.isBlank_of_mem c member)) ends (by omega) with
    ⟨c, skipped, atRest, passed⟩
  exact ⟨c, ⟨skipped, by rw [atRest]; omega⟩, atRest, passed⟩

/-- What may follow a gap. -/
theorem endsGap_cons {c : Char} (solid : Yaml.Lexer.isGapBlank true c = false)
    (inside : Yaml.isBreak c = false) (noComment : c ≠ '#') (noMark : c ≠ '\ufeff') :
    EndsGap true (c :: rest) := by
  intro d more equal
  cases equal
  exact ⟨solid, inside, noComment, noMark⟩

/-- The comma before an item, and the gap after it. -/
theorem emits_comma {first : Bool} {gap before : Gap} (calm : s.Calm) (inFlow : s.outer ≠ [])
    (allowed : first = true → s.keyAllowed = true)
    (restEq : s.cursor.rest = gap.chars ++ (comma first ++ (before.chars ++ rest))) :
    ∃ s', ∃ gap' : Gap, Emits (commaTokens first) s s' ∧ s'.keyAllowed = true ∧
      s'.cursor.rest = gap'.chars ++ rest := by
  cases first with
  | true =>
      refine ⟨s, gap.append before, ⟨.refl s, calm, rfl, rfl⟩, allowed rfl, ?_⟩
      rw [restEq, Gap.append, List.append_assoc]
      rfl
  | false =>
      have comma : EndsGap true (',' :: (before.chars ++ rest)) :=
        endsGap_cons rfl rfl (by decide) (by decide)
      rcases arrivesAt_of_gap inFlow restEq comma with ⟨c, arrives, atComma, -⟩
      rcases arrives.emits_comma calm atComma with ⟨s', emits, keyAllowed, restEq'⟩
      exact ⟨s', before, emits, keyAllowed, restEq'⟩

/-- The colon is too far from the key exactly if YAML does not take it for
one. -/
theorem far_iff_of_passed {key : List Glyph} {afterKey : Gap} {c c' : Yaml.Cursor}
    (passed : c.Passed (keySpan key afterKey) c') :
    (c.line < c'.line ∨ c.index + Yaml.keyLimit < c'.index) ↔ ¬IsKey key afterKey := by
  have lineLe := passed.line_le
  rw [IsKey, ← passed.line_eq_iff, passed.index]
  omega

/-- A key with its colon. -/
theorem lexes_key {gap afterKey : Gap} {key : List Glyph} (calm : s.Calm) (inFlow : s.outer ≠ [])
    (allowed : s.keyAllowed = true)
    (restEq : s.cursor.rest =
      gap.chars ++ '"' :: (glyphChars key ++ '"' :: (afterKey.chars ++ ':' :: rest))) :
    Lexes s ((folded false .none key).map (keyTokens key afterKey)) rest := by
  have quote : EndsGap true ('"' :: (glyphChars key ++ '"' :: (afterKey.chars ++ ':' :: rest))) :=
    endsGap_cons rfl rfl (by decide) (by decide)
  have colon : EndsGap true (':' :: rest) := endsGap_cons rfl rfl (by decide) (by decide)
  rcases arrivesAt_of_gap inFlow restEq quote with ⟨c, arrives, atQuote, -⟩
  have read := arrives.emits_quoted calm atQuote
  cases textEq : folded false .none key with
  | none =>
      rw [textEq] at read
      exact read
  | some text =>
      rw [textEq] at read
      rcases read with ⟨quoted, emits, afterQuote, candidateEq, countEq, passedKey⟩
      have stillInFlow : quoted.outer ≠ [] := emits.outer ▸ inFlow
      rcases arrivesAt_of_gap stillInFlow afterQuote colon with ⟨c', arrives', atColon, passedGap⟩
      rw [Lexer.savedCandidate, if_pos (show (s.goTo c).keyAllowed = true from allowed)]
        at candidateEq
      rcases arrives'.emits_colon emits.calm stillInFlow atColon candidateEq emits.tokens countEq
        with ⟨passed, reaches, calmThen, outerEq, afterColon, tokensEq⟩
      have far_iff := far_iff_of_passed (passedKey.trans passedGap)
      refine ⟨passed, .empty, ⟨emits.reaches.trans reaches, calmThen,
        outerEq.trans emits.outer, ?_⟩, afterColon⟩
      rw [tokensEq, keyTokens]
      by_cases isKey : IsKey key afterKey
      · rw [if_pos isKey]
        exact if_neg (far_iff.not.mpr (not_not.mpr isKey))
      · rw [if_neg isKey]
        exact if_pos (far_iff.mpr isKey)

/-- What the lexer makes of a collection: its tokens, and the place behind it. -/
def LexesCollection (s : Lexer) (start finish : Token) (ts? : Option (List Token))
    (rest : List Char) : Prop :=
  match ts? with
  | some ts =>
    ∃ s', Emits (start :: ts ++ [finish]) s s' ∧ s'.keyAllowed = false ∧ s'.cursor.rest = rest
  | none => s.Faults

theorem Lexes.of_collection {start finish : Token} {after : Gap}
    (lexed : LexesCollection s start finish ts? (after.chars ++ rest)) :
    Lexes s (ts?.map fun ts => start :: ts ++ [finish]) rest := by
  cases ts? with
  | none => exact lexed
  | some ts =>
      rcases lexed with ⟨s', emits, -, atRest⟩
      exact ⟨s', after, emits, atRest⟩

/-- A collection whose inside has tokens. -/
theorem lexes_collection {start finish : Token} {d e : Char} {inside : List Char} {c : Yaml.Cursor}
    (arrives : s.ArrivesAt c) (calm : s.Calm) (restEq : c.rest = d :: inside)
    (isStart : ∀ {s : Lexer}, s.cursor.rest = d :: inside → s.token d inside = s.openFlow start)
    (isFinish : ∀ {s : Lexer}, s.cursor.rest = e :: rest → s.token e rest = s.closeFlow finish)
    (ends : EndsGap true (e :: rest))
    (inner : ∀ s' : Lexer, s'.Calm → s'.outer ≠ [] → s'.keyAllowed = true →
      s'.cursor.rest = inside → Lexes s' ts? (e :: rest)) :
    LexesCollection s start finish ts? rest := by
  rcases arrives.opens calm restEq (isStart restEq) with
    ⟨opened, reaches, calmThen, ⟨candidate, outerEq⟩, tokensEq, keyAllowed, atInside⟩
  have inFlow : opened.outer ≠ [] := by
    rw [outerEq]
    exact List.cons_ne_nil _ _
  have lexed := inner opened calmThen inFlow keyAllowed atInside
  cases ts? with
  | none => exact reaches.faults lexed
  | some ts =>
      rcases lexed with ⟨filled, gap, emits, atGap⟩
      have stillInFlow : filled.outer ≠ [] := emits.outer ▸ inFlow
      rcases arrivesAt_of_gap stillInFlow atGap ends with ⟨c', arrives', atEnd, -⟩
      rcases arrives'.closes emits.calm atEnd (isFinish atEnd) (emits.outer.trans outerEq) with
        ⟨closed, reaches', calmLast, outerLast, tokensLast, keyForbidden, atRest⟩
      refine ⟨closed, ⟨(reaches.trans emits.reaches).trans reaches', calmLast, outerLast, ?_⟩,
        keyForbidden, atRest⟩
      rw [tokensLast, emits.tokens, tokensEq]
      simp

end Steps

theorem isAlphanum_of_isDigit {c : Char} (digit : isDigit c) : c.isAlphanum := by
  rw [isDigit_eq_isDigit] at digit
  rw [Char.isAlphanum, digit, Bool.or_true]

/-- The digits of a whole number are a word. -/
theorem isWord_of_intText {text : List Char} {value : Int} (written : IntText text value) :
    Yaml.IsWord text := by
  cases written with
  | unsigned whole =>
      rcases List.exists_cons_of_ne_nil whole.ne_nil with ⟨c, tail, rfl⟩
      rcases List.forall_mem_cons.mp whole.isDigit_of_mem with ⟨first, others⟩
      exact .unsigned (isAlphanum_of_isDigit first)
        fun d member => isAlphanum_of_isDigit (others d member)
  | negative whole ne_zero =>
      rename_i ds
      rcases List.exists_cons_of_ne_nil whole.ne_nil with ⟨c, tail, rfl⟩
      rcases List.forall_mem_cons.mp whole.isDigit_of_mem with ⟨first, others⟩
      exact .signed (isAlphanum_of_isDigit first)
        fun d member => isAlphanum_of_isDigit (others d member)

/-- A word with the gap after it. -/
theorem lexes_word {s : Lexer} {gap after : Gap} {word rest : List Char} {d : Char}
    (calm : s.Calm) (inFlow : s.outer ≠ []) (isWord : Yaml.IsWord word) (ends : Yaml.EndsItem d)
    (restEq : s.cursor.rest = gap.chars ++ (word ++ (after.chars ++ d :: rest))) :
    Lexes s (some [.scalar true word]) (d :: rest) := by
  have starts : EndsGap true (word ++ (after.chars ++ d :: rest)) := by
    cases isWord with
    | unsigned first others =>
        apply endsGap_cons
        · exact Bool.eq_false_iff.mpr (Yaml.not_isBlank_of_isAlphanum first)
        · exact Bool.eq_false_iff.mpr (Yaml.not_isBreak_of_isAlphanum first)
        · exact Yaml.ne_of_isAlphanum first rfl
        · exact Yaml.ne_of_isAlphanum first rfl
    | signed first others => exact endsGap_cons rfl rfl (by decide) (by decide)
  rcases arrivesAt_of_gap inFlow restEq starts with ⟨c, arrives, atWord, -⟩
  rcases arrives.emits_word calm inFlow isWord after.isBlank_of_mem atWord ends with
    ⟨s', emits, atEnd⟩
  exact ⟨s', .empty, emits, atEnd⟩

theorem Items.exists_sign (items : Items) (rest : List Char) :
    ∃ d more, items.chars false ++ ']' :: rest = d :: more ∧ Yaml.EndsItem d := by
  cases items with
  | nil => exact ⟨']', rest, rfl, .inr (.inl rfl)⟩
  | cons before item after others => exact ⟨',', _, rfl, .inl rfl⟩

theorem Fields.exists_sign (fields : Fields) (rest : List Char) :
    ∃ d more, fields.chars false ++ '\x7d' :: rest = d :: more ∧ Yaml.EndsItem d := by
  cases fields with
  | nil => exact ⟨'\x7d', rest, rfl, .inr (.inr rfl)⟩
  | cons before key afterKey beforeValue value after others => exact ⟨',', _, rfl, .inl rfl⟩

/-! ## Trees -/

mutual

/-- Inside of a collection the lexer takes the text of a tree for its tokens. -/
theorem Tree.lexes (tree : Tree) (ints : tree.AllInts) {s : Lexer} {gap after : Gap} {d : Char}
    {rest : List Char} (calm : s.Calm) (inFlow : s.outer ≠ []) (ends : Yaml.EndsItem d)
    (restEq : s.cursor.rest = gap.chars ++ (tree.chars ++ (after.chars ++ d :: rest))) :
    Lexes s tree.tokens? (d :: rest) := by
  cases tree with
  | null =>
      have isWord : Yaml.IsWord ['n', 'u', 'l', 'l'] := .unsigned rfl (by decide)
      exact lexes_word calm inFlow isWord ends restEq
  | bool value =>
      cases value with
      | true =>
          have isWord : Yaml.IsWord ['t', 'r', 'u', 'e'] := .unsigned rfl (by decide)
          exact lexes_word calm inFlow isWord ends restEq
      | false =>
          have isWord : Yaml.IsWord ['f', 'a', 'l', 's', 'e'] := .unsigned rfl (by decide)
          exact lexes_word calm inFlow isWord ends restEq
  | num text n written =>
      rcases ints with ⟨value, inRange, rfl⟩
      exact lexes_word calm inFlow (isWord_of_intText written.intText) ends restEq
  | str glyphs =>
      have quote : EndsGap true ('"' :: (glyphChars glyphs ++ '"' :: (after.chars ++ d :: rest))) :=
        endsGap_cons rfl rfl (by decide) (by decide)
      have textEq : s.cursor.rest =
          gap.chars ++ '"' :: (glyphChars glyphs ++ '"' :: (after.chars ++ d :: rest)) := by
        rw [restEq, Tree.chars]
        simp only [List.append_assoc, List.cons_append, List.nil_append]
      rcases arrivesAt_of_gap inFlow textEq quote with ⟨c, arrives, atQuote, -⟩
      have read := arrives.emits_quoted calm atQuote
      rw [Tree.tokens?]
      cases foldedEq : folded false .none glyphs with
      | none =>
          rw [foldedEq] at read
          exact read
      | some text =>
          rw [foldedEq] at read
          rcases read with ⟨s', emits, atGap, -⟩
          exact ⟨s', after, emits, atGap⟩
  | arr inner items =>
      have textEq : s.cursor.rest = gap.chars ++
          '[' :: (inner.chars ++ (items.chars true ++ ']' :: (after.chars ++ d :: rest))) := by
        rw [restEq, Tree.chars]
        simp only [List.append_assoc, List.cons_append, List.nil_append]
      have bracket : EndsGap true
          ('[' :: (inner.chars ++ (items.chars true ++ ']' :: (after.chars ++ d :: rest)))) :=
        endsGap_cons rfl rfl (by decide) (by decide)
      rcases arrivesAt_of_gap inFlow textEq bracket with ⟨c, arrives, atBracket, -⟩
      rw [Tree.tokens?]
      apply Lexes.of_collection
      apply lexes_collection arrives calm atBracket Lexer.token_open_bracket
        Lexer.token_close_bracket (endsGap_cons rfl rfl (by decide) (by decide))
      intro s' calm' inFlow' keyAllowed atInside
      exact items.lexes ints true calm' inFlow' (fun _ => keyAllowed) atInside
  | obj inner fields =>
      have textEq : s.cursor.rest = gap.chars ++ '\x7b' ::
          (inner.chars ++ (fields.chars true ++ '\x7d' :: (after.chars ++ d :: rest))) := by
        rw [restEq, Tree.chars]
        simp only [List.append_assoc, List.cons_append, List.nil_append]
      have brace : EndsGap true ('\x7b' ::
          (inner.chars ++ (fields.chars true ++ '\x7d' :: (after.chars ++ d :: rest)))) :=
        endsGap_cons rfl rfl (by decide) (by decide)
      rcases arrivesAt_of_gap inFlow textEq brace with ⟨c, arrives, atBrace, -⟩
      rw [Tree.tokens?]
      apply Lexes.of_collection
      apply lexes_collection arrives calm atBrace Lexer.token_open_brace Lexer.token_close_brace
        (endsGap_cons rfl rfl (by decide) (by decide))
      intro s' calm' inFlow' keyAllowed atInside
      exact fields.lexes ints true calm' inFlow' (fun _ => keyAllowed) atInside

/-- The lexer takes the text of items for their tokens. -/
theorem Items.lexes (items : Items) (ints : items.AllInts) (first : Bool) {s : Lexer} {gap : Gap}
    {rest : List Char} (calm : s.Calm) (inFlow : s.outer ≠ [])
    (allowed : first = true → s.keyAllowed = true)
    (restEq : s.cursor.rest = gap.chars ++ (items.chars first ++ ']' :: rest)) :
    Lexes s (items.tokens? first) (']' :: rest) := by
  cases items with
  | nil => exact ⟨s, gap, ⟨.refl s, calm, rfl, rfl⟩, restEq⟩
  | cons before item after others =>
      rcases others.exists_sign rest with ⟨d, more, signEq, ends⟩
      have textEq : s.cursor.rest = gap.chars ++ (comma first ++
          (before.chars ++ (item.chars ++ (after.chars ++ d :: more)))) := by
        rw [restEq, Items.chars, ← signEq]
        simp only [List.append_assoc]
      rcases emits_comma calm inFlow allowed textEq with ⟨s', gap', emits, -, atItem⟩
      rw [Items.tokens?]
      apply Lexes.of_emits emits
      apply Lexes.andThen (item.lexes ints.1 emits.calm (emits.outer ▸ inFlow) ends atItem)
      intro s'' ts gap'' emits' atSign
      rw [← signEq] at atSign
      exact others.lexes ints.2 false emits'.calm (emits'.outer ▸ emits.outer ▸ inFlow)
        (fun isFirst => absurd isFirst Bool.false_ne_true) atSign

/-- The lexer takes the text of fields for their tokens. -/
theorem Fields.lexes (fields : Fields) (ints : fields.AllInts) (first : Bool) {s : Lexer}
    {gap : Gap} {rest : List Char} (calm : s.Calm) (inFlow : s.outer ≠ [])
    (allowed : first = true → s.keyAllowed = true)
    (restEq : s.cursor.rest = gap.chars ++ (fields.chars first ++ '\x7d' :: rest)) :
    Lexes s (fields.tokens? first) ('\x7d' :: rest) := by
  cases fields with
  | nil => exact ⟨s, gap, ⟨.refl s, calm, rfl, rfl⟩, restEq⟩
  | cons before key afterKey beforeValue value after others =>
      rcases others.exists_sign rest with ⟨d, more, signEq, ends⟩
      have textEq : s.cursor.rest = gap.chars ++ (comma first ++
          (before.chars ++ '"' :: (glyphChars key ++ '"' :: (afterKey.chars ++ ':' ::
            (beforeValue.chars ++ (value.chars ++ (after.chars ++ d :: more))))))) := by
        rw [restEq, Fields.chars, ← signEq]
        simp only [List.append_assoc, List.cons_append]
      rcases emits_comma calm inFlow allowed textEq with ⟨s', gap', emits, keyAllowed, atKey⟩
      rw [Fields.tokens?]
      apply Lexes.of_emits emits
      apply Lexes.andThen (lexes_key emits.calm (emits.outer ▸ inFlow) keyAllowed atKey)
      intro s'' ts gap'' emits' atValue
      have atGap : s''.cursor.rest = (gap''.append beforeValue).chars ++
          (value.chars ++ (after.chars ++ d :: more)) := by
        rw [atValue, Gap.append, List.append_assoc]
      have inFlow'' : s''.outer ≠ [] := emits'.outer ▸ emits.outer ▸ inFlow
      apply Lexes.andThen (value.lexes ints.1 emits'.calm inFlow'' ends atGap)
      intro s''' us gap''' emits'' atSign
      rw [← signEq] at atSign
      exact others.lexes ints.2 false emits''.calm (emits''.outer ▸ inFlow'')
        (fun isFirst => absurd isFirst Bool.false_ne_true) atSign

end

end PolicyScan.Json
