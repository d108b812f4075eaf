import PolicyScan.Proofs.Json.Tree
import PolicyScan.Proofs.Yaml.Cursor
import PolicyScan.Yaml.Token.Scalar

/-!
# Strings of JSON as quoted scalars

Most characters of a string stand for themselves in a quoted scalar of YAML as
well.  The halves of a surrogate pair do not, and a line or paragraph separator
or a next line character ends a line, where the blanks around it are lost and
the mark of a document is a fault (`folded`, `quoted_glyphChars`).
-/

namespace PolicyScan.Yaml

open Json (Glyph HexQuad glyphChars)

/-- A text that starts with the mark of a document. -/
def startsMark (s : List Char) : Bool := Cursor.atDocumentMark ⟨s, 0, 0, 0⟩

/-- The text that a quoted scalar takes from the characters of a string, after a
gap and maybe at the start of a line; none if they are a fault. -/
def folded : (lineStart : Bool) → Gap → List Glyph → Option (List Char)
  | _, gap, [] => some gap.folded.reverse
  | lineStart, gap, .plain c _ _ _ :: glyphs =>
    if isBlank c then folded false (gap.addBlank c) glyphs
    else if isBreak c then
      folded true (gap.addBreak [if c = '\u2028' ∨ c = '\u2029' then c else '\n']) glyphs
    else if lineStart && startsMark (c :: glyphChars glyphs ++ ['"']) then none
    else (folded false .none glyphs).map fun text => gap.folded.reverse ++ c :: text
  | _, gap, .short _ c _ :: glyphs =>
    (folded false .none glyphs).map fun text => gap.folded.reverse ++ c :: text
  | _, gap, .unicode quad _ _ :: glyphs =>
    (folded false .none glyphs).map fun text => gap.folded.reverse ++ Char.ofNat quad.value :: text
  | _, _, .pair _ _ _ _ :: _ => none

theorem atDocumentMark_eq (c : Cursor) :
    c.atDocumentMark = (decide (c.column = 0) && startsMark c.rest) := rfl

/-- What comes after the closing quote makes no mark. -/
theorem startsMark_append_quote (s rest : List Char) :
    startsMark (s ++ '"' :: rest) = startsMark (s ++ ['"']) := by
  rcases s with _ | ⟨x, _ | ⟨y, _ | ⟨z, _ | ⟨w, s⟩⟩⟩⟩
  · rcases rest with _ | ⟨a, _ | ⟨b, rest⟩⟩ <;> rfl
  · rcases rest with _ | ⟨a, rest⟩
    · rfl
    · simp [startsMark, Cursor.atDocumentMark, Cursor.atTriple]
  · simp [startsMark, Cursor.atDocumentMark, Cursor.atTriple]
  · rfl
  · rfl

/-- A mark starts with the same character twice. -/
theorem not_atTriple_of_unlike {c : Cursor} {x y : Char} {s : List Char}
    (restEq : c.rest = x :: y :: s) (unlike : x ≠ y) (mark : Char) : c.atTriple mark = false := by
  rcases s with _ | ⟨z, s⟩
  · rw [Cursor.atTriple, restEq]
  · have notBoth : ¬(x = mark ∧ y = mark) := fun both => unlike (both.1.trans both.2.symm)
    simp only [Cursor.atTriple, restEq, ← Bool.decide_and, notBoth]
    rfl

/-! ## One step of the reader -/

section Steps

variable {fuel : Nat} {c : Cursor} {gap : Gap} {acc rest : List Char} {d : Char}

theorem quoted_blank (restEq : c.rest = d :: rest) (blank : isBlank d) :
    quoted false (fuel + 1) c gap acc = quoted false fuel c.next (gap.addBlank d) acc := by
  rw [quoted]
  simp only [restEq, if_pos blank]

theorem quoted_break (restEq : c.rest = d :: rest) (ends : isBreak d) :
    quoted false (fuel + 1) c gap acc =
      quoted false fuel c.takeBreak.2 (gap.addBreak c.takeBreak.1) acc := by
  have solid : ¬isBlank d := not_isBlank_of_isBreak ends
  rw [quoted]
  simp only [restEq, if_neg solid, if_pos ends]

theorem quoted_mark (restEq : c.rest = d :: rest) (solid : ¬isBlank d) (inside : ¬isBreak d)
    (marked : c.atDocumentMark) :
    quoted false (fuel + 1) c gap acc = .error .markInQuote := by
  rw [quoted]
  simp only [restEq, if_neg solid, if_neg inside, if_pos marked]

theorem quoted_end (restEq : c.rest = '"' :: rest) (noMark : ¬c.atDocumentMark) :
    quoted false (fuel + 1) c gap acc = .ok ((gap.folded ++ acc).reverse, c.next) := by
  rw [quoted]
  simp only [restEq, if_neg noMark]
  rfl

theorem quoted_char (restEq : c.rest = d :: rest) (solid : ¬isBlank d) (inside : ¬isBreak d)
    (noMark : ¬c.atDocumentMark) (notQuote : d ≠ '"') (notBackslash : d ≠ '\\') :
    quoted false (fuel + 1) c gap acc =
      quoted false fuel c.next .none (d :: (gap.folded ++ acc)) := by
  rw [quoted]
  simp only [restEq, if_neg solid, if_neg inside, if_neg noMark, if_neg notQuote,
    if_neg notBackslash]
  rfl

theorem quoted_escape {e : Char} (restEq : c.rest = '\\' :: e :: rest) (inside : ¬isBreak e)
    (noMark : ¬c.atDocumentMark) {char : Char} {after : Cursor}
    (escaped : escape c.next = .ok (char, after)) :
    quoted false (fuel + 1) c gap acc =
      quoted false fuel after .none (char :: (gap.folded ++ acc)) := by
  have stays : ¬(e :: rest ≠ [] ∧ atLineEnd (e :: rest)) := fun both => inside both.2
  rw [quoted]
  simp only [restEq, if_neg noMark, if_neg stays, escaped]
  rfl

theorem quoted_badEscape {e : Char} (restEq : c.rest = '\\' :: e :: rest) (inside : ¬isBreak e)
    (noMark : ¬c.atDocumentMark) {fault : Fault} (escaped : escape c.next = .error fault) :
    quoted false (fuel + 1) c gap acc = .error fault := by
  have stays : ¬(e :: rest ≠ [] ∧ atLineEnd (e :: rest)) := fun both => inside both.2
  rw [quoted]
  simp only [restEq, if_neg noMark, if_neg stays, escaped]
  rfl

end Steps

/-! ## Escapes -/

/-- The one-letter escapes of JSON are escapes of YAML. -/
theorem shortEscape?_of_json {letter c : Char} (stands : Json.shortEscape? letter = some c) :
    shortEscape? letter = some c := by
  unfold Json.shortEscape? at stands
  split at stands
  all_goals first | contradiction | exact stands

theorem not_isBreak_of_shortEscape? {letter c : Char}
    (stands : Json.shortEscape? letter = some c) : isBreak letter = false := by
  rw [Bool.eq_false_iff]
  intro ends
  rcases isBreak_iff.mp ends with rfl | rfl | rfl | rfl | rfl <;> contradiction

theorem escape_short {c : Cursor} {letter char : Char} {rest : List Char}
    (restEq : c.rest = letter :: rest) (stands : Json.shortEscape? letter = some char) :
    escape c = .ok (char, c.next) := by
  rw [escape]
  simp only [restEq, shortEscape?_of_json stands]

theorem hexValue?_lt {c : Char} {n : Nat} (digit : Json.hexValue? c = some n) : n < 16 := by
  unfold Json.hexValue? at digit
  split at digit
  · rename_i bounds
    have upper : c.toNat ≤ 57 := bounds.2
    cases digit
    omega
  · split at digit
    · rename_i bounds
      have upper : c.toNat ≤ 102 := bounds.2
      cases digit
      omega
    · split at digit
      · rename_i bounds
        have upper : c.toNat ≤ 70 := bounds.2
        cases digit
        omega
      · contradiction

theorem not_isBreak_of_hexValue? {c : Char} {n : Nat} (digit : Json.hexValue? c = some n) :
    isBreak c = false := by
  rw [Bool.eq_false_iff]
  intro ends
  rcases isBreak_iff.mp ends with rfl | rfl | rfl | rfl | rfl <;> contradiction

theorem not_isBreak_of_mem_quad {quad : HexQuad} {c : Char} (member : c ∈ quad.chars) :
    isBreak c = false := by
  simp only [HexQuad.chars, List.mem_cons, List.not_mem_nil, or_false] at member
  rcases member with rfl | rfl | rfl | rfl
  · exact not_isBreak_of_hexValue? quad.a.hexValue?_char
  · exact not_isBreak_of_hexValue? quad.b.hexValue?_char
  · exact not_isBreak_of_hexValue? quad.c.hexValue?_char
  · exact not_isBreak_of_hexValue? quad.d.hexValue?_char

theorem hexNumber?_chars (quad : HexQuad) : hexNumber? quad.chars = some quad.value := by
  simp [hexNumber?, HexQuad.chars, HexQuad.value, Json.HexDigit.hexValue?_char]

theorem value_lt (quad : HexQuad) : quad.value < 0x10000 := by
  have a := hexValue?_lt quad.a.hexValue?_char
  have b := hexValue?_lt quad.b.hexValue?_char
  have c := hexValue?_lt quad.c.hexValue?_char
  have d := hexValue?_lt quad.d.hexValue?_char
  rw [HexQuad.value]
  omega

theorem escape_unicode {c : Cursor} {quad : HexQuad} {rest : List Char}
    (restEq : c.rest = 'u' :: (quad.chars ++ rest)) :
    escape c =
      if quad.value.isValidChar then .ok (Char.ofNat quad.value, c.forward 5)
      else .error .badEscape := by
  have digits : (quad.chars ++ rest).take 4 = quad.chars := rfl
  have noShort : shortEscape? 'u' = Option.none := rfl
  have width : escapeWidth? 'u' = some 4 := rfl
  have length : quad.chars.length = 4 := rfl
  rw [escape]
  simp only [restEq, noShort, width, digits, hexNumber?_chars, length, true_and]

/-! ## Whole strings -/

/-- The reader takes up a text and comes behind the closing quote, or finds a
fault where there is no text. -/
def ReadsQuoted (acc : List Char) (glyphs : List Glyph) (c : Cursor) (text? : Option (List Char))
    (result : Except Fault (List Char × Cursor)) : Prop :=
  match text? with
  | some text =>
    ∃ c', result = .ok (acc.reverse ++ text, c') ∧ c.Passed (glyphChars glyphs ++ ['"']) c'
  | none => ∃ fault, result = .error fault

section Reads

variable {glyph : Glyph} {glyphs : List Glyph} {c c' : Cursor} {gap : Gap} {acc : List Char}
  {text? : Option (List Char)} {result : Except Fault (List Char × Cursor)}

/-- A character of a gap is passed over. -/
theorem ReadsQuoted.cons (passed : c.Passed glyph.chars c')
    (reads : ReadsQuoted acc glyphs c' text? result) :
    ReadsQuoted acc (glyph :: glyphs) c text? result := by
  cases text? with
  | none => exact reads
  | some text =>
      obtain ⟨c'', resultEq, later⟩ := reads
      refine ⟨c'', resultEq, ?_⟩
      rw [glyphChars, List.flatMap_cons, List.append_assoc]
      exact passed.trans later

/-- A character that stands for itself is taken up behind the gap before it. -/
theorem ReadsQuoted.char (char : Char) (passed : c.Passed glyph.chars c')
    (reads : ReadsQuoted (char :: (gap.folded ++ acc)) glyphs c' text? result) :
    ReadsQuoted acc (glyph :: glyphs) c
      (text?.map fun text => gap.folded.reverse ++ char :: text) result := by
  cases text? with
  | none => exact reads
  | some text =>
      obtain ⟨c'', resultEq, later⟩ := reads
      refine ⟨c'', ?_, ?_⟩
      · rw [resultEq]
        simp
      · rw [glyphChars, List.flatMap_cons, List.append_assoc]
        exact passed.trans later

end Reads

theorem not_atDocumentMark {c : Cursor} {d : Char} {rest : List Char} (restEq : c.rest = d :: rest)
    (noHyphen : d ≠ '-') (noDot : d ≠ '.') : ¬c.atDocumentMark := by
  rw [atDocumentMark_eq, restEq]
  rcases rest with _ | ⟨y, _ | ⟨z, rest⟩⟩
  all_goals simp [startsMark, Cursor.atDocumentMark, Cursor.atTriple, noHyphen, noDot]

/-- Wherever the reader comes to the characters of a string and its closing quote, it
takes up what is left of them in folding, and finds a fault where there is no
such text. -/
def ReadsRest (fuel : Nat) (glyphs : List Glyph) (rest : List Char) : Prop :=
  ∀ (c : Cursor) (gap : Gap) (acc : List Char), c.rest = glyphChars glyphs ++ '"' :: rest →
    ReadsQuoted acc glyphs c (folded (c.column = 0) gap glyphs) (quoted false fuel c gap acc)

namespace ReadsRest

variable {fuel : Nat} {glyphs : List Glyph} {rest : List Char} {c : Cursor} {gap : Gap}
  {acc : List Char}

/-- Behind a character that is no gap the rest is read from the start of a gap. -/
theorem onward {glyph : Glyph} {after : Cursor} (later : ReadsRest fuel glyphs rest)
    (restEq : c.rest = glyph.chars ++ (glyphChars glyphs ++ '"' :: rest)) (char : Char)
    (passed : c.Passed glyph.chars after) (inside : ∀ d ∈ glyph.chars, isBreak d = false) :
    ReadsQuoted acc (glyph :: glyphs) c
      ((folded false .none glyphs).map fun text => gap.folded.reverse ++ char :: text)
      (quoted false fuel after .none (char :: (gap.folded ++ acc))) := by
  have afterRest : after.rest = glyphChars glyphs ++ '"' :: rest :=
    List.append_cancel_left (passed.rest.symm.trans restEq)
  have notStart : after.column ≠ 0 := by
    have positive := List.length_pos_iff.mpr glyph.chars_ne_nil
    rw [passed.column inside]
    omega
  have reads := later after .none (char :: (gap.folded ++ acc)) afterRest
  rw [decide_eq_false notStart] at reads
  exact reads.char char passed

/-- A character that is written as itself: a blank and a line end belong to the gap,
the mark of a document is a fault, and any other one is taken up. -/
theorem plain {d : Char} (notQuote : d ≠ '"') (notBackslash : d ≠ '\\')
    (notControl : ¬d.toNat < 0x20) (later : ReadsRest fuel glyphs rest)
    (restEq : c.rest = d :: (glyphChars glyphs ++ '"' :: rest)) :
    ReadsQuoted acc (.plain d notQuote notBackslash notControl :: glyphs) c
      (folded (c.column = 0) gap (.plain d notQuote notBackslash notControl :: glyphs))
      (quoted false (fuel + 1) c gap acc) := by
  have notReturn : d ≠ '\r' := by
    rintro rfl
    exact notControl (by decide)
  rw [folded]
  by_cases blank : isBlank d
  · have inside : isBreak d = false :=
      Bool.eq_false_iff.mpr fun ends => not_isBlank_of_isBreak ends blank
    have reads := later c.next (gap.addBlank d) acc (by rw [Cursor.next_of_cons restEq])
    rw [if_pos blank, quoted_blank restEq blank]
    rw [Cursor.next_of_cons restEq, decide_eq_false (Nat.succ_ne_zero _),
      ← Cursor.next_of_cons restEq] at reads
    exact reads.cons (Cursor.Passed.next restEq inside)
  rw [if_neg blank]
  by_cases ends : isBreak d
  · have column := Cursor.takeBreak_column (c := c) (by rw [restEq]; simp)
    have reads := later c.takeBreak.2 (gap.addBreak c.takeBreak.1) acc
      (by rw [Cursor.takeBreak_of_ne restEq notReturn])
    rw [if_pos ends, quoted_break restEq ends]
    rw [column, decide_eq_true rfl] at reads
    rw [Cursor.takeBreak_of_ne restEq notReturn] at reads ⊢
    have passed := Cursor.Passed.takeBreak_of_ne restEq ends notReturn
    rw [Cursor.takeBreak_of_ne restEq notReturn] at passed
    exact reads.cons passed
  rw [if_neg ends]
  have markEq : c.atDocumentMark =
      (decide (c.column = 0) && startsMark (d :: glyphChars glyphs ++ ['"'])) := by
    rw [atDocumentMark_eq, restEq, ← List.cons_append, startsMark_append_quote]
  rw [← markEq]
  by_cases marked : c.atDocumentMark
  · rw [if_pos marked]
    exact ⟨_, quoted_mark restEq blank ends marked⟩
  · rw [if_neg marked, quoted_char restEq blank ends marked notQuote notBackslash]
    have inside : isBreak d = false := Bool.eq_false_iff.mpr ends
    exact later.onward restEq d (Cursor.Passed.next restEq inside)
      (by simpa [Glyph.chars] using inside)

/-- An escape of one letter. -/
theorem short {letter d : Char} (stands : Json.shortEscape? letter = some d)
    (later : ReadsRest fuel glyphs rest)
    (restEq : c.rest = '\\' :: letter :: (glyphChars glyphs ++ '"' :: rest)) :
    ReadsQuoted acc (.short letter d stands :: glyphs) c
      (folded (c.column = 0) gap (.short letter d stands :: glyphs))
      (quoted false (fuel + 1) c gap acc) := by
  have inside := not_isBreak_of_shortEscape? stands
  have atLetter : c.next.rest = letter :: (glyphChars glyphs ++ '"' :: rest) := by
    rw [Cursor.next_of_cons restEq]
  have passed : c.Passed ['\\', letter] c.next.next :=
    (Cursor.Passed.next restEq rfl).trans (Cursor.Passed.next atLetter inside)
  have noMark := not_atDocumentMark restEq (by decide) (by decide)
  rw [quoted_escape restEq (by simp [inside]) noMark (escape_short atLetter stands)]
  exact later.onward restEq d passed (List.forall_mem_cons.mpr ⟨rfl, by simpa using inside⟩)

/-- The escape of a number that is a character. -/
theorem unicode {quad : HexQuad} (notTrail : ¬(0xDC00 ≤ quad.value ∧ quad.value ≤ 0xDFFF))
    (notLead : quad.value < 0xD800 ∨ 0xDBFF < quad.value) (later : ReadsRest fuel glyphs rest)
    (restEq : c.rest = '\\' :: 'u' :: (quad.chars ++ (glyphChars glyphs ++ '"' :: rest))) :
    ReadsQuoted acc (.unicode quad notTrail notLead :: glyphs) c
      (folded (c.column = 0) gap (.unicode quad notTrail notLead :: glyphs))
      (quoted false (fuel + 1) c gap acc) := by
  have atLetter : c.next.rest = 'u' :: (quad.chars ++ (glyphChars glyphs ++ '"' :: rest)) := by
    rw [Cursor.next_of_cons restEq]
  have valid : quad.value.isValidChar := by
    have small := value_lt quad
    rw [Nat.isValidChar]
    omega
  have escaped := escape_unicode atLetter
  rw [if_pos valid] at escaped
  have insideQuad : ∀ e ∈ 'u' :: quad.chars, isBreak e = false :=
    List.forall_mem_cons.mpr ⟨rfl, fun e member => not_isBreak_of_mem_quad member⟩
  have passed : c.Passed ('\\' :: 'u' :: quad.chars) (c.next.forward 5) :=
    (Cursor.Passed.next restEq rfl).trans (Cursor.Passed.forward atLetter insideQuad)
  have noMark := not_atDocumentMark restEq (by decide) (by decide)
  rw [quoted_escape restEq (by decide) noMark escaped]
  exact later.onward restEq _ passed (List.forall_mem_cons.mpr ⟨rfl, insideQuad⟩)

/-- The first half of a surrogate pair is no character of its own. -/
theorem pair {lead trail : HexQuad} (isLead : 0xD800 ≤ lead.value ∧ lead.value ≤ 0xDBFF)
    (isTrail : 0xDC00 ≤ trail.value ∧ trail.value ≤ 0xDFFF) {more : List Char}
    (restEq : c.rest = '\\' :: 'u' :: (lead.chars ++ more)) :
    ReadsQuoted acc (.pair lead trail isLead isTrail :: glyphs) c
      (folded (c.column = 0) gap (.pair lead trail isLead isTrail :: glyphs))
      (quoted false (fuel + 1) c gap acc) := by
  have atLetter : c.next.rest = 'u' :: (lead.chars ++ more) := by
    rw [Cursor.next_of_cons restEq]
  have invalid : ¬lead.value.isValidChar := by
    rw [Nat.isValidChar]
    omega
  have escaped := escape_unicode atLetter
  rw [if_neg invalid] at escaped
  have noMark := not_atDocumentMark restEq (by decide) (by decide)
  exact ⟨_, quoted_badEscape restEq (by decide) noMark escaped⟩

end ReadsRest

/-- With enough fuel the reader takes up every string. -/
theorem quoted_glyphChars (glyphs : List Glyph) (fuel : Nat) (rest : List Char)
    (enough : (glyphChars glyphs).length < fuel) : ReadsRest fuel glyphs rest := by
  induction glyphs generalizing fuel with
  | nil =>
      intro c gap acc restEq
      obtain ⟨fuel, rfl⟩ := Nat.exists_eq_add_one.mpr (Nat.zero_lt_of_lt enough)
      have atQuote : c.rest = '"' :: rest := restEq
      rw [quoted_end atQuote (not_atDocumentMark atQuote (by decide) (by decide))]
      refine ⟨c.next, ?_, Cursor.Passed.next atQuote rfl⟩
      rw [List.reverse_append]
  | cons glyph glyphs ih =>
      intro c gap acc restEq
      obtain ⟨fuel, rfl⟩ := Nat.exists_eq_add_one.mpr (Nat.zero_lt_of_lt enough)
      rw [glyphChars, List.flatMap_cons, ← glyphChars, List.append_assoc] at restEq
      rw [glyphChars, List.flatMap_cons, ← glyphChars, List.length_append] at enough
      have shorter := List.length_pos_iff.mpr glyph.chars_ne_nil
      have later := ih fuel (by omega)
      cases glyph with
      | plain d notQuote notBackslash notControl =>
          exact later.plain notQuote notBackslash notControl restEq
      | short letter d stands => exact later.short stands restEq
      | unicode quad notTrail notLead => exact later.unicode notTrail notLead restEq
      | pair lead trail isLead isTrail =>
          rw [Glyph.chars] at restEq
          simp only [List.cons_append, List.append_assoc] at restEq
          exact ReadsRest.pair isLead isTrail restEq

/-- A string with a surrogate pair is a fault. -/
theorem isPair_of_folded {lineStart : Bool} {gap : Gap} {glyphs : List Glyph} {text : List Char}
    (foldedEq : folded lineStart gap glyphs = some text) :
    ∀ glyph ∈ glyphs, glyph.isPair = false := by
  induction glyphs generalizing lineStart gap text with
  | nil => exact fun glyph member => absurd member List.not_mem_nil
  | cons glyph glyphs ih =>
      rw [List.forall_mem_cons]
      cases glyph with
      | plain c notQuote notBackslash notControl =>
          refine ⟨rfl, ?_⟩
          rw [folded] at foldedEq
          split at foldedEq
          · exact ih foldedEq
          · split at foldedEq
            · exact ih foldedEq
            · split at foldedEq
              · contradiction
              · rcases Option.map_eq_some_iff.mp foldedEq with ⟨later, laterEq, -⟩
                exact ih laterEq
      | short letter c stands =>
          rcases Option.map_eq_some_iff.mp foldedEq with ⟨later, laterEq, -⟩
          exact ⟨rfl, ih laterEq⟩
      | unicode quad notTrail notLead =>
          rcases Option.map_eq_some_iff.mp foldedEq with ⟨later, laterEq, -⟩
          exact ⟨rfl, ih laterEq⟩
      | pair lead trail isLead isTrail => contradiction

/-- Nothing is folded in a string on one line without surrogate pairs. -/
theorem folded_of_plain {glyphs : List Glyph} (blanks : List Char)
    (noPair : ∀ glyph ∈ glyphs, glyph.isPair = false)
    (inside : ∀ c ∈ glyphChars glyphs, isBreak c = false) :
    folded false (.blanks blanks) glyphs = some (blanks.reverse ++ glyphs.map Glyph.char) := by
  induction glyphs generalizing blanks with
  | nil => simp [folded, Gap.folded]
  | cons glyph glyphs ih =>
      rw [List.forall_mem_cons] at noPair
      rw [glyphChars, List.flatMap_cons, ← glyphChars, List.forall_mem_append] at inside
      have later := ih [] noPair.2 inside.2
      cases glyph with
      | plain c notQuote notBackslash notControl =>
          have insideChar : isBreak c = false := inside.1 c List.mem_cons_self
          rw [folded, insideChar]
          by_cases blank : isBlank c
          · rw [if_pos blank, Gap.addBlank, ih (c :: blanks) noPair.2 inside.2]
            simp [Glyph.char]
          · rw [if_neg blank]
            simp [Gap.none, Gap.folded, later, Glyph.char]
      | short letter c stands => simp [folded, Gap.none, Gap.folded, later, Glyph.char]
      | unicode quad notTrail notLead =>
          simp [folded, Gap.none, Gap.folded, later, Glyph.char]
      | pair lead trail isLead isTrail => simp [Glyph.isPair] at noPair

end PolicyScan.Yaml
