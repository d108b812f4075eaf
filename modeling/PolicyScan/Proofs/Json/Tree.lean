import PolicyScan.Proofs.Json.Number
import PolicyScan.Proofs.Outcome

/-!
# The trees of JSON texts

A text of JSON is the rendering of a tree that keeps what the value forgets:
the blanks between the tokens, the way every character of a string is written,
the digits of every number, and the fields that a later one of the same name
replaces.
-/

namespace PolicyScan.Json

/-- Blanks between two tokens. -/
structure Gap where
  chars : List Char
  isBlank_of_mem : ∀ c ∈ chars, isBlank c

namespace Gap

/-- No blanks. -/
def empty : Gap := ⟨[], by simp⟩

/-- The blanks of one gap before those of another. -/
def append (before after : Gap) : Gap where
  chars := before.chars ++ after.chars
  isBlank_of_mem := by
    intro c member
    rcases List.mem_append.mp member with member | member
    · exact before.isBlank_of_mem c member
    · exact after.isBlank_of_mem c member

/-- Reading starts behind the gap. -/
theorem dropBlanks_append (gap : Gap) (s : List Char) :
    dropBlanks (gap.chars ++ s) = dropBlanks s :=
  List.dropWhile_append_of_pos gap.isBlank_of_mem

end Gap

theorem dropBlanks_cons_of_not_isBlank {c : Char} (notBlank : isBlank c = false) (s : List Char) :
    dropBlanks (c :: s) = c :: s :=
  List.dropWhile_cons_of_neg (by simp [notBlank])

/-- A text is a gap and what reading goes on with. -/
theorem exists_gap_append_dropBlanks (s : List Char) :
    ∃ gap : Gap, s = gap.chars ++ dropBlanks s :=
  ⟨⟨s.takeWhile isBlank, fun _ => List.mem_takeWhile_imp⟩,
    List.takeWhile_append_dropWhile.symm⟩

/-! ## Strings -/

/-- A hexadecimal digit. -/
structure HexDigit where
  char : Char
  value : Nat
  hexValue?_char : hexValue? char = some value

/-- The four digits of a numeric escape. -/
structure HexQuad where
  a : HexDigit
  b : HexDigit
  c : HexDigit
  d : HexDigit

namespace HexQuad

/-- The digits as characters. -/
def chars (quad : HexQuad) : List Char := [quad.a.char, quad.b.char, quad.c.char, quad.d.char]

/-- The number that the digits write. -/
def value (quad : HexQuad) : Nat :=
  ((quad.a.value * 16 + quad.b.value) * 16 + quad.c.value) * 16 + quad.d.value

theorem hexEscape_append (quad : HexQuad) (rest : List Char) :
    hexEscape (quad.chars ++ rest) = .ok (quad.value, rest) := by
  simp [hexEscape, chars, value, HexDigit.hexValue?_char]

end HexQuad

theorem exists_of_hexEscape {s rest : List Char} {n : Nat} (read : hexEscape s = .ok (n, rest)) :
    ∃ quad : HexQuad, s = quad.chars ++ rest ∧ quad.value = n := by
  unfold hexEscape at read
  split at read
  · split at read
    · rename_i readA readB readC readD
      cases read
      exact ⟨⟨⟨_, _, readA⟩, ⟨_, _, readB⟩, ⟨_, _, readC⟩, ⟨_, _, readD⟩⟩, rfl, rfl⟩
    · contradiction
  · split at read <;> contradiction

/-- One character of a string, as it is written. -/
inductive Glyph where
  /-- The character itself. -/
  | plain (c : Char) (notQuote : c ≠ '"') (notBackslash : c ≠ '\\') (notControl : ¬c.toNat < 0x20)
  /-- A backslash and a letter. -/
  | short (letter c : Char) (stands : shortEscape? letter = some c)
  /-- Its number. -/
  | unicode (quad : HexQuad) (notTrail : ¬(0xDC00 ≤ quad.value ∧ quad.value ≤ 0xDFFF))
    (notLead : quad.value < 0xD800 ∨ 0xDBFF < quad.value)
  /-- The halves of a surrogate pair. -/
  | pair (lead trail : HexQuad) (isLead : 0xD800 ≤ lead.value ∧ lead.value ≤ 0xDBFF)
    (isTrail : 0xDC00 ≤ trail.value ∧ trail.value ≤ 0xDFFF)

namespace Glyph

/-- The characters that write it. -/
def chars : Glyph → List Char
  | plain c _ _ _ => [c]
  | short letter _ _ => ['\\', letter]
  | unicode quad _ _ => '\\' :: 'u' :: quad.chars
  | pair lead trail _ _ => '\\' :: 'u' :: lead.chars ++ '\\' :: 'u' :: trail.chars

/-- The character that is written. -/
def char : Glyph → Char
  | plain c _ _ _ => c
  | short _ c _ => c
  | unicode quad _ _ => Char.ofNat quad.value
  | pair lead trail _ _ =>
    Char.ofNat ((lead.value - 0xD800) * 0x400 + (trail.value - 0xDC00) + 0x10000)

/-- Whether it is written as a surrogate pair. -/
def isPair : Glyph → Bool
  | pair _ _ _ _ => true
  | _ => false

theorem chars_ne_nil (glyph : Glyph) : glyph.chars ≠ [] := by
  cases glyph <;> simp [chars]

/-- The reader takes what writes a character for the character. -/
theorem stringChar_append (glyph : Glyph) (rest : List Char) :
    stringChar (glyph.chars ++ rest) = .ok (some glyph.char, rest) := by
  cases glyph with
  | plain c notQuote notBackslash notControl =>
      rw [chars, char, List.singleton_append, stringChar.eq_def]
      split
      all_goals simp_all
  | short letter c stands =>
      have notU : letter ≠ 'u' := by
        rintro rfl
        simp [shortEscape?] at stands
      simp only [chars, char, List.cons_append, List.nil_append, stringChar.eq_def]
      split
      all_goals simp_all
  | unicode quad notTrail notLead =>
      have read : unicodeEscape (quad.chars ++ rest) = .ok (Char.ofNat quad.value, rest) := by
        simp only [unicodeEscape, quad.hexEscape_append]
        simp only [bind, Except.bind, if_neg notTrail, if_pos notLead]
      simp [chars, char, stringChar, read, Except.map]
  | pair lead trail isLead isTrail =>
      have notTrail : ¬(0xDC00 ≤ lead.value ∧ lead.value ≤ 0xDFFF) := by omega
      have notLead : ¬(lead.value < 0xD800 ∨ 0xDBFF < lead.value) := by omega
      have notLone : ¬(trail.value < 0xDC00 ∨ 0xDFFF < trail.value) := by omega
      have read : unicodeEscape (lead.chars ++ '\\' :: 'u' :: (trail.chars ++ rest)) =
          .ok (char (pair lead trail isLead isTrail), rest) := by
        simp only [unicodeEscape, lead.hexEscape_append]
        simp only [bind, Except.bind, if_neg notTrail, if_neg notLead, trail.hexEscape_append,
          if_neg notLone]
        rfl
      simp [chars, stringChar, read, Except.map]

end Glyph

theorem exists_glyph_of_unicodeEscape {s rest : List Char} {c : Char}
    (read : unicodeEscape s = .ok (c, rest)) :
    ∃ glyph : Glyph, '\\' :: 'u' :: s = glyph.chars ++ rest ∧ glyph.char = c := by
  obtain ⟨⟨n, tail⟩, first, read⟩ := bind_eq_ok_iff.mp read
  obtain ⟨lead, rfl, rfl⟩ := exists_of_hexEscape first
  simp only at read
  split at read
  · contradiction
  · rename_i notTrail
    split at read
    · rename_i notLead
      obtain ⟨rfl, rfl⟩ := Prod.mk.inj (Except.ok.inj read)
      exact ⟨.unicode lead notTrail notLead, rfl, rfl⟩
    · rename_i isLead
      split at read
      · contradiction
      · obtain ⟨⟨m, tail⟩, second, read⟩ := bind_eq_ok_iff.mp read
        obtain ⟨trail, rfl, rfl⟩ := exists_of_hexEscape second
        simp only at read
        split at read
        · contradiction
        · obtain ⟨rfl, rfl⟩ := Prod.mk.inj (Except.ok.inj read)
          exact ⟨.pair lead trail (by omega) (by omega), by simp [Glyph.chars], rfl⟩
      all_goals contradiction

/-- A character that is read is written in one of the ways. -/
theorem exists_glyph_of_stringChar {s rest : List Char} {c : Char}
    (read : stringChar s = .ok (some c, rest)) :
    ∃ glyph : Glyph, s = glyph.chars ++ rest ∧ glyph.char = c := by
  unfold stringChar at read
  split at read
  · contradiction
  · cases read
  · contradiction
  · obtain ⟨⟨d, tail⟩, escaped, equal⟩ := map_eq_ok_iff.mp read
    cases equal
    exact exists_glyph_of_unicodeEscape escaped
  · split at read
    · rename_i letter tail notU stands
      cases read
      exact ⟨.short _ _ stands, rfl, rfl⟩
    · contradiction
  · rename_i d tail notQuote notAlone notUnicode notEscape
    split at read
    · contradiction
    · rename_i notControl
      cases read
      refine ⟨.plain _ ?_ ?_ notControl, rfl, rfl⟩
      · rintro rfl
        exact notQuote rfl
      · rintro rfl
        rcases rest with _ | ⟨e, rest⟩
        · exact notAlone rfl rfl
        · exact notEscape e rest rfl rfl

theorem exists_rest_of_stringChar_none {s rest : List Char}
    (read : stringChar s = .ok (none, rest)) : s = '"' :: rest := by
  unfold stringChar at read
  split at read
  · contradiction
  · cases read
    rfl
  · contradiction
  · obtain ⟨⟨d, tail⟩, -, equal⟩ := map_eq_ok_iff.mp read
    cases equal
  · split at read <;> simp at read
  · split at read <;> simp at read

/-- The characters that write a text inside of its quotes. -/
def glyphChars (glyphs : List Glyph) : List Char := glyphs.flatMap Glyph.chars

/-- The text that is written. -/
def glyphText (glyphs : List Glyph) : String := String.ofList (glyphs.map Glyph.char)

theorem length_le_length_glyphChars (glyphs : List Glyph) :
    glyphs.length ≤ (glyphChars glyphs).length := by
  induction glyphs with
  | nil => exact Nat.le_refl _
  | cons glyph glyphs ih =>
      have pos := List.length_pos_iff.mpr glyph.chars_ne_nil
      simp only [glyphChars, List.flatMap_cons, List.length_append, List.length_cons] at ih ⊢
      omega

theorem stringChars_append (glyphs : List Glyph) (bound rest acc : List Char)
    (enough : glyphs.length < bound.length) :
    stringChars bound (glyphChars glyphs ++ '"' :: rest) acc =
      .ok (acc.reverse ++ glyphs.map Glyph.char, rest) := by
  induction glyphs generalizing bound acc with
  | nil =>
      rcases bound with _ | ⟨b, bound⟩
      · simp at enough
      · simp [glyphChars, stringChars, stringChar, bind, Except.bind]
  | cons glyph glyphs ih =>
      rcases bound with _ | ⟨b, bound⟩
      · simp at enough
      · have read := glyph.stringChar_append (glyphChars glyphs ++ '"' :: rest)
        have later := ih bound (glyph.char :: acc) (by simpa using enough)
        simp only [glyphChars, List.flatMap_cons, List.append_assoc] at read later ⊢
        simp only [stringChars, read, bind, Except.bind, later, List.reverse_cons,
          List.append_assoc, List.singleton_append, List.map_cons]

/-- The reader takes what writes a text for the text. -/
theorem string_append (glyphs : List Glyph) (rest : List Char) :
    string (glyphChars glyphs ++ '"' :: rest) = .ok (glyphText glyphs, rest) := by
  have enough : glyphs.length < (glyphChars glyphs ++ '"' :: rest).length := by
    have := length_le_length_glyphChars glyphs
    simp only [List.length_append, List.length_cons]
    omega
  rw [string, stringChars_append glyphs _ rest [] enough]
  rfl

theorem exists_glyphs_of_stringChars {bound s acc text rest : List Char}
    (read : stringChars bound s acc = .ok (text, rest)) :
    ∃ glyphs, s = glyphChars glyphs ++ '"' :: rest ∧
      text = acc.reverse ++ glyphs.map Glyph.char := by
  induction bound generalizing s acc with
  | nil => contradiction
  | cons b bound ih =>
      obtain ⟨⟨c?, tail⟩, first, read⟩ := bind_eq_ok_iff.mp read
      cases c? with
      | none =>
          cases read
          exact ⟨[], exists_rest_of_stringChar_none first, by simp⟩
      | some c =>
          obtain ⟨glyph, rfl, rfl⟩ := exists_glyph_of_stringChar first
          obtain ⟨glyphs, rfl, rfl⟩ := ih read
          exact ⟨glyph :: glyphs, by simp [glyphChars], by simp⟩

/-- A text that is read is written in some way. -/
theorem exists_glyphs_of_string {s rest : List Char} {text : String}
    (read : string s = .ok (text, rest)) :
    ∃ glyphs, s = glyphChars glyphs ++ '"' :: rest ∧ text = glyphText glyphs := by
  obtain ⟨⟨chars, tail⟩, inside, equal⟩ := map_eq_ok_iff.mp read
  cases equal
  obtain ⟨glyphs, equal, rfl⟩ := exists_glyphs_of_stringChars inside
  exact ⟨glyphs, equal, rfl⟩

/-! ## Trees -/

/-- The reader takes the text for the number. -/
def NumberText (text : List Char) (n : Number) : Prop :=
  ∃ rest, readNumber (text ++ rest) = .ok (n, rest)

theorem NumberText.intText {text : List Char} {value : Int} {inRange : Number.InRange value}
    (written : NumberText text (.int value inRange)) : IntText text value := by
  obtain ⟨rest, read⟩ := written
  obtain ⟨text', equal, isInt⟩ := exists_text_of_readNumber read
  obtain rfl := List.append_cancel_right equal
  exact isInt value inRange rfl

mutual

/-- A value as a text writes it. -/
inductive Tree where
  | null
  | bool (value : Bool)
  | num (text : List Char) (n : Number) (written : NumberText text n)
  | str (glyphs : List Glyph)
  /-- An array with a gap after its opening bracket. -/
  | arr (gap : Gap) (items : Items)
  /-- An object with a gap after its opening bracket. -/
  | obj (gap : Gap) (fields : Fields)

/-- The items of an array. -/
inductive Items where
  | nil
  | cons (before : Gap) (item : Tree) (after : Gap) (rest : Items)

/-- The fields of an object. -/
inductive Fields where
  | nil
  | cons (before : Gap) (key : List Glyph) (afterKey beforeValue : Gap) (value : Tree)
    (after : Gap) (rest : Fields)

end

/-- The comma before an item; none stands before the first one. -/
def comma (first : Bool) : List Char := if first then [] else [',']

mutual

/-- The text of a tree. -/
def Tree.chars : Tree → List Char
  | .null => ['n', 'u', 'l', 'l']
  | .bool true => ['t', 'r', 'u', 'e']
  | .bool false => ['f', 'a', 'l', 's', 'e']
  | .num text _ _ => text
  | .str glyphs => '"' :: glyphChars glyphs ++ ['"']
  | .arr gap items => '[' :: gap.chars ++ items.chars true ++ [']']
  | .obj gap fields => '\x7b' :: gap.chars ++ fields.chars true ++ ['\x7d']

/-- The text of the items, with a comma before all but the first. -/
def Items.chars (first : Bool) : Items → List Char
  | .nil => []
  | .cons before item after rest =>
    comma first ++ before.chars ++ item.chars ++ after.chars ++ rest.chars false

/-- The text of the fields, with a comma before all but the first. -/
def Fields.chars (first : Bool) : Fields → List Char
  | .nil => []
  | .cons before key afterKey beforeValue value after rest =>
    comma first ++ before.chars ++ '"' :: glyphChars key ++ '"' :: afterKey.chars ++
      ':' :: beforeValue.chars ++ value.chars ++ after.chars ++ rest.chars false

end

mutual

/-- The value of a tree. -/
def Tree.value : Tree → Json
  | .null => .null
  | .bool value => .bool value
  | .num _ n _ => .num n
  | .str glyphs => .str (glyphText glyphs)
  | .arr _ items => .arr items.values
  | .obj _ fields => .ofFields fields.values

/-- The values of the items. -/
def Items.values : Items → List Json
  | .nil => []
  | .cons _ item _ rest => item.value :: rest.values

/-- The fields with their values, replaced ones included. -/
def Fields.values : Fields → List (String × Json)
  | .nil => []
  | .cons _ key _ _ value _ rest => (glyphText key, value.value) :: rest.values

end

mutual

/-- How many collections are nested in one another, replaced fields included. -/
def Tree.depth : Tree → Nat
  | .arr _ items => items.depth + 1
  | .obj _ fields => fields.depth + 1
  | _ => 0

/-- The greatest depth of the items. -/
def Items.depth : Items → Nat
  | .nil => 0
  | .cons _ item _ rest => max item.depth rest.depth

/-- The greatest depth of the fields' values. -/
def Fields.depth : Fields → Nat
  | .nil => 0
  | .cons _ _ _ _ value _ rest => max value.depth rest.depth

end

mutual

/-- Every number of the text is a whole one. -/
def Tree.AllInts : Tree → Prop
  | .num _ n _ => ∃ value inRange, n = .int value inRange
  | .arr _ items => items.AllInts
  | .obj _ fields => fields.AllInts
  | _ => True

/-- Every number of the items is a whole one. -/
def Items.AllInts : Items → Prop
  | .nil => True
  | .cons _ item _ rest => item.AllInts ∧ rest.AllInts

/-- Every number of the fields' values is a whole one. -/
def Fields.AllInts : Fields → Prop
  | .nil => True
  | .cons _ _ _ _ value _ rest => value.AllInts ∧ rest.AllInts

end

/-- The number of items. -/
def Items.length : Items → Nat
  | .nil => 0
  | .cons _ _ _ rest => rest.length + 1

/-- The number of fields. -/
def Fields.length : Fields → Nat
  | .nil => 0
  | .cons _ _ _ _ _ _ rest => rest.length + 1

end PolicyScan.Json
