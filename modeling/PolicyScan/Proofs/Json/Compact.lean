import PolicyScan.Json.Writer
import PolicyScan.Proofs.Json.Canonical
import PolicyScan.Proofs.Json.Reading

/-!
# Compact texts are read back

The compact text of a canonical value is the text of a tree of its depth, so
the reader gives the value back if it is nested no deeper than the reader
allows (`ofChars?_compactChars`), and otherwise stops at the first collection
that is nested too deep.
-/

namespace PolicyScan.Json

theorem hexValue?_hexDigit : ∀ n, n < 16 → hexValue? (hexDigit n) = some n := by
  decide

/-- A character is written as a glyph. -/
theorem exists_glyph_of_escapeChar (c : Char) :
    ∃ glyph : Glyph, glyph.chars = escapeChar c ∧ glyph.char = c := by
  unfold escapeChar
  split
  · exact ⟨.short '"' '"' rfl, rfl, rfl⟩
  · exact ⟨.short '\\' '\\' rfl, rfl, rfl⟩
  · exact ⟨.short 'b' '\x08' rfl, rfl, rfl⟩
  · exact ⟨.short 'f' '\x0c' rfl, rfl, rfl⟩
  · exact ⟨.short 'n' '\n' rfl, rfl, rfl⟩
  · exact ⟨.short 'r' '\r' rfl, rfl, rfl⟩
  · exact ⟨.short 't' '\t' rfl, rfl, rfl⟩
  · rename_i notQuote notBackslash _ _ _ _ _
    split
    · rename_i control
      let zero : HexDigit := ⟨'0', 0, rfl⟩
      let quad : HexQuad :=
        ⟨zero, zero, ⟨_, _, hexValue?_hexDigit (c.toNat / 16) (by omega)⟩,
          ⟨_, _, hexValue?_hexDigit (c.toNat % 16) (by omega)⟩⟩
      have valueEq : quad.value = c.toNat := by
        simp only [HexQuad.value, quad, zero]
        omega
      refine ⟨.unicode quad (by omega) (by omega), rfl, ?_⟩
      rw [Glyph.char, valueEq, Char.ofNat_toNat]
    · rename_i notControl
      exact ⟨.plain c notQuote notBackslash notControl, rfl, rfl⟩

theorem exists_glyphs_of_flatMap_escapeChar (text : List Char) :
    ∃ glyphs, glyphChars glyphs = text.flatMap escapeChar ∧ glyphs.map Glyph.char = text := by
  induction text with
  | nil => exact ⟨[], rfl, rfl⟩
  | cons c text ih =>
      obtain ⟨glyph, charsEq, charEq⟩ := exists_glyph_of_escapeChar c
      obtain ⟨glyphs, glyphsEq, textEq⟩ := ih
      refine ⟨glyph :: glyphs, ?_, by rw [List.map_cons, charEq, textEq]⟩
      rw [glyphChars, List.flatMap_cons, charsEq, List.flatMap_cons, ← glyphsEq]
      rfl

theorem exists_glyphs_of_quote (text : String) :
    ∃ glyphs, '"' :: glyphChars glyphs ++ ['"'] = quote text.toList ∧ glyphText glyphs = text := by
  obtain ⟨glyphs, charsEq, textEq⟩ := exists_glyphs_of_flatMap_escapeChar text.toList
  exact ⟨glyphs, by rw [charsEq]; rfl, by rw [glyphText, textEq, String.ofList_toList]⟩

theorem joinWith_cons (sep part : List Char) (parts : List (List Char)) :
    joinWith sep (part :: parts) = part ++ parts.flatMap (sep ++ ·) := by
  induction parts generalizing part with
  | nil => rw [joinWith, List.flatMap_nil, List.append_nil]
  | cons next parts ih =>
      rw [joinWith, ih, List.flatMap_cons]
      · simp only [List.append_assoc]
      · simp

/-- Parts as items write them: with a comma before every part but the first. -/
def separated (first : Bool) (parts : List (List Char)) : List Char :=
  match first with
  | true => joinWith [','] parts
  | false => parts.flatMap ([','] ++ ·)

theorem separated_cons (first : Bool) (part : List Char) (parts : List (List Char)) :
    separated first (part :: parts) = comma first ++ (part ++ separated false parts) := by
  cases first with
  | true => rw [separated, joinWith_cons]; rfl
  | false => rw [separated, List.flatMap_cons, List.append_assoc]; rfl

theorem numberText_toString (value : Int) (inRange : Number.InRange value) :
    NumberText (toString value).toList (.int value inRange) :=
  ⟨[], readNumber_append (intText_toString value) inRange (by rintro c rest equal; contradiction)⟩

mutual

/-- A canonical value has a tree that its compact text renders. -/
theorem exists_tree_of_compactChars : (v : Json) → v.AllInts → v.Canonical →
    ∃ tree : Tree, tree.chars = compactChars v ∧ tree.value = v ∧ tree.depth = v.depth
  | .null, _, _ => ⟨.null, rfl, rfl, rfl⟩
  | .bool true, _, _ => ⟨.bool true, rfl, rfl, rfl⟩
  | .bool false, _, _ => ⟨.bool false, rfl, rfl, rfl⟩
  | .num n, ints, _ => by
      obtain ⟨value, inRange, rfl⟩ := ints
      exact ⟨.num _ _ (numberText_toString value inRange), rfl, rfl, rfl⟩
  | .str text, _, _ => by
      obtain ⟨glyphs, charsEq, textEq⟩ := exists_glyphs_of_quote text
      exact ⟨.str glyphs, charsEq, by rw [Tree.value, textEq], rfl⟩
  | .arr items, ints, canonical => by
      obtain ⟨written, charsEq, valuesEq, depthEq⟩ :=
        exists_items_of_compactItems items ints canonical
      refine ⟨.arr .empty written, ?_, by rw [Tree.value, valuesEq],
        by rw [Tree.depth, depthEq, Json.depth]⟩
      rw [Tree.chars, charsEq]
      rfl
  | .obj fields, ints, canonical => by
      obtain ⟨written, charsEq, valuesEq, depthEq⟩ :=
        exists_fields_of_compactFields fields ints canonical.2
      refine ⟨.obj .empty written, ?_, ?_, by rw [Tree.depth, depthEq, Json.depth]⟩
      · rw [Tree.chars, charsEq]
        rfl
      · rw [Tree.value, valuesEq, ofFields_of_sorted canonical.1]

/-- So have the items of an array. -/
theorem exists_items_of_compactItems : (items : List Json) → AllIntsItems items →
    CanonicalItems items →
    ∃ written : Items, (∀ first, written.chars first = separated first (compactItems items)) ∧
      written.values = items ∧ written.depth = depthItems items
  | [], _, _ => ⟨.nil, by intro first; cases first <;> rfl, rfl, rfl⟩
  | item :: rest, ints, canonical => by
      obtain ⟨tree, charsEq, valueEq, depthEq⟩ :=
        exists_tree_of_compactChars item ints.1 canonical.1
      obtain ⟨written, restEq, valuesEq, restDepthEq⟩ :=
        exists_items_of_compactItems rest ints.2 canonical.2
      refine ⟨.cons .empty tree .empty written, ?_, by rw [Items.values, valueEq, valuesEq],
        by rw [Items.depth, depthEq, restDepthEq, depthItems]⟩
      intro first
      rw [Items.chars, compactItems, separated_cons, charsEq, restEq]
      simp [Gap.empty]

/-- So have the fields of an object. -/
theorem exists_fields_of_compactFields : (fields : List (String × Json)) →
    AllIntsFields fields → CanonicalFields fields →
    ∃ written : Fields, (∀ first, written.chars first = separated first (compactFields fields)) ∧
      written.values = fields ∧ written.depth = depthFields fields
  | [], _, _ => ⟨.nil, by intro first; cases first <;> rfl, rfl, rfl⟩
  | (key, value) :: rest, ints, canonical => by
      obtain ⟨glyphs, keyEq, textEq⟩ := exists_glyphs_of_quote key
      obtain ⟨tree, charsEq, valueEq, depthEq⟩ :=
        exists_tree_of_compactChars value ints.1 canonical.1
      obtain ⟨written, restEq, valuesEq, restDepthEq⟩ :=
        exists_fields_of_compactFields rest ints.2 canonical.2
      refine ⟨.cons .empty glyphs .empty .empty tree .empty written, ?_,
        by rw [Fields.values, textEq, valueEq, valuesEq],
        by rw [Fields.depth, depthEq, restDepthEq, depthFields]⟩
      intro first
      rw [Fields.chars, compactFields, separated_cons, charsEq, restEq, ← keyEq]
      simp [Gap.empty]

end

/-- The compact text of a canonical value with whole numbers only is read back
if the value is nested less than `nestingLimit` deep, and refused for its depth
otherwise. -/
theorem ofChars?_compactChars {v : Json} (ints : v.AllInts) (canonical : v.Canonical) :
    v.depth < nestingLimit ∧ ofChars? (compactChars v) = .ok v ∨
      nestingLimit ≤ v.depth ∧
        ∃ place, ofChars? (compactChars v) = .error (.next .nestedTooDeep place) := by
  obtain ⟨tree, charsEq, valueEq, depthEq⟩ := exists_tree_of_compactChars v ints canonical
  have read := tree.ofChars?_chars .empty .empty
  rw [charsEq, valueEq, depthEq, Gap.empty, List.nil_append, List.append_nil] at read
  exact read

end PolicyScan.Json
