import PolicyScan.Json.Expect
import PolicyScan.Proofs.Json.Canonical
import PolicyScan.Proofs.Json.Reading

/-!
# Reading trees of a known kind

The readers of texts, of names and of lists of texts take the text of a tree for what
it writes, whatever its gaps and escapes are.
-/

namespace PolicyScan.Json

variable {tree : Tree}

/-- Only the tree of a text has a text for its value. -/
theorem exists_glyphs_of_value {text : String} (valueEq : tree.value = .str text) :
    ∃ glyphs, tree = .str glyphs ∧ glyphText glyphs = text := by
  cases tree with
  | str glyphs => exact ⟨glyphs, rfl, str.inj valueEq⟩
  | obj inner fields => rw [Tree.value, ofFields_eq] at valueEq; contradiction
  | _ => rw [Tree.value] at valueEq; contradiction

theorem exists_items_of_value {items : List Json} (valueEq : tree.value = .arr items) :
    ∃ inner written, tree = .arr inner written ∧ written.values = items := by
  cases tree with
  | arr inner written => exact ⟨inner, written, rfl, arr.inj valueEq⟩
  | obj inner fields => rw [Tree.value, ofFields_eq] at valueEq; contradiction
  | _ => rw [Tree.value] at valueEq; contradiction

theorem dropBlanks_str (gap : Gap) (glyphs : List Glyph) (rest : List Char) :
    dropBlanks (gap.chars ++ ((Tree.str glyphs).chars ++ rest)) =
      '"' :: (glyphChars glyphs ++ '"' :: rest) := by
  rw [gap.dropBlanks_append, Tree.chars]
  simp only [List.cons_append, List.append_assoc, List.nil_append]
  exact dropBlanks_cons_of_not_isBlank rfl _

/-- A text is read from any way it is written. -/
theorem textValue_str (gap : Gap) (glyphs : List Glyph) (rest : List Char) :
    textValue (gap.chars ++ ((Tree.str glyphs).chars ++ rest)) =
      .ok (glyphText glyphs, rest) := by
  rw [textValue, dropBlanks_str]
  exact string_append glyphs rest

/-- So is a name that is known. -/
theorem choice_str {α : Type} {options : List (String × α)} {glyphs : List Glyph} {x : α}
    (known : options.lookup (glyphText glyphs) = some x) (gap : Gap) (rest : List Char) :
    choice options (gap.chars ++ ((Tree.str glyphs).chars ++ rest)) = .ok (x, rest) := by
  rw [choice, dropBlanks_str]
  simp only [string_append, bind, Except.bind, chosen, known]
  rfl

theorem itemsWith_textValue {texts : List String} {items : Items}
    (valuesEq : items.values = texts.map .str) (first : Bool) (gap : Gap) (rest : List Char)
    {bound : List Char} (acc : List String) (enough : items.length < bound.length) :
    itemsWith textValue bound first (gap.chars ++ (items.chars first ++ ']' :: rest)) acc =
      .ok (acc.reverse ++ texts, rest) := by
  induction texts generalizing items first gap bound acc with
  | nil =>
      rcases bound with _ | ⟨b, bound⟩
      · simp at enough
      · cases items with
        | nil => rw [Items.chars, List.nil_append, itemsWith_nil, List.append_nil]
        | cons before item after others => rw [Items.values] at valuesEq; contradiction
  | cons text texts ih =>
      rcases bound with _ | ⟨b, bound⟩
      · simp at enough
      · cases items with
        | nil => rw [Items.values] at valuesEq; contradiction
        | cons before item after others =>
            obtain ⟨itemEq, othersEq⟩ := List.cons.inj valuesEq
            obtain ⟨glyphs, rfl, rfl⟩ := exists_glyphs_of_value itemEq
            have textRead := textValue_str .empty glyphs
              (after.chars ++ (others.chars false ++ ']' :: rest))
            simp only [Gap.empty, List.nil_append, Tree.chars, List.cons_append,
              List.append_assoc] at textRead
            simp only [Items.chars, Tree.chars, List.append_assoc, List.cons_append]
            rw [itemsWith_cons textValue gap before ⟨rfl, by simp⟩, itemsWith.next]
            simp only [List.nil_append, textRead, bind, Except.bind]
            rw [ih othersEq false after (glyphText glyphs :: acc)
              (by simpa [Items.length] using enough)]
            simp

/-- A list of texts is read from any tree of its value. -/
theorem listValue_textValue {texts : List String} (valueEq : tree.value = .arr (texts.map .str))
    (gap : Gap) (rest : List Char) :
    listValue textValue (gap.chars ++ (tree.chars ++ rest)) = .ok (texts, rest) := by
  obtain ⟨inner, items, rfl, valuesEq⟩ := exists_items_of_value valueEq
  have start : dropBlanks (gap.chars ++ ((Tree.arr inner items).chars ++ rest)) =
      '[' :: (inner.chars ++ (items.chars true ++ ']' :: rest)) := by
    rw [gap.dropBlanks_append, Tree.chars]
    simp only [List.cons_append, List.append_assoc, List.nil_append]
    exact dropBlanks_cons_of_not_isBlank rfl _
  have enough : items.length < (gap.chars ++ ((Tree.arr inner items).chars ++ rest)).length := by
    have := items.length_le_length_chars true
    simp only [Tree.chars, List.length_append, List.length_cons]
    omega
  rw [listValue, start]
  exact itemsWith_textValue valuesEq true inner rest [] enough

end PolicyScan.Json
