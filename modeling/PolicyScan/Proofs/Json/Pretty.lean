import PolicyScan.Proofs.Json.Compact
import PolicyScan.Proofs.Json.Ordered

/-!
# Indented texts are read back

The indented text of a value is the text of a tree of its depth, whose gaps are the
line breaks between the parts of each collection.  So the reader gives back the value
with its fields in order, if it is nested no deeper than the reader allows
(`parse_pretty`).
-/

namespace PolicyScan.Json

/-! ## The lines of a collection -/

/-- The line break in front of a part, with the blanks that indent it. -/
def lineGap (level : Nat) : Gap where
  chars := newline level
  isBlank_of_mem := by
    intro c member
    rcases List.mem_cons.mp member with rfl | member
    · rfl
    · rw [List.eq_of_mem_replicate member]
      rfl

/-- What follows a part of a collection: the last one has the closing bracket on a
line of its own. -/
def partEnd {α : Type} (level : Nat) : (rest : List α) → Gap
  | [] => lineGap level
  | _ :: _ => .empty

/-- The parts of a collection between its brackets, each on its own line; no comma
stands in front of the first one. -/
def partLines (first : Bool) (level : Nat) : List (List Char) → List Char
  | [] => []
  | part :: rest =>
    comma first ++ ((lineGap (level + 1)).chars ++
      (part ++ ((partEnd level rest).chars ++ partLines false level rest)))

theorem partLines_cons (first : Bool) (level : Nat) (part : List Char) (rest : List (List Char)) :
    partLines first level (part :: rest) = comma first ++ (newline (level + 1) ++
      (joinWith (',' :: newline (level + 1)) (part :: rest) ++ newline level)) := by
  induction rest generalizing first part with
  | nil => simp [partLines, partEnd, lineGap, joinWith]
  | cons next rest ih =>
      rw [partLines, ih, joinWith_cons, joinWith_cons, List.flatMap_cons]
      simp [partEnd, lineGap, Gap.empty, comma]

theorem bracketed_eq (opening closing : Char) (level : Nat) (parts : List (List Char)) :
    bracketed opening closing level parts =
      opening :: (partLines true level parts ++ [closing]) := by
  cases parts with
  | nil => rfl
  | cons part rest =>
      rw [bracketed, partLines_cons]
      · simp [comma]
      · simp

theorem partEnd_prettyItems (level inner : Nat) (rest : List Json) :
    partEnd level (prettyItems inner rest) = partEnd level rest := by
  cases rest <;> rfl

theorem partEnd_prettyFields (level inner : Nat) (rest : List (String × Json)) :
    partEnd level (prettyFields inner rest) = partEnd level rest := by
  rcases rest with _ | ⟨⟨key, value⟩, rest⟩ <;> rfl

/-! ## The trees of indented texts -/

/-- One blank. -/
def spaceGap : Gap := ⟨[' '], by simp [isBlank]⟩

mutual

/-- A value has a tree that its indented text renders. -/
theorem exists_tree_of_prettyChars (level : Nat) : (v : Json) → v.AllInts →
    ∃ tree : Tree, tree.chars = prettyChars level v ∧ tree.value = v.ordered ∧
      tree.depth = v.depth
  | .null, _ => ⟨.null, rfl, rfl, rfl⟩
  | .bool true, _ => ⟨.bool true, rfl, rfl, rfl⟩
  | .bool false, _ => ⟨.bool false, rfl, rfl, rfl⟩
  | .num n, ints => by
      obtain ⟨value, inRange, rfl⟩ := ints
      exact ⟨.num _ _ (numberText_toString value inRange), rfl, rfl, rfl⟩
  | .str text, _ => by
      obtain ⟨glyphs, charsEq, textEq⟩ := exists_glyphs_of_quote text
      exact ⟨.str glyphs, charsEq, by rw [Tree.value, textEq]; rfl, rfl⟩
  | .arr items, ints => by
      obtain ⟨written, charsEq, valuesEq, depthEq⟩ :=
        exists_items_of_prettyItems level items ints
      refine ⟨.arr .empty written, ?_, by rw [Tree.value, valuesEq, ordered],
        by rw [Tree.depth, depthEq, Json.depth]⟩
      rw [Tree.chars, charsEq, prettyChars, bracketed_eq]
      rfl
  | .obj fields, ints => by
      obtain ⟨written, charsEq, valuesEq, depthEq⟩ :=
        exists_fields_of_prettyFields level fields ints
      refine ⟨.obj .empty written, ?_, by rw [Tree.value, valuesEq, ordered],
        by rw [Tree.depth, depthEq, Json.depth]⟩
      rw [Tree.chars, charsEq, prettyChars, bracketed_eq]
      rfl

/-- So have the items of an array. -/
theorem exists_items_of_prettyItems (level : Nat) : (items : List Json) → AllIntsItems items →
    ∃ written : Items,
      (∀ first, written.chars first = partLines first level (prettyItems (level + 1) items)) ∧
        written.values = orderedItems items ∧ written.depth = depthItems items
  | [], _ => ⟨.nil, fun _ => rfl, rfl, rfl⟩
  | item :: rest, ints => by
      obtain ⟨tree, charsEq, valueEq, depthEq⟩ :=
        exists_tree_of_prettyChars (level + 1) item ints.1
      obtain ⟨written, restEq, valuesEq, restDepthEq⟩ :=
        exists_items_of_prettyItems level rest ints.2
      refine ⟨.cons (lineGap (level + 1)) tree (partEnd level rest) written, ?_,
        by rw [Items.values, valueEq, valuesEq, orderedItems],
        by rw [Items.depth, depthEq, restDepthEq, depthItems]⟩
      intro first
      rw [Items.chars, prettyItems, partLines, partEnd_prettyItems, charsEq, restEq]
      simp only [List.append_assoc]

/-- So have the fields of an object. -/
theorem exists_fields_of_prettyFields (level : Nat) : (fields : List (String × Json)) →
    AllIntsFields fields →
    ∃ written : Fields,
      (∀ first, written.chars first = partLines first level (prettyFields (level + 1) fields)) ∧
        written.values = orderedFields fields ∧ written.depth = depthFields fields
  | [], _ => ⟨.nil, fun _ => rfl, rfl, rfl⟩
  | (key, value) :: rest, ints => by
      obtain ⟨glyphs, keyEq, textEq⟩ := exists_glyphs_of_quote key
      obtain ⟨tree, charsEq, valueEq, depthEq⟩ :=
        exists_tree_of_prettyChars (level + 1) value ints.1
      obtain ⟨written, restEq, valuesEq, restDepthEq⟩ :=
        exists_fields_of_prettyFields level rest ints.2
      refine ⟨.cons (lineGap (level + 1)) glyphs .empty spaceGap tree (partEnd level rest) written,
        ?_, by rw [Fields.values, textEq, valueEq, valuesEq, orderedFields],
        by rw [Fields.depth, depthEq, restDepthEq, depthFields]⟩
      intro first
      rw [Fields.chars, prettyFields, partLines, partEnd_prettyFields, charsEq, restEq, ← keyEq]
      simp [Gap.empty, spaceGap]

end

/-! ## Values that are read back -/

/-- Whole numbers only, in no more than `n` collections that are nested in one another. -/
def WholeWithin (n : Nat) (v : Json) : Prop := v.AllInts ∧ v.depth ≤ n

section

variable {n : Nat}

theorem wholeWithin_str (text : String) : (str text).WholeWithin n :=
  ⟨trivial, Nat.zero_le n⟩

theorem wholeWithin_int (value : Int) : (int value).WholeWithin n := by
  rw [int]
  cases found : Number.ofInt? value with
  | none => exact ⟨trivial, Nat.zero_le n⟩
  | some number =>
      obtain ⟨inRange, rfl⟩ := Number.eq_int_of_ofInt? found
      exact ⟨⟨value, inRange, rfl⟩, Nat.zero_le n⟩

theorem wholeWithin_arr {items : List Json} (all : ∀ item ∈ items, item.WholeWithin n) :
    (arr items).WholeWithin (n + 1) := by
  rw [WholeWithin, AllInts, allIntsItems_iff, depth, Nat.add_le_add_iff_right, depthItems_le_iff]
  exact ⟨fun item member => (all item member).1, fun item member => (all item member).2⟩

theorem wholeWithin_obj {fields : List (String × Json)}
    (all : ∀ field ∈ fields, field.2.WholeWithin n) : (obj fields).WholeWithin (n + 1) := by
  rw [WholeWithin, AllInts, allIntsFields_iff, depth, Nat.add_le_add_iff_right, depthFields_le_iff]
  exact ⟨fun field member => (all field member).1, fun field member => (all field member).2⟩

end

/-- The indented text of a value of whole numbers that is nested less than
`nestingLimit` deep is read back as the value with its fields in order. -/
theorem parse_pretty {n : Nat} {v : Json} (within : v.WholeWithin n) (shallow : n < nestingLimit) :
    parse v.pretty = .ok v.ordered := by
  obtain ⟨tree, charsEq, valueEq, depthEq⟩ := exists_tree_of_prettyChars 0 v within.1
  have read := tree.ofChars?_chars .empty .empty
  rw [charsEq, valueEq, depthEq, Gap.empty, List.nil_append, List.append_nil] at read
  rcases read with ⟨-, read⟩ | ⟨deep, -⟩
  · rw [parse, pretty, String.toList_ofList, read]
    rfl
  · exact absurd (Nat.lt_of_le_of_lt within.2 shallow) (Nat.not_lt_of_le deep)

end PolicyScan.Json
