import PolicyScan.Proofs.Json.Canonical
import PolicyScan.Proofs.Json.Reading
import PolicyScan.Proofs.JsonInYaml.Nodes
import PolicyScan.Yaml.Document

/-!
# The values of JSON texts in YAML

The words and the whole numbers of JSON are plain scalars of YAML with the same
values.  So the node of a tree has the value of the tree, but for strings that
YAML folds (`Tree.valueWithin_node`).  Keys keep their text, as they stand on one
line.
-/

namespace PolicyScan.Json

open Yaml (Node folded digitsIn? magnitude? hasLeadingZero wholeNumber? plainValue)

mutual

/-- The value that YAML gives a tree: its strings are folded. -/
def Tree.foldedValue : Tree → Json
  | .null => .null
  | .bool value => .bool value
  | .num _ n _ => .num n
  | .str glyphs => .str (String.ofList (foldedText glyphs))
  | .arr _ items => .arr items.foldedValues
  | .obj _ fields => .ofFields fields.foldedValues

/-- The values that YAML gives the items. -/
def Items.foldedValues : Items → List Json
  | .nil => []
  | .cons _ item _ rest => item.foldedValue :: rest.foldedValues

/-- The fields with the values that YAML gives them, replaced ones included. -/
def Fields.foldedValues : Fields → List (String × Json)
  | .nil => []
  | .cons _ key _ _ value _ rest => (glyphText key, value.foldedValue) :: rest.foldedValues

end

/-! ## Whole numbers -/

theorem hexValue?_of_isDigit {c : Char} (digit : isDigit c) :
    hexValue? c = some (c.toNat - 48) := by
  rw [isDigit, Bool.and_eq_true, decide_eq_true_eq, decide_eq_true_eq] at digit
  rw [hexValue?, if_pos digit]

theorem digitsIn?_of_isDigit {ds : List Char} (notEmpty : ds ≠ []) (all : ∀ c ∈ ds, isDigit c) :
    digitsIn? 10 ds = some (decimalValue ds) := by
  rw [digitsIn?, if_neg notEmpty, decimalValue]
  clear notEmpty
  generalize 0 = n
  induction ds generalizing n with
  | nil => rfl
  | cons d ds ih =>
      rw [List.forall_mem_cons] at all
      have small : d.toNat - 48 < 10 := by
        have digit := all.1
        rw [isDigit, Bool.and_eq_true, decide_eq_true_eq, decide_eq_true_eq] at digit
        have le : d.toNat ≤ 57 := digit.2
        omega
      rw [List.foldlM_cons, hexValue?_of_isDigit all.1, Option.bind_some, if_pos small]
      exact ih all.2 _

namespace WholeDigits

variable {ds : List Char}

theorem magnitude?_eq (whole : WholeDigits ds) : magnitude? ds = some (decimalValue ds) := by
  have decimal := digitsIn?_of_isDigit whole.ne_nil whole.isDigit_of_mem
  unfold magnitude?
  split
  · rename_i mark digits
    cases whole.eq_of_head rfl
  · exact decimal

theorem exists_cons (whole : WholeDigits ds) :
    ∃ d tail, ds = d :: tail ∧ isDigit d ∧ (d = '0' → tail = []) := by
  rcases List.exists_cons_of_ne_nil whole.ne_nil with ⟨d, tail, rfl⟩
  refine ⟨d, tail, rfl, whole.isDigit_of_mem d List.mem_cons_self, ?_⟩
  rintro rfl
  exact (List.cons.inj (whole.eq_of_head rfl)).2

end WholeDigits

theorem ne_of_isDigit {c other : Char} (digit : isDigit c) (isOther : isDigit other = false) :
    c ≠ other := by
  rintro rfl
  rw [digit] at isOther
  contradiction

theorem hasLeadingZero_of_isDigit {d : Char} {tail : List Char} (digit : isDigit d)
    (alone : d = '0' → tail = []) :
    hasLeadingZero (d :: tail) = false ∧ hasLeadingZero ('-' :: d :: tail) = false := by
  have notMinus : d ≠ '-' := ne_of_isDigit digit rfl
  have notPlus : d ≠ '+' := ne_of_isDigit digit rfl
  by_cases zero : d = '0'
  · rw [zero, alone zero]
    exact ⟨rfl, rfl⟩
  · constructor
    · simp [hasLeadingZero, notMinus, notPlus, zero]
    · simp [hasLeadingZero, zero]

theorem wholeNumber?_of_intText {text : List Char} {value : Int} (written : IntText text value) :
    wholeNumber? text = some value := by
  cases written with
  | unsigned whole =>
      have magnitude := whole.magnitude?_eq
      rcases whole.exists_cons with ⟨d, tail, rfl, digit, alone⟩
      unfold wholeNumber?
      rw [if_neg (Bool.eq_false_iff.mp (hasLeadingZero_of_isDigit digit alone).1)]
      split
      · rename_i equal
        exact absurd (List.cons.inj equal).1 (ne_of_isDigit digit rfl)
      · rename_i equal
        exact absurd (List.cons.inj equal).1 (ne_of_isDigit digit rfl)
      · rw [magnitude]
        rfl
  | negative whole ne_zero =>
      have magnitude := whole.magnitude?_eq
      rcases whole.exists_cons with ⟨d, tail, rfl, digit, alone⟩
      rw [wholeNumber?, if_neg (Bool.eq_false_iff.mp (hasLeadingZero_of_isDigit digit alone).2)]
      rw [magnitude]
      rfl

/-- The sign of a negative number or a digit. -/
def isNumeric (c : Char) : Bool := c = '-' || isDigit c

theorem IntText.exists_numeric {text : List Char} {value : Int} (written : IntText text value) :
    ∃ c tail, text = c :: tail ∧ isNumeric c := by
  rcases written.exists_cons with ⟨c, tail, textEq, numeric⟩
  exact ⟨c, tail, textEq, by simpa [isNumeric] using numeric⟩

/-- A number is none of the words that start with something else. -/
theorem contains_numeric {words : List String} {c : Char} (numeric : isNumeric c)
    (others : ∀ word ∈ words, word.toList.head?.any isNumeric = false) (tail : List Char) :
    words.contains (String.ofList (c :: tail)) = false := by
  rw [Bool.eq_false_iff, ne_eq, List.contains_iff_mem]
  intro member
  have other := others _ member
  rw [String.toList_ofList, List.head?_cons, Option.any_some, numeric] at other
  contradiction

/-- A whole number is read as itself. -/
theorem plainValue_of_intText {text : List Char} {value : Int} (written : IntText text value)
    (inRange : Number.InRange value) :
    plainValue text = .ok (.num (.int value inRange)) := by
  have whole := wholeNumber?_of_intText written
  rcases written.exists_numeric with ⟨c, tail, rfl, numeric⟩
  have noNull : Yaml.isNullWord (c :: tail) = false := contains_numeric numeric (by decide) tail
  have noBool : Yaml.boolWord? (c :: tail) = none := by
    rw [Yaml.boolWord?, contains_numeric numeric (by decide) tail,
      contains_numeric numeric (by decide) tail]
    rfl
  have value : Yaml.wholeValue? (c :: tail) = .ok (some (.num (.int value inRange))) := by
    rw [Yaml.wholeValue?, whole]
    simp only [Number.ofInt?_eq_some inRange]
  rw [plainValue, noNull, noBool, value]
  rfl

/-! ## Keys -/

theorem isBreak_of_mem_key {key : List Glyph} {afterKey : Gap} (isKey : IsKey key afterKey) :
    ∀ c ∈ glyphChars key, Yaml.isBreak c = false := by
  intro c member
  apply isKey.1
  rw [keySpan, List.append_assoc]
  exact List.mem_cons_of_mem _ (List.mem_append_left _ member)

/-- A key keeps its text. -/
theorem foldedText_of_isKey {key : List Glyph} {afterKey : Gap} (isKey : IsKey key afterKey)
    (folds : (folded false .none key).isSome) : String.ofList (foldedText key) = glyphText key := by
  rcases Option.isSome_iff_exists.mp folds with ⟨text, foldedEq⟩
  have plain := Yaml.folded_of_plain [] (Yaml.isPair_of_folded foldedEq) (isBreak_of_mem_key isKey)
  rw [glyphText, foldedText_eq plain]
  rfl

/-! ## Trees -/

section Values

variable {marks : List (Nat × Node)} {left : Nat}

theorem valueWithin_scalar {depth : Nat} (plain : Bool) (text : List Char) :
    Node.valueWithin marks depth left (.scalar {} plain text) =
      (Yaml.scalarValue none plain text).map fun value => (value, left) := by
  unfold Node.valueWithin
  rfl

theorem valueWithin_sequence {depth : Nat} (items : List Node) :
    Node.valueWithin marks (depth + 1) left (.sequence {} items) =
      (Node.itemValues (Node.valueWithin marks depth) left items).map
        fun (values, left) => (.arr values, left) := by
  unfold Node.valueWithin
  rfl

theorem valueWithin_mapping {depth : Nat} (entries : List (Node × Node)) :
    Node.valueWithin marks (depth + 1) left (.mapping {} entries) =
      (Node.entryFields marks (Node.valueWithin marks depth) left entries []).map
        fun (fields, left) => (.obj fields, left) := by
  unfold Node.valueWithin
  rfl

variable (marks left)

mutual

/-- The node of a tree that YAML reads has the value that YAML gives the tree. -/
theorem Tree.valueWithin_node (tree : Tree) (ints : tree.AllInts) (readable : tree.Readable)
    {depth : Nat} (fits : tree.depth ≤ depth) :
    Node.valueWithin marks depth left tree.node = .ok (tree.foldedValue, left) := by
  cases tree with
  | null =>
      rw [Tree.node, valueWithin_scalar]
      rfl
  | bool value =>
      cases value with
      | true =>
          rw [Tree.node, valueWithin_scalar]
          rfl
      | false =>
          rw [Tree.node, valueWithin_scalar]
          rfl
  | num text n written =>
      rcases ints with ⟨value, inRange, rfl⟩
      have read : Yaml.scalarValue none true text = .ok (.num (.int value inRange)) :=
        plainValue_of_intText written.intText inRange
      rw [Tree.node, valueWithin_scalar, read]
      rfl
  | str glyphs =>
      rw [Tree.node, valueWithin_scalar]
      rfl
  | arr inner items =>
      rcases Nat.exists_eq_add_one_of_ne_zero (Nat.ne_zero_of_lt fits) with ⟨depth, rfl⟩
      have values := items.itemValues_nodes ints readable (Nat.le_of_succ_le_succ fits)
      rw [Tree.node, valueWithin_sequence, values]
      rfl
  | obj inner fields =>
      rcases Nat.exists_eq_add_one_of_ne_zero (Nat.ne_zero_of_lt fits) with ⟨depth, rfl⟩
      have values := fields.entryFields_entries ints readable (Nat.le_of_succ_le_succ fits) []
      rw [Tree.node, valueWithin_mapping, values]
      rfl

/-- The nodes of items have the values that YAML gives the items. -/
theorem Items.itemValues_nodes (items : Items) (ints : items.AllInts) (readable : items.Readable)
    {depth : Nat} (fits : items.depth ≤ depth) :
    Node.itemValues (Node.valueWithin marks depth) left items.nodes =
      .ok (items.foldedValues, left) := by
  cases items with
  | nil => rfl
  | cons before item after rest =>
      rcases Nat.max_le.mp fits with ⟨itemFits, restFits⟩
      have first := item.valueWithin_node ints.1 readable.1 itemFits
      have others := rest.itemValues_nodes ints.2 readable.2 restFits
      rw [Items.nodes, Node.itemValues, first]
      simp only [bind, Except.bind, others]
      rfl

/-- The entries of fields are put in with the values that YAML gives the
fields. -/
theorem Fields.entryFields_entries (fields : Fields) (ints : fields.AllInts)
    (readable : fields.Readable) {depth : Nat} (fits : fields.depth ≤ depth)
    (sofar : List (String × Json)) :
    Node.entryFields marks (Node.valueWithin marks depth) left fields.entries sofar =
      .ok (insertFields sofar fields.foldedValues, left) := by
  cases fields with
  | nil => rfl
  | cons before key afterKey beforeValue value after rest =>
      rcases readable with ⟨⟨keyFolds, isKey⟩, readValue, readRest⟩
      have keyText : Node.keyText marks left (.scalar {} false (foldedText key)) =
          .ok (glyphText key, left) := by
        rw [← foldedText_of_isKey isKey keyFolds]
        rfl
      rcases Nat.max_le.mp fits with ⟨valueFits, restFits⟩
      have first := value.valueWithin_node ints.1 readValue valueFits
      have others := rest.entryFields_entries ints.2 readRest restFits
        (insertField (glyphText key) value.foldedValue sofar)
      rw [Fields.entries, Node.entryFields, keyText]
      simp only [bind, Except.bind, first]
      exact others

end

end Values

/-- The value of the document. -/
theorem Tree.toJson_node (tree : Tree) (ints : tree.AllInts) (readable : tree.Readable)
    (fits : tree.depth ≤ Yaml.nestingLimit) : tree.node.toJson = .ok tree.foldedValue := by
  have read := tree.valueWithin_node tree.node.anchors.reverse
    (Yaml.aliasLimit * tree.node.eventCount) ints readable fits
  rw [Node.toJson, read]
  rfl

/-! ## What YAML leaves as it is -/

theorem Fields.keys_foldedValues (fields : Fields) :
    fields.foldedValues.map Prod.fst = fields.values.map Prod.fst := by
  cases fields with
  | nil => rfl
  | cons before key afterKey beforeValue value after rest =>
      rw [Fields.foldedValues, Fields.values, List.map_cons, List.map_cons, rest.keys_foldedValues]

/-- A string without surrogate pairs on one line. -/
def IsPlain (glyphs : List Glyph) : Prop :=
  (∀ glyph ∈ glyphs, glyph.isPair = false) ∧ ∀ c ∈ glyphChars glyphs, Yaml.isBreak c = false

instance (glyphs : List Glyph) : Decidable (IsPlain glyphs) :=
  inferInstanceAs (Decidable (_ ∧ _))

theorem IsPlain.folded_eq {glyphs : List Glyph} (plain : IsPlain glyphs) :
    folded false .none glyphs = some (glyphs.map Glyph.char) := by
  have foldedEq := Yaml.folded_of_plain [] plain.1 plain.2
  rw [List.reverse_nil, List.nil_append] at foldedEq
  exact foldedEq

mutual

/-- Every string of the tree is plain, and every key is one for YAML. -/
def Tree.AllPlain : Tree → Prop
  | .str glyphs => IsPlain glyphs
  | .arr _ items => items.AllPlain
  | .obj _ fields => fields.AllPlain
  | _ => True

/-- Every string of the items is plain, and every key is one for YAML. -/
def Items.AllPlain : Items → Prop
  | .nil => True
  | .cons _ item _ rest => item.AllPlain ∧ rest.AllPlain

/-- Keys and values of the fields are plain, and every key is one for YAML. -/
def Fields.AllPlain : Fields → Prop
  | .nil => True
  | .cons _ key afterKey _ value _ rest =>
    (IsPlain key ∧ IsKey key afterKey) ∧ value.AllPlain ∧ rest.AllPlain

end

mutual

/-- YAML reads a plain tree, and gives it its value. -/
theorem Tree.readable_of_allPlain (tree : Tree) (plain : tree.AllPlain) :
    tree.Readable ∧ tree.foldedValue = tree.value := by
  cases tree with
  | null => exact ⟨trivial, rfl⟩
  | bool value => exact ⟨trivial, rfl⟩
  | num text n written => exact ⟨trivial, rfl⟩
  | str glyphs =>
      have foldedEq := IsPlain.folded_eq plain
      refine ⟨Option.isSome_of_eq_some foldedEq, ?_⟩
      rw [Tree.foldedValue, foldedText_eq foldedEq]
      rfl
  | arr inner items =>
      rcases items.readable_of_allPlain plain with ⟨readable, valuesEq⟩
      exact ⟨readable, congrArg Json.arr valuesEq⟩
  | obj inner fields =>
      rcases fields.readable_of_allPlain plain with ⟨readable, valuesEq⟩
      exact ⟨readable, congrArg ofFields valuesEq⟩

/-- YAML reads plain items, and gives them their values. -/
theorem Items.readable_of_allPlain (items : Items) (plain : items.AllPlain) :
    items.Readable ∧ items.foldedValues = items.values := by
  cases items with
  | nil => exact ⟨trivial, rfl⟩
  | cons before item after rest =>
      rcases item.readable_of_allPlain plain.1 with ⟨readItem, valueEq⟩
      rcases rest.readable_of_allPlain plain.2 with ⟨readRest, valuesEq⟩
      refine ⟨⟨readItem, readRest⟩, ?_⟩
      rw [Items.foldedValues, Items.values, valueEq, valuesEq]

/-- YAML reads plain fields, and gives them their values. -/
theorem Fields.readable_of_allPlain (fields : Fields) (plain : fields.AllPlain) :
    fields.Readable ∧ fields.foldedValues = fields.values := by
  cases fields with
  | nil => exact ⟨trivial, rfl⟩
  | cons before key afterKey beforeValue value after rest =>
      rcases plain with ⟨⟨plainKey, isKey⟩, plainValue, plainRest⟩
      rcases value.readable_of_allPlain plainValue with ⟨readValue, valueEq⟩
      rcases rest.readable_of_allPlain plainRest with ⟨readRest, valuesEq⟩
      refine ⟨⟨⟨Option.isSome_of_eq_some plainKey.folded_eq, isKey⟩, readValue, readRest⟩, ?_⟩
      rw [Fields.foldedValues, Fields.values, valueEq, valuesEq]

end

end PolicyScan.Json
