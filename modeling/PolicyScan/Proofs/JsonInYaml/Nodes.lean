import PolicyScan.Proofs.JsonInYaml.Tokens
import PolicyScan.Yaml.Node.Reader

/-!
# The nodes of JSON texts

From the tokens of a tree the reader of YAML gets one node, as long as every key
of the tree is taken for one (`Tree.reads`).  A string that is no key leaves
its colon without a place, which is a fault.
-/

namespace PolicyScan.Json

open Yaml (Token Node TokenStream folded)
open Yaml.Node (readWith readers flowItems flowEntries orEmpty valueOrEmpty separator)

/-- The text of a string as YAML takes it. -/
def foldedText (glyphs : List Glyph) : List Char := (folded false .none glyphs).getD []

mutual

/-- The node of a tree. -/
def Tree.node : Tree → Node
  | .null => .scalar {} true ['n', 'u', 'l', 'l']
  | .bool true => .scalar {} true ['t', 'r', 'u', 'e']
  | .bool false => .scalar {} true ['f', 'a', 'l', 's', 'e']
  | .num text _ _ => .scalar {} true text
  | .str glyphs => .scalar {} false (foldedText glyphs)
  | .arr _ items => .sequence {} items.nodes
  | .obj _ fields => .mapping {} fields.entries

/-- The nodes of the items. -/
def Items.nodes : Items → List Node
  | .nil => []
  | .cons _ item _ rest => item.node :: rest.nodes

/-- The nodes of keys and values. -/
def Fields.entries : Fields → List (Node × Node)
  | .nil => []
  | .cons _ key _ _ value _ rest => (.scalar {} false (foldedText key), value.node) :: rest.entries

end

mutual

/-- YAML folds every string of the tree, and takes every key for one. -/
def Tree.Readable : Tree → Prop
  | .str glyphs => (folded false .none glyphs).isSome
  | .arr _ items => items.Readable
  | .obj _ fields => fields.Readable
  | _ => True

/-- YAML folds every string of the items, and takes every key for one. -/
def Items.Readable : Items → Prop
  | .nil => True
  | .cons _ item _ rest => item.Readable ∧ rest.Readable

/-- YAML folds keys and values of the fields, and takes every key for one. -/
def Fields.Readable : Fields → Prop
  | .nil => True
  | .cons _ key afterKey _ value _ rest =>
    ((folded false .none key).isSome ∧ IsKey key afterKey) ∧ value.Readable ∧ rest.Readable

end

/-! ## Readers -/

/-- The outcome is the given one if the condition holds, and a fault if it does
not. -/
def ReadsAs {α : Type} (condition : Prop) (x : α) (result : Except Yaml.Fault α) : Prop :=
  (condition ∧ result = .ok x) ∨ (¬condition ∧ ∃ fault, result = .error fault)

/-- A stream of tokens without anchors. -/
def stream (tokens : List Token) : TokenStream := { tokens }

/-- A token that starts a scalar or a flow collection. -/
def StartsNode (t : Token) : Prop :=
  (∃ plain text, t = .scalar plain text) ∨ t = .flowSequenceStart ∨ t = .flowMappingStart

section Readers

variable {handles : Yaml.TagHandles} {inner? : Option Yaml.Node.Inner} {inner : Yaml.Node.Inner}
  {block aligned : Bool} {more : List Token}

theorem readWith_scalar (plain : Bool) (text : List Char) :
    readWith handles inner? block aligned (stream (.scalar plain text :: more)) =
      .ok (.scalar {} plain text, stream more) := by
  cases inner? <;> rfl

theorem readWith_sequence :
    readWith handles (some inner) block aligned (stream (.flowSequenceStart :: more)) =
      (flowItems inner.flow inner.pair (more.length + 2) true (stream more) []).map fun read =>
        (.sequence {} read.1, read.2) := by
  change Yaml.Node.collection inner block aligned {} (stream (.flowSequenceStart :: more)) = _
  have notAligned : (aligned && decide (Token.flowSequenceStart = .blockEntry)) = false := by
    simp
  simp only [Yaml.Node.collection, stream, notAligned]
  rfl

theorem readWith_mapping :
    readWith handles (some inner) block aligned (stream (.flowMappingStart :: more)) =
      (flowEntries inner.flow (more.length + 2) true (stream more) []).map fun read =>
        (.mapping {} read.1, read.2) := by
  change Yaml.Node.collection inner block aligned {} (stream (.flowMappingStart :: more)) = _
  have notAligned : (aligned && decide (Token.flowMappingStart = .blockEntry)) = false := by
    simp
  simp only [Yaml.Node.collection, stream, notAligned]
  rfl

end Readers

/-! ## Entries -/

section Entries

variable {item pair : TokenStream → Yaml.Parsed Node} {fuel : Nat} {first : Bool} {t : Token}
  {text : List Char} {more : List Token} {nodes : List Node} {entries : List (Node × Node)}

theorem flowItems_nil :
    flowItems item pair (fuel + 1) first (stream (.flowSequenceEnd :: more)) nodes =
      .ok (nodes.reverse, stream more) := rfl

theorem flowItems_cons (starts : StartsNode t) :
    flowItems item pair (fuel + 1) first (stream (commaTokens first ++ t :: more)) nodes =
      (item (stream (t :: more))).bind fun read =>
        flowItems item pair fuel false read.2 (read.1 :: nodes) := by
  rcases starts with ⟨plain, text, rfl⟩ | rfl | rfl
  all_goals cases first <;> rfl

theorem flowEntries_nil :
    flowEntries item (fuel + 1) first (stream (.flowMappingEnd :: more)) entries =
      .ok (entries.reverse, stream more) := rfl

/-- An entry with a key. -/
theorem flowEntries_key (readsKey : ∀ more, item (stream (.scalar false text :: more)) =
      .ok (.scalar {} false text, stream more)) (starts : StartsNode t) :
    flowEntries item (fuel + 1) first
        (stream (commaTokens first ++ .key :: .scalar false text :: .value :: t :: more)) entries =
      (item (stream (t :: more))).bind fun read =>
        flowEntries item fuel false read.2 ((.scalar {} false text, read.1) :: entries) := by
  have opened :
      flowEntries item (fuel + 1) first
        (stream (commaTokens first ++ .key :: .scalar false text :: .value :: t :: more)) entries =
          (item (stream (.scalar false text :: .value :: t :: more))).bind fun key =>
            (valueOrEmpty [.flowEntry, .flowMappingEnd] item key.2).bind fun value =>
              flowEntries item fuel false value.2 ((key.1, value.1) :: entries) := by
    cases first <;> rfl
  have valued : valueOrEmpty [.flowEntry, .flowMappingEnd] item (stream (.value :: t :: more)) =
      item (stream (t :: more)) := by
    rcases starts with ⟨plain, text, rfl⟩ | rfl | rfl <;> rfl
  rw [opened, readsKey]
  simp only [Except.bind, valued]

/-- A colon without a key. -/
theorem flowEntries_value :
    flowEntries item fuel false (stream (.value :: more)) entries = .error .unexpectedToken := by
  cases fuel <;> rfl

/-- A string that is no key is an entry of its own, and the colon after it a
fault. -/
theorem flowEntries_noKey (readsKey : ∀ more, item (stream (.scalar false text :: more)) =
      .ok (.scalar {} false text, stream more)) :
    flowEntries item (fuel + 1) first
        (stream (commaTokens first ++ .scalar false text :: .value :: more)) entries =
      .error .unexpectedToken := by
  have opened :
      flowEntries item (fuel + 1) first
          (stream (commaTokens first ++ .scalar false text :: .value :: more)) entries =
        (item (stream (.scalar false text :: .value :: more))).bind fun key =>
          flowEntries item fuel false key.2 ((key.1, .empty) :: entries) := by
    cases first <;> rfl
  rw [opened, readsKey]
  exact flowEntries_value

end Entries

/-! ## Trees -/

theorem andThen_eq_some_iff {ts? us? : Option (List Token)} {ts : List Token} :
    andThen ts? us? = some ts ↔ ∃ us vs, ts? = some us ∧ us? = some vs ∧ ts = us ++ vs := by
  simp only [andThen, Option.bind_eq_some_iff, Option.map_eq_some_iff]
  constructor
  · rintro ⟨us, usEq, vs, vsEq, rfl⟩
    exact ⟨us, vs, usEq, vsEq, rfl⟩
  · rintro ⟨us, vs, usEq, vsEq, rfl⟩
    exact ⟨us, usEq, vs, vsEq, rfl⟩

theorem isSome_andThen {ts? us? : Option (List Token)} (first : ts?.isSome) (later : us?.isSome) :
    (andThen ts? us?).isSome := by
  rcases Option.isSome_iff_exists.mp first with ⟨ts, rfl⟩
  rcases Option.isSome_iff_exists.mp later with ⟨us, rfl⟩
  rfl

mutual

/-- A tree that YAML reads has tokens. -/
theorem Tree.isSome_tokens? (tree : Tree) (readable : tree.Readable) : tree.tokens?.isSome := by
  cases tree with
  | null => rfl
  | bool value => cases value <;> rfl
  | num text n written => rfl
  | str glyphs =>
      rw [Tree.tokens?, Option.isSome_map]
      exact readable
  | arr inner items =>
      rw [Tree.tokens?, Option.isSome_map]
      exact items.isSome_tokens? true readable
  | obj inner fields =>
      rw [Tree.tokens?, Option.isSome_map]
      exact fields.isSome_tokens? true readable

/-- Items that YAML reads have tokens. -/
theorem Items.isSome_tokens? (items : Items) (first : Bool) (readable : items.Readable) :
    (items.tokens? first).isSome := by
  cases items with
  | nil => rfl
  | cons before item after rest =>
      rw [Items.tokens?]
      apply isSome_andThen rfl
      exact isSome_andThen (item.isSome_tokens? readable.1) (rest.isSome_tokens? false readable.2)

/-- Fields that YAML reads have tokens. -/
theorem Fields.isSome_tokens? (fields : Fields) (first : Bool) (readable : fields.Readable) :
    (fields.tokens? first).isSome := by
  cases fields with
  | nil => rfl
  | cons before key afterKey beforeValue value after rest =>
      rcases readable with ⟨⟨keyFolds, -⟩, readValue, readRest⟩
      rw [Fields.tokens?]
      apply isSome_andThen rfl
      apply isSome_andThen
      · rw [Option.isSome_map]
        exact keyFolds
      · exact isSome_andThen (value.isSome_tokens? readValue) (rest.isSome_tokens? false readRest)

end

theorem Tree.exists_startsNode (tree : Tree) {ts : List Token}
    (tokensEq : tree.tokens? = some ts) : ∃ t more, ts = t :: more ∧ StartsNode t := by
  cases tree with
  | null =>
      cases tokensEq
      exact ⟨_, _, rfl, .inl ⟨_, _, rfl⟩⟩
  | bool value =>
      cases value with
      | true =>
          cases tokensEq
          exact ⟨_, _, rfl, .inl ⟨_, _, rfl⟩⟩
      | false =>
          cases tokensEq
          exact ⟨_, _, rfl, .inl ⟨_, _, rfl⟩⟩
  | num text n written =>
      cases tokensEq
      exact ⟨_, _, rfl, .inl ⟨_, _, rfl⟩⟩
  | str glyphs =>
      rcases Option.map_eq_some_iff.mp tokensEq with ⟨text, -, rfl⟩
      exact ⟨_, _, rfl, .inl ⟨_, _, rfl⟩⟩
  | arr inner items =>
      rcases Option.map_eq_some_iff.mp tokensEq with ⟨ts, -, rfl⟩
      exact ⟨_, _, rfl, .inr (.inl rfl)⟩
  | obj inner fields =>
      rcases Option.map_eq_some_iff.mp tokensEq with ⟨ts, -, rfl⟩
      exact ⟨_, _, rfl, .inr (.inr rfl)⟩

/-! ## The reader -/

theorem ReadsAs.map {α β : Type} {condition : Prop} {x : α} {result : Except Yaml.Fault α}
    (f : α → β) (reads : ReadsAs condition x result) :
    ReadsAs condition (f x) (result.map f) := by
  rcases reads with ⟨holds, done⟩ | ⟨fails, fault, failed⟩
  · exact .inl ⟨holds, by rw [done]; rfl⟩
  · exact .inr ⟨fails, fault, by rw [failed]; rfl⟩

theorem ReadsAs.bind {α β : Type} {first later : Prop} {x : α} {y : β}
    {result : Except Yaml.Fault α} {f : α → Except Yaml.Fault β} (reads : ReadsAs first x result)
    (next : ReadsAs later y (f x)) : ReadsAs (first ∧ later) y (result.bind f) := by
  rcases reads with ⟨holds, rfl⟩ | ⟨fails, fault, rfl⟩
  · rcases next with ⟨laterHolds, done⟩ | ⟨laterFails, fault, failed⟩
    · exact .inl ⟨⟨holds, laterHolds⟩, done⟩
    · exact .inr ⟨fun both => laterFails both.2, fault, failed⟩
  · exact .inr ⟨fun both => fails both.1, fault, rfl⟩

theorem foldedText_eq {glyphs : List Glyph} {text : List Char}
    (foldedEq : folded false .none glyphs = some text) : foldedText glyphs = text := by
  rw [foldedText, foldedEq, Option.getD_some]

theorem Items.length_le_of_tokens? (items : Items) {first : Bool} {ts : List Token}
    (tokensEq : items.tokens? first = some ts) : items.length ≤ ts.length := by
  cases items with
  | nil => exact Nat.zero_le _
  | cons before item after rest =>
      rcases andThen_eq_some_iff.mp tokensEq with ⟨comma, later, -, laterEq, rfl⟩
      rcases andThen_eq_some_iff.mp laterEq with ⟨us, vs, usEq, vsEq, rfl⟩
      rcases item.exists_startsNode usEq with ⟨t, more, rfl, -⟩
      have others := rest.length_le_of_tokens? vsEq
      simp only [Items.length, List.length_append, List.length_cons]
      omega

theorem Fields.length_le_of_tokens? (fields : Fields) {first : Bool} {ts : List Token}
    (tokensEq : fields.tokens? first = some ts) : fields.length ≤ ts.length := by
  cases fields with
  | nil => exact Nat.zero_le _
  | cons before key afterKey beforeValue value after rest =>
      rcases andThen_eq_some_iff.mp tokensEq with ⟨comma, later, -, laterEq, rfl⟩
      rcases andThen_eq_some_iff.mp laterEq with ⟨keyTs, others, -, othersEq, rfl⟩
      rcases andThen_eq_some_iff.mp othersEq with ⟨us, vs, usEq, vsEq, rfl⟩
      rcases value.exists_startsNode usEq with ⟨t, more, rfl, -⟩
      have others := rest.length_le_of_tokens? vsEq
      simp only [Fields.length, List.length_append, List.length_cons]
      omega

theorem exists_readers (handles : Yaml.TagHandles) (depth : Nat) :
    ∃ inside, readers handles (depth + 1) = some inside ∧
      inside.flow = readWith handles (readers handles depth) false false := ⟨_, rfl, rfl⟩

mutual

/-- The reader takes the tokens of a tree for its node, if every key of the tree is
taken for one. -/
theorem Tree.reads (tree : Tree) {ts : List Token} (tokensEq : tree.tokens? = some ts)
    (handles : Yaml.TagHandles) {depth : Nat} (fits : tree.depth ≤ depth) (block aligned : Bool)
    (more : List Token) :
    ReadsAs tree.Readable (tree.node, stream more)
      (readWith handles (readers handles depth) block aligned (stream (ts ++ more))) := by
  cases tree with
  | null =>
      cases tokensEq
      exact .inl ⟨trivial, readWith_scalar _ _⟩
  | bool value =>
      cases value with
      | true =>
          cases tokensEq
          exact .inl ⟨trivial, readWith_scalar _ _⟩
      | false =>
          cases tokensEq
          exact .inl ⟨trivial, readWith_scalar _ _⟩
  | num text n written =>
      cases tokensEq
      exact .inl ⟨trivial, readWith_scalar _ _⟩
  | str glyphs =>
      rcases Option.map_eq_some_iff.mp tokensEq with ⟨text, foldedEq, rfl⟩
      rw [Tree.node, foldedText_eq foldedEq]
      exact .inl ⟨Option.isSome_of_eq_some foldedEq, readWith_scalar _ _⟩
  | arr inner items =>
      rcases Option.map_eq_some_iff.mp tokensEq with ⟨us, usEq, rfl⟩
      rcases Nat.exists_eq_add_one_of_ne_zero (Nat.ne_zero_of_lt fits) with ⟨depth, rfl⟩
      have enough : items.length < (us ++ .flowSequenceEnd :: more).length + 2 := by
        have le := items.length_le_of_tokens? usEq
        rw [List.length_append]
        omega
      rcases exists_readers handles depth with ⟨inside, readersEq, flowEq⟩
      have read := items.reads true usEq handles (Nat.le_of_succ_le_succ fits) inside.pair enough
        more []
      rw [readersEq, List.append_assoc, List.cons_append, List.singleton_append, readWith_sequence,
        flowEq]
      exact read.map fun read => (Node.sequence {} read.1, read.2)
  | obj inner fields =>
      rcases Option.map_eq_some_iff.mp tokensEq with ⟨us, usEq, rfl⟩
      rcases Nat.exists_eq_add_one_of_ne_zero (Nat.ne_zero_of_lt fits) with ⟨depth, rfl⟩
      have enough : fields.length < (us ++ .flowMappingEnd :: more).length + 2 := by
        have le := fields.length_le_of_tokens? usEq
        rw [List.length_append]
        omega
      rcases exists_readers handles depth with ⟨inside, readersEq, flowEq⟩
      have read := fields.reads true usEq handles (Nat.le_of_succ_le_succ fits) enough more []
      rw [readersEq, List.append_assoc, List.cons_append, List.singleton_append, readWith_mapping,
        flowEq]
      exact read.map fun read => (Node.mapping {} read.1, read.2)

/-- The reader takes the tokens of items for their nodes. -/
theorem Items.reads (items : Items) (first : Bool) {ts : List Token}
    (tokensEq : items.tokens? first = some ts) (handles : Yaml.TagHandles) {depth : Nat}
    (fits : items.depth ≤ depth) (pair : TokenStream → Yaml.Parsed Node) {fuel : Nat}
    (enough : items.length < fuel) (more : List Token) (nodes : List Node) :
    ReadsAs items.Readable (nodes.reverse ++ items.nodes, stream more)
      (flowItems (readWith handles (readers handles depth) false false) pair fuel first
        (stream (ts ++ .flowSequenceEnd :: more)) nodes) := by
  rcases Nat.exists_eq_add_one_of_ne_zero (Nat.ne_zero_of_lt enough) with ⟨fuel, rfl⟩
  cases items with
  | nil =>
      cases tokensEq
      refine .inl ⟨trivial, ?_⟩
      rw [Items.nodes, List.append_nil]
      exact flowItems_nil
  | cons before item after rest =>
      rcases andThen_eq_some_iff.mp tokensEq with ⟨comma, later, commaEq, laterEq, rfl⟩
      rcases andThen_eq_some_iff.mp laterEq with ⟨us, vs, usEq, vsEq, rfl⟩
      cases commaEq
      rcases Nat.max_le.mp fits with ⟨itemFits, restFits⟩
      have readItem := item.reads usEq handles itemFits false false (vs ++ .flowSequenceEnd :: more)
      have readRest := rest.reads false vsEq handles restFits pair (Nat.lt_of_succ_lt_succ enough)
        more (item.node :: nodes)
      rw [List.reverse_cons, List.append_assoc] at readRest
      rcases item.exists_startsNode usEq with ⟨t, tail, rfl, starts⟩
      rw [List.append_assoc, List.append_assoc]
      rw [List.cons_append, flowItems_cons starts]
      exact readItem.bind readRest

/-- The reader takes the tokens of fields for their nodes. -/
theorem Fields.reads (fields : Fields) (first : Bool) {ts : List Token}
    (tokensEq : fields.tokens? first = some ts) (handles : Yaml.TagHandles) {depth : Nat}
    (fits : fields.depth ≤ depth) {fuel : Nat} (enough : fields.length < fuel) (more : List Token)
    (entries : List (Node × Node)) :
    ReadsAs fields.Readable (entries.reverse ++ fields.entries, stream more)
      (flowEntries (readWith handles (readers handles depth) false false) fuel first
        (stream (ts ++ .flowMappingEnd :: more)) entries) := by
  rcases Nat.exists_eq_add_one_of_ne_zero (Nat.ne_zero_of_lt enough) with ⟨fuel, rfl⟩
  cases fields with
  | nil =>
      cases tokensEq
      refine .inl ⟨trivial, ?_⟩
      rw [Fields.entries, List.append_nil]
      exact flowEntries_nil
  | cons before key afterKey beforeValue value after rest =>
      rcases andThen_eq_some_iff.mp tokensEq with ⟨comma, later, commaEq, laterEq, rfl⟩
      rcases andThen_eq_some_iff.mp laterEq with ⟨keyTs, others, keyTsEq, othersEq, rfl⟩
      rcases andThen_eq_some_iff.mp othersEq with ⟨us, vs, usEq, vsEq, rfl⟩
      rcases Option.map_eq_some_iff.mp keyTsEq with ⟨text, foldedEq, rfl⟩
      cases commaEq
      have readsKey : ∀ more, readWith handles (readers handles depth) false false
          (stream (.scalar false text :: more)) = .ok (.scalar {} false text, stream more) :=
        fun more => readWith_scalar false text
      rw [Fields.entries, foldedText_eq foldedEq, keyTokens, List.append_assoc]
      by_cases isKey : IsKey key afterKey
      · rcases Nat.max_le.mp fits with ⟨valueFits, restFits⟩
        have readValue := value.reads usEq handles valueFits false false
          (vs ++ .flowMappingEnd :: more)
        have readRest := rest.reads false vsEq handles restFits (Nat.lt_of_succ_lt_succ enough)
          more ((.scalar {} false text, value.node) :: entries)
        rw [List.reverse_cons, List.append_assoc] at readRest
        rcases value.exists_startsNode usEq with ⟨t, tail, rfl, starts⟩
        have readKey := And.intro (Option.isSome_of_eq_some foldedEq) isKey
        rw [if_pos isKey, Fields.Readable, eq_true readKey, true_and]
        simp only [List.append_assoc, List.cons_append, List.nil_append]
        rw [flowEntries_key readsKey starts]
        exact readValue.bind readRest
      · rw [if_neg isKey]
        simp only [List.append_assoc, List.cons_append, List.nil_append]
        exact .inr ⟨fun readable => isKey readable.1.2, _, flowEntries_noKey readsKey⟩

end

/-! ## The document -/

theorem documentsOf_cons {t : Token} (starts : StartsNode t) (more : List Token) (fuel : Nat) :
    Yaml.documentsOf (fuel + 1) true (t :: more) [] =
      (Node.read .standard Yaml.nestingLimit true false (stream (t :: more))).bind fun read =>
        Yaml.documentsOf fuel false (Yaml.afterDocument read.2.tokens) [read.1] := by
  have opened : Yaml.nextDocument true (t :: more) =
      (Node.read .standard Yaml.nestingLimit true false (stream (t :: more))).bind fun read =>
        .ok (read.1, Yaml.afterDocument read.2.tokens) := by
    rcases starts with ⟨plain, text, rfl⟩ | rfl | rfl <;> rfl
  rw [Yaml.documentsOf]
  simp only [if_true, opened]
  cases Node.read .standard Yaml.nestingLimit true false (stream (t :: more)) <;> rfl

/-- The tokens of a tree are one document. -/
theorem documentsOf_tokens {tree : Tree} {ts : List Token} (tokensEq : tree.tokens? = some ts)
    (fits : tree.depth ≤ Yaml.nestingLimit) :
    ReadsAs tree.Readable [tree.node] (Yaml.documentsOf (ts.length + 1) true ts []) := by
  have read := tree.reads tokensEq .standard fits true false []
  rw [List.append_nil] at read
  rcases tree.exists_startsNode tokensEq with ⟨t, more, rfl, starts⟩
  rw [documentsOf_cons starts]
  rcases read with ⟨readable, done⟩ | ⟨unreadable, fault, failed⟩
  · refine .inl ⟨readable, ?_⟩
    rw [Node.read, done]
    rfl
  · refine .inr ⟨unreadable, fault, ?_⟩
    rw [Node.read, failed]
    rfl

end PolicyScan.Json
