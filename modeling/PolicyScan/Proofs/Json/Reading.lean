import PolicyScan.Proofs.Json.NumberEnd
import PolicyScan.Proofs.Json.Tree
import PolicyScan.Proofs.Outcome

/-!
# Reading the trees of JSON texts

The reader that may nest `n` collections takes the text of a tree for the value
of the tree if the tree is nested no deeper than `n`, and stops at the first
collection that is nested too deep otherwise (`valueWithin_chars`).  A text that
it reads is the text of a tree (`exists_tree_of_valueWithin`).
-/

namespace PolicyScan.Json

/-- The outcome of reading what is nested `depth` deep while `n` collections may
be nested. -/
def ReadsWithin {α : Type} (n depth : Nat) (x : α) (rest : List Char) (result : Read α) : Prop :=
  depth ≤ n ∧ result = .ok (x, rest) ∨
    n < depth ∧ ∃ place, result = .error (.next .nestedTooDeep place)

section

variable {α β : Type} {n depth others : Nat} {x : α} {y : β} {rest left : List Char}
  {result : Except Fault (α × List Char)}

/-- A collection is nested once more than what is in it. -/
theorem ReadsWithin.nested (read : ReadsWithin n depth x rest result) (f : α → β) :
    ReadsWithin (n + 1) (depth + 1) (f x) rest (result.map fun (x, rest) => (f x, rest)) := by
  rcases read with ⟨fits, rfl⟩ | ⟨deep, place, rfl⟩
  · exact .inl ⟨Nat.succ_le_succ fits, rfl⟩
  · exact .inr ⟨Nat.succ_lt_succ deep, place, rfl⟩

/-- What is read behind something else is nested as deep as the deeper of the two. -/
theorem ReadsWithin.andThen {more : α × List Char → Except Fault (β × List Char)}
    (read : ReadsWithin n depth x left result)
    (behind : ReadsWithin n others y rest (more (x, left))) :
    ReadsWithin n (max depth others) y rest (result.bind more) := by
  rcases read with ⟨fits, rfl⟩ | ⟨deep, place, rfl⟩
  · rcases behind with ⟨othersFit, behind⟩ | ⟨deep, place, behind⟩
    · exact .inl ⟨Nat.max_le.mpr ⟨fits, othersFit⟩, behind⟩
    · exact .inr ⟨Nat.lt_of_lt_of_le deep (Nat.le_max_right _ _), place, behind⟩
  · exact .inr ⟨Nat.lt_of_lt_of_le deep (Nat.le_max_left _ _), place, rfl⟩

end

section Start

variable {n : Nat} {s rest : List Char}

theorem valueWithin_of_quote (start : dropBlanks s = '"' :: rest) :
    valueWithin n s = (string rest).map fun (text, rest) => (.str text, rest) := by
  rw [valueWithin.eq_def]
  simp only [start]

theorem valueWithin_of_bracket (start : dropBlanks s = '[' :: rest) :
    valueWithin (n + 1) s =
      (itemsWith (valueWithin n) s true rest []).map fun (items, rest) => (.arr items, rest) := by
  rw [valueWithin.eq_def]
  simp only [start]

theorem valueWithin_zero_of_bracket (start : dropBlanks s = '[' :: rest) :
    valueWithin 0 s = .error (.next .nestedTooDeep ('[' :: rest)) := by
  rw [valueWithin.eq_def]
  simp only [start]

theorem valueWithin_of_brace (start : dropBlanks s = '\x7b' :: rest) :
    valueWithin (n + 1) s =
      (fieldsWith (valueWithin n) s true rest []).map
        fun (fields, rest) => (.ofFields fields, rest) := by
  rw [valueWithin.eq_def]
  simp only [start]

theorem valueWithin_zero_of_brace (start : dropBlanks s = '\x7b' :: rest) :
    valueWithin 0 s = .error (.next .nestedTooDeep ('\x7b' :: rest)) := by
  rw [valueWithin.eq_def]
  simp only [start]

/-- A value that starts with a minus sign or a digit is a number. -/
theorem valueWithin_of_number {c : Char} (start : dropBlanks s = c :: rest)
    (numeric : c = '-' ∨ isDigit c) :
    valueWithin n s = (readNumber (c :: rest)).map fun (n, rest) => (.num n, rest) := by
  rw [valueWithin.eq_def]
  rcases numeric with rfl | digit
  · simp only [start]
    rfl
  · rw [readNumber_of_isDigit digit]
    simp only [start]
    split
    case h_9 =>
      rename_i equal
      obtain ⟨rfl, rfl⟩ := List.cons.inj equal
      rw [if_pos digit]
    all_goals simp_all [isDigit]

end Start

/-! ## Texts of trees are read -/

theorem IntText.exists_cons {text : List Char} {value : Int} (written : IntText text value) :
    ∃ c tail, text = c :: tail ∧ (c = '-' ∨ isDigit c) := by
  cases written with
  | unsigned whole =>
      obtain ⟨c, tail, rfl⟩ := List.exists_cons_of_ne_nil whole.ne_nil
      exact ⟨c, tail, rfl, .inr (whole.isDigit_of_mem c List.mem_cons_self)⟩
  | negative whole ne_zero => exact ⟨'-', _, rfl, .inl rfl⟩

/-- A number is read from its text wherever the number ends behind it. -/
theorem NumberText.exists_cons {text : List Char} {n : Number} (written : NumberText text n) :
    ∃ c tail, text = c :: tail ∧ (c = '-' ∨ isDigit c) ∧
      ∀ rest, EndsNumber rest → readNumber (text ++ rest) = .ok (n, rest) := by
  obtain ⟨before, read⟩ := written
  obtain ⟨c, tail, numeric, equal, elsewhere⟩ := exists_text_elsewhere read
  obtain rfl : text = c :: tail := List.append_cancel_right equal
  exact ⟨c, tail, rfl, numeric, elsewhere⟩

/-- The character starts a value. -/
def StartsValue (c : Char) : Prop := isBlank c = false ∧ c ≠ ']'

theorem startsValue_of_numeric {c : Char} (numeric : c = '-' ∨ isDigit c) : StartsValue c := by
  rcases numeric with rfl | digit
  · exact ⟨rfl, by simp⟩
  · constructor
    · simp only [isBlank, Bool.or_eq_false_iff, decide_eq_false_iff_not]
      refine ⟨⟨⟨?_, ?_⟩, ?_⟩, ?_⟩
      all_goals
        rintro rfl
        simp [isDigit] at digit
    · rintro rfl
      simp [isDigit] at digit

theorem Tree.exists_chars_eq_cons (tree : Tree) :
    ∃ c tail, tree.chars = c :: tail ∧ StartsValue c := by
  cases tree with
  | null => exact ⟨'n', _, rfl, rfl, by simp⟩
  | bool value =>
      cases value with
      | false => exact ⟨'f', _, rfl, rfl, by simp⟩
      | true => exact ⟨'t', _, rfl, rfl, by simp⟩
  | num text n written =>
      obtain ⟨c, tail, rfl, numeric, -⟩ := written.exists_cons
      exact ⟨c, tail, rfl, startsValue_of_numeric numeric⟩
  | str glyphs => exact ⟨'"', _, rfl, rfl, by simp⟩
  | arr gap items => exact ⟨'[', _, rfl, rfl, by simp⟩
  | obj gap fields => exact ⟨'\x7b', _, rfl, rfl, by simp⟩

theorem endsNumber_gap (gap : Gap) {s : List Char} (other : EndsNumber s) :
    EndsNumber (gap.chars ++ s) := by
  rcases charsEq : gap.chars with _ | ⟨b, blanks⟩
  · exact other
  · have blank := gap.isBlank_of_mem b (by rw [charsEq]; exact List.mem_cons_self)
    rintro d tail equal
    obtain ⟨rfl, -⟩ := List.cons.inj equal
    simp only [isBlank, Bool.or_eq_true, decide_eq_true_eq] at blank
    rcases blank with ((rfl | rfl) | rfl) | rfl
    all_goals simp [isDigit]

theorem endsNumber_of_sign {c : Char} (sign : c = ',' ∨ c = ']' ∨ c = '\x7d') (s : List Char) :
    EndsNumber (c :: s) := by
  rintro d tail equal
  obtain ⟨rfl, -⟩ := List.cons.inj equal
  rcases sign with rfl | rfl | rfl
  all_goals simp [isDigit]

theorem length_comma_le (first : Bool) : (comma first).length ≤ 1 := by
  cases first
  all_goals simp [comma]

/-- Every item but the first has its comma. -/
theorem Items.length_le_length_chars (first : Bool) : (items : Items) →
    items.length + (comma first).length ≤ (items.chars first).length + 1
  | .nil => by simpa [Items.length, Items.chars] using length_comma_le first
  | .cons before item after rest => by
      have later : rest.length + 1 ≤ (rest.chars false).length + 1 :=
        rest.length_le_length_chars false
      simp only [Items.length, Items.chars, List.length_append]
      omega

/-- Every field but the first has its comma. -/
theorem Fields.length_le_length_chars (first : Bool) : (fields : Fields) →
    fields.length + (comma first).length ≤ (fields.chars first).length + 1
  | .nil => by simpa [Fields.length, Fields.chars] using length_comma_le first
  | .cons before key afterKey beforeValue value after rest => by
      have later : rest.length + 1 ≤ (rest.chars false).length + 1 :=
        rest.length_le_length_chars false
      simp only [Fields.length, Fields.chars, List.length_append, List.length_cons]
      omega

theorem Items.endsNumber_chars (items : Items) (gap : Gap) (rest : List Char) :
    EndsNumber (gap.chars ++ (items.chars false ++ ']' :: rest)) := by
  cases items with
  | nil => exact endsNumber_gap gap (endsNumber_of_sign (.inr (.inl rfl)) rest)
  | cons before item after others =>
      exact endsNumber_gap gap (endsNumber_of_sign (.inl rfl) _)

theorem Fields.endsNumber_chars (fields : Fields) (gap : Gap) (rest : List Char) :
    EndsNumber (gap.chars ++ (fields.chars false ++ '\x7d' :: rest)) := by
  cases fields with
  | nil => exact endsNumber_gap gap (endsNumber_of_sign (.inr (.inr rfl)) rest)
  | cons before key afterKey beforeValue value after others =>
      exact endsNumber_gap gap (endsNumber_of_sign (.inl rfl) _)

section Steps

variable {α : Type} (item : List Char → Read α) (gap before : Gap) {first : Bool}
  {c : Char} {s bound : List Char} {acc : List α}

/-- Behind the comma and the gaps the next item is read. -/
theorem itemsWith_cons (starts : StartsValue c) :
    itemsWith item (b :: bound) first (gap.chars ++ (comma first ++ (before.chars ++ c :: s))) acc
      = itemsWith.next item bound (c :: s) acc := by
  obtain ⟨notBlank, notEnd⟩ := starts
  have behind : dropBlanks (before.chars ++ c :: s) = c :: s := by
    rw [before.dropBlanks_append, dropBlanks_cons_of_not_isBlank notBlank]
  rw [itemsWith, gap.dropBlanks_append]
  cases first with
  | true =>
      rw [comma, if_pos rfl, List.nil_append, behind]
      simp
  | false =>
      have atComma : dropBlanks (',' :: (before.chars ++ c :: s)) =
          ',' :: (before.chars ++ c :: s) := dropBlanks_cons_of_not_isBlank rfl _
      rw [comma, if_neg (by simp), List.singleton_append, atComma]
      simp [behind]
      split
      all_goals simp_all

theorem itemsWith_nil :
    itemsWith item (b :: bound) first (gap.chars ++ ']' :: s) acc = .ok (acc.reverse, s) := by
  rw [itemsWith, gap.dropBlanks_append, dropBlanks_cons_of_not_isBlank rfl]
  rfl

theorem keyStart_cons :
    keyStart first (gap.chars ++ (comma first ++ (before.chars ++ '"' :: s))) = .ok (true, s) := by
  have behind : dropBlanks (before.chars ++ '"' :: s) = '"' :: s := by
    rw [before.dropBlanks_append, dropBlanks_cons_of_not_isBlank rfl]
  rw [keyStart, gap.dropBlanks_append]
  cases first with
  | true =>
      rw [comma, if_pos rfl, List.nil_append, behind]
      simp
  | false =>
      have atComma : dropBlanks (',' :: (before.chars ++ '"' :: s)) =
          ',' :: (before.chars ++ '"' :: s) := dropBlanks_cons_of_not_isBlank rfl _
      rw [comma, if_neg (by simp), List.singleton_append, atComma]
      simp [behind]

theorem keyStart_nil : keyStart first (gap.chars ++ '\x7d' :: s) = .ok (false, s) := by
  rw [keyStart, gap.dropBlanks_append, dropBlanks_cons_of_not_isBlank rfl]
  rfl

theorem colon_append : colon (gap.chars ++ ':' :: s) = .ok s := by
  rw [colon, gap.dropBlanks_append, dropBlanks_cons_of_not_isBlank rfl]
  rfl

end Steps

mutual

/-- The reader takes the text of a tree for its value, unless the tree is nested
too deep. -/
theorem Tree.valueWithin_chars (n : Nat) (tree : Tree) (gap : Gap) (rest : List Char)
    (ends : EndsNumber rest) :
    ReadsWithin n tree.depth tree.value rest
      (valueWithin n (gap.chars ++ (tree.chars ++ rest))) := by
  have start {c : Char} {s : List Char} (notBlank : isBlank c = false) :
      dropBlanks (gap.chars ++ c :: s) = c :: s := by
    rw [gap.dropBlanks_append, dropBlanks_cons_of_not_isBlank notBlank]
  cases tree with
  | null =>
      refine .inl ⟨Nat.zero_le _, ?_⟩
      have atWord : dropBlanks (gap.chars ++ (Tree.null.chars ++ rest)) =
        'n' :: 'u' :: 'l' :: 'l' :: rest := start rfl
      rw [valueWithin.eq_def]
      simp only [atWord]
      rfl
  | bool value =>
      refine .inl ⟨Nat.zero_le _, ?_⟩
      cases value with
      | false =>
          have atWord : dropBlanks (gap.chars ++ ((Tree.bool false).chars ++ rest)) =
            'f' :: 'a' :: 'l' :: 's' :: 'e' :: rest := start rfl
          rw [valueWithin.eq_def]
          simp only [atWord]
          rfl
      | true =>
          have atWord : dropBlanks (gap.chars ++ ((Tree.bool true).chars ++ rest)) =
            't' :: 'r' :: 'u' :: 'e' :: rest := start rfl
          rw [valueWithin.eq_def]
          simp only [atWord]
          rfl
  | num text m written =>
      refine .inl ⟨Nat.zero_le _, ?_⟩
      obtain ⟨c, tail, rfl, numeric, read⟩ := written.exists_cons
      rw [Tree.chars, List.cons_append,
        valueWithin_of_number (start (startsValue_of_numeric numeric).1) numeric,
        ← List.cons_append, read rest ends]
      rfl
  | str glyphs =>
      refine .inl ⟨Nat.zero_le _, ?_⟩
      simp only [Tree.chars, List.cons_append, List.append_assoc, List.nil_append]
      rw [valueWithin_of_quote (start rfl), string_append]
      rfl
  | arr inner items =>
      simp only [Tree.chars, Tree.value, Tree.depth, List.cons_append, List.append_assoc,
        List.nil_append]
      rcases n with _ | n
      · exact .inr ⟨Nat.succ_pos _, _, valueWithin_zero_of_bracket (start rfl)⟩
      · rw [valueWithin_of_bracket (start rfl)]
        have enough := items.length_le_length_chars true
        have read := items.itemsWith_chars n true inner
          (gap.chars ++ '[' :: (inner.chars ++ (items.chars true ++ ']' :: rest))) [] rest
          (by simp only [List.length_append, List.length_cons]; omega)
        exact read.nested Json.arr
  | obj inner fields =>
      simp only [Tree.chars, Tree.value, Tree.depth, List.cons_append, List.append_assoc,
        List.nil_append]
      rcases n with _ | n
      · exact .inr ⟨Nat.succ_pos _, _, valueWithin_zero_of_brace (start rfl)⟩
      · rw [valueWithin_of_brace (start rfl)]
        have enough := fields.length_le_length_chars true
        have read := fields.fieldsWith_chars n true inner
          (gap.chars ++ '\x7b' :: (inner.chars ++ (fields.chars true ++ '\x7d' :: rest))) [] rest
          (by simp only [List.length_append, List.length_cons]; omega)
        exact read.nested ofFields

/-- The items of an array are read up to its end. -/
theorem Items.itemsWith_chars (n : Nat) (items : Items) (first : Bool) (gap : Gap)
    (bound : List Char) (acc : List Json) (rest : List Char)
    (enough : items.length < bound.length) :
    ReadsWithin n items.depth (acc.reverse ++ items.values) rest
      (itemsWith (valueWithin n) bound first (gap.chars ++ (items.chars first ++ ']' :: rest))
        acc) := by
  rcases bound with _ | ⟨b, bound⟩
  · simp at enough
  · cases items with
    | nil =>
        refine .inl ⟨Nat.zero_le _, ?_⟩
        rw [Items.chars, List.nil_append, itemsWith_nil, Items.values, List.append_nil]
    | cons before item after others =>
        obtain ⟨c, tail, charsEq, starts⟩ := item.exists_chars_eq_cons
        have ends : EndsNumber (after.chars ++ (others.chars false ++ ']' :: rest)) :=
          others.endsNumber_chars after rest
        have itemRead := item.valueWithin_chars n .empty _ ends
        simp only [Items.chars, List.append_assoc, charsEq, List.cons_append, Gap.empty,
          List.nil_append] at itemRead ⊢
        rw [itemsWith_cons _ _ _ starts, itemsWith.next]
        have othersRead := others.itemsWith_chars n false after bound (item.value :: acc) rest
          (by simpa [Items.length] using enough)
        rw [List.reverse_cons, List.append_assoc] at othersRead
        refine itemRead.andThen ?_
        exact othersRead

/-- The fields of an object are read up to its end. -/
theorem Fields.fieldsWith_chars (n : Nat) (fields : Fields) (first : Bool) (gap : Gap)
    (bound : List Char) (acc : List (String × Json)) (rest : List Char)
    (enough : fields.length < bound.length) :
    ReadsWithin n fields.depth (acc.reverse ++ fields.values) rest
      (fieldsWith (valueWithin n) bound first (gap.chars ++ (fields.chars first ++ '\x7d' :: rest))
        acc) := by
  rcases bound with _ | ⟨b, bound⟩
  · simp at enough
  · cases fields with
    | nil =>
        refine .inl ⟨Nat.zero_le _, ?_⟩
        rw [Fields.chars, List.nil_append, fieldsWith, keyStart_nil, Fields.values,
          List.append_nil]
        rfl
    | cons before key afterKey beforeValue value after others =>
        have ends : EndsNumber (after.chars ++ (others.chars false ++ '\x7d' :: rest)) :=
          others.endsNumber_chars after rest
        have valueRead := value.valueWithin_chars n beforeValue _ ends
        simp only [Fields.chars, List.append_assoc, List.cons_append]
        rw [fieldsWith, keyStart_cons]
        simp only [bind, Except.bind, string_append, colon_append]
        have othersRead := others.fieldsWith_chars n false after bound
          ((glyphText key, value.value) :: acc) rest (by simpa [Fields.length] using enough)
        rw [List.reverse_cons, List.append_assoc] at othersRead
        refine valueRead.andThen ?_
        exact othersRead

end

/-! ## What is read is the text of a tree -/

theorem eq_append_of_word {ws s rest : List Char} (read : word ws s = .ok rest) :
    s = ws ++ rest := by
  induction ws generalizing s with
  | nil =>
      cases read
      rfl
  | cons w ws ih =>
      rcases s with _ | ⟨c, s⟩
      · contradiction
      · rw [word] at read
        split at read
        · rename_i same
          rw [same, ih read, List.cons_append]
        · contradiction

theorem numberText_of_readNumber {s rest : List Char} {n : Number}
    (read : readNumber s = .ok (n, rest)) : ∃ text, s = text ++ rest ∧ NumberText text n := by
  obtain ⟨text, rfl, -⟩ := exists_text_of_readNumber read
  exact ⟨text, rfl, rest, read⟩

theorem exists_gap_of_keyStart_false {s rest : List Char} {first : Bool}
    (read : keyStart first s = .ok (false, rest)) :
    ∃ gap : Gap, s = gap.chars ++ '\x7d' :: rest := by
  obtain ⟨gap, sEq⟩ := exists_gap_append_dropBlanks s
  rw [keyStart] at read
  split at read
  · contradiction
  · rename_i atEnd
    cases read
    exact ⟨gap, by rw [sEq, atEnd]⟩
  · split at read
    · split at read <;> simp at read
    · split at read
      · split at read <;> simp at read
      · simp at read

theorem exists_gaps_of_keyStart_true {s rest : List Char} {first : Bool}
    (read : keyStart first s = .ok (true, rest)) :
    ∃ gap before : Gap, s = gap.chars ++ (comma first ++ (before.chars ++ '"' :: rest)) := by
  obtain ⟨gap, sEq⟩ := exists_gap_append_dropBlanks s
  rw [keyStart] at read
  split at read
  · contradiction
  · cases read
  · rename_i c tail notEnd start
    rw [start] at sEq
    cases first with
    | true =>
        simp only [if_true] at read
        split at read
        · rename_i isQuote
          cases read
          exact ⟨gap, .empty, by simp [sEq, isQuote, comma, Gap.empty]⟩
        · contradiction
    | false =>
        simp only [Bool.false_eq_true, if_false] at read
        split at read
        · rename_i isComma
          obtain ⟨before, tailEq⟩ := exists_gap_append_dropBlanks tail
          split at read
          · contradiction
          · rename_i isQuote
            cases read
            exact ⟨gap, before, by rw [sEq, tailEq, isQuote, isComma]; rfl⟩
          · contradiction
          · contradiction
        · contradiction

theorem exists_gap_of_colon {s rest : List Char} (read : colon s = .ok rest) :
    ∃ gap : Gap, s = gap.chars ++ ':' :: rest := by
  obtain ⟨gap, sEq⟩ := exists_gap_append_dropBlanks s
  rw [colon] at read
  split at read
  · contradiction
  · rename_i start
    cases read
    exact ⟨gap, by rw [sEq, start]⟩
  · contradiction

section Collections

variable {n : Nat}
  (sound : ∀ {s rest : List Char} {v : Json}, valueWithin n s = .ok (v, rest) →
    ∃ (gap : Gap) (tree : Tree),
      s = gap.chars ++ (tree.chars ++ rest) ∧ tree.value = v ∧ tree.depth ≤ n)

include sound

theorem exists_items_of_itemsWith {bound s rest : List Char} {first : Bool} {acc xs : List Json}
    (read : itemsWith (valueWithin n) bound first s acc = .ok (xs, rest)) :
    ∃ (gap : Gap) (items : Items), s = gap.chars ++ (items.chars first ++ ']' :: rest) ∧
      xs = acc.reverse ++ items.values ∧ items.depth ≤ n := by
  induction bound generalizing first s acc with
  | nil =>
      rw [itemsWith] at read
      contradiction
  | cons b bound ih =>
      -- the item that is read next, and by induction the items after it
      have next {s : List Char}
          (read : itemsWith.next (valueWithin n) bound s acc = .ok (xs, rest)) :
          ∃ (before : Gap) (item : Tree) (after : Gap) (others : Items),
            s = before.chars ++
              (item.chars ++ (after.chars ++ (others.chars false ++ ']' :: rest))) ∧
              xs = acc.reverse ++ item.value :: others.values ∧ item.depth ≤ n ∧
                others.depth ≤ n := by
        rw [itemsWith.next] at read
        obtain ⟨⟨x, tail⟩, itemRead, read⟩ := bind_eq_ok_iff.mp read
        obtain ⟨before, item, rfl, rfl, itemFits⟩ := sound itemRead
        obtain ⟨after, others, rfl, rfl, othersFit⟩ := ih read
        exact ⟨before, item, after, others, rfl, by simp, itemFits, othersFit⟩
      obtain ⟨gap, sEq⟩ := exists_gap_append_dropBlanks s
      rw [itemsWith] at read
      split at read
      · contradiction
      · rename_i atEnd
        cases read
        exact ⟨gap, .nil, by rw [sEq, atEnd, Items.chars, List.nil_append],
          by simp [Items.values], Nat.zero_le _⟩
      · rename_i c tail notEnd start
        rw [start] at sEq
        cases first with
        | true =>
            obtain ⟨before, item, after, others, tailEq, rfl, itemFits, othersFit⟩ := next read
            refine ⟨gap, .cons before item after others, ?_, rfl,
              Nat.max_le.mpr ⟨itemFits, othersFit⟩⟩
            rw [sEq, tailEq]
            simp [Items.chars, comma]
        | false =>
            simp only [Bool.false_eq_true, if_false] at read
            split at read
            · rename_i isComma
              subst isComma
              obtain ⟨behind, tailEq⟩ := exists_gap_append_dropBlanks tail
              split at read
              · contradiction
              · contradiction
              · obtain ⟨before, item, after, others, restEq, rfl, itemFits, othersFit⟩ := next read
                refine ⟨gap, .cons (behind.append before) item after others, ?_, rfl,
                  Nat.max_le.mpr ⟨itemFits, othersFit⟩⟩
                rw [sEq, tailEq, restEq]
                simp [Items.chars, comma, Gap.append]
            · contradiction

theorem exists_fields_of_fieldsWith {bound s rest : List Char} {first : Bool}
    {acc fields : List (String × Json)}
    (read : fieldsWith (valueWithin n) bound first s acc = .ok (fields, rest)) :
    ∃ (gap : Gap) (written : Fields),
      s = gap.chars ++ (written.chars first ++ '\x7d' :: rest) ∧
        fields = acc.reverse ++ written.values ∧ written.depth ≤ n := by
  induction bound generalizing first s acc with
  | nil =>
      rw [fieldsWith] at read
      contradiction
  | cons b bound ih =>
      rw [fieldsWith] at read
      obtain ⟨⟨more, tail⟩, keyRead, read⟩ := bind_eq_ok_iff.mp read
      cases more with
      | false =>
          obtain ⟨rfl, rfl⟩ := Prod.mk.inj (Except.ok.inj read)
          obtain ⟨gap, rfl⟩ := exists_gap_of_keyStart_false keyRead
          exact ⟨gap, .nil, rfl, by simp [Fields.values], Nat.zero_le _⟩
      | true =>
          obtain ⟨⟨key, tail⟩, textRead, read⟩ := bind_eq_ok_iff.mp read
          obtain ⟨tail, colonRead, read⟩ := bind_eq_ok_iff.mp read
          obtain ⟨⟨v, tail⟩, valueRead, read⟩ := bind_eq_ok_iff.mp read
          obtain ⟨gap, before, rfl⟩ := exists_gaps_of_keyStart_true keyRead
          obtain ⟨glyphs, rfl, rfl⟩ := exists_glyphs_of_string textRead
          obtain ⟨afterKey, rfl⟩ := exists_gap_of_colon colonRead
          obtain ⟨beforeValue, value, rfl, rfl, valueFits⟩ := sound valueRead
          obtain ⟨after, others, rfl, rfl, othersFit⟩ := ih read
          refine ⟨gap, .cons before glyphs afterKey beforeValue value after others, ?_, ?_,
            Nat.max_le.mpr ⟨valueFits, othersFit⟩⟩
          · simp [Fields.chars]
          · simp [Fields.values]

end Collections

/-- A value that is read is written by a tree if that holds of the values inside
of it. -/
theorem exists_tree_of_step {n : Nat}
    (sound : ∀ m, n = m + 1 → ∀ {s rest : List Char} {v : Json}, valueWithin m s = .ok (v, rest) →
      ∃ (gap : Gap) (tree : Tree),
        s = gap.chars ++ (tree.chars ++ rest) ∧ tree.value = v ∧ tree.depth ≤ m)
    {s rest : List Char} {v : Json} (read : valueWithin n s = .ok (v, rest)) :
    ∃ (gap : Gap) (tree : Tree),
      s = gap.chars ++ (tree.chars ++ rest) ∧ tree.value = v ∧ tree.depth ≤ n := by
  obtain ⟨gap, sEq⟩ := exists_gap_append_dropBlanks s
  have done (tree : Tree) (textEq : dropBlanks s = tree.chars ++ rest) (valueEq : tree.value = v)
      (fits : tree.depth ≤ n) :
      ∃ (gap : Gap) (tree : Tree),
        s = gap.chars ++ (tree.chars ++ rest) ∧ tree.value = v ∧ tree.depth ≤ n :=
    ⟨gap, tree, by rw [← textEq]; exact sEq, valueEq, fits⟩
  have numeric {c : Char} {tail : List Char} (start : dropBlanks s = c :: tail)
      (isNumeric : c = '-' ∨ isDigit c) :
      ∃ (gap : Gap) (tree : Tree),
        s = gap.chars ++ (tree.chars ++ rest) ∧ tree.value = v ∧ tree.depth ≤ n := by
    rw [valueWithin_of_number start isNumeric] at read
    obtain ⟨⟨m, tail'⟩, numberRead, equal⟩ := map_eq_ok_iff.mp read
    cases equal
    obtain ⟨text, textEq, written⟩ := numberText_of_readNumber numberRead
    exact done (.num text m written) (start.trans textEq) rfl (Nat.zero_le _)
  rw [valueWithin.eq_def] at read
  simp only at read
  split at read
  · contradiction
  · rename_i tail start
    obtain ⟨tail', wordRead, equal⟩ := map_eq_ok_iff.mp read
    cases equal
    exact done .null (by rw [start, eq_append_of_word wordRead]; rfl) rfl (Nat.zero_le _)
  · rename_i tail start
    obtain ⟨tail', wordRead, equal⟩ := map_eq_ok_iff.mp read
    cases equal
    exact done (.bool true) (by rw [start, eq_append_of_word wordRead]; rfl) rfl (Nat.zero_le _)
  · rename_i tail start
    obtain ⟨tail', wordRead, equal⟩ := map_eq_ok_iff.mp read
    cases equal
    exact done (.bool false) (by rw [start, eq_append_of_word wordRead]; rfl) rfl (Nat.zero_le _)
  · rename_i tail start
    obtain ⟨⟨text, tail'⟩, textRead, equal⟩ := map_eq_ok_iff.mp read
    cases equal
    obtain ⟨glyphs, rfl, rfl⟩ := exists_glyphs_of_string textRead
    exact done (.str glyphs) (by rw [start]; simp [Tree.chars]) rfl (Nat.zero_le _)
  · rename_i tail start
    exact numeric start (.inl rfl)
  · rename_i tail start
    split at read
    · contradiction
    · rename_i depth
      obtain ⟨⟨items, tail'⟩, itemsRead, equal⟩ := map_eq_ok_iff.mp read
      cases equal
      obtain ⟨inner, written, rfl, rfl, fits⟩ :=
        exists_items_of_itemsWith (sound depth rfl) itemsRead
      exact done (.arr inner written) (by rw [start]; simp [Tree.chars]) rfl
        (Nat.succ_le_succ fits)
  · rename_i tail start
    split at read
    · contradiction
    · rename_i depth
      obtain ⟨⟨fields, tail'⟩, fieldsRead, equal⟩ := map_eq_ok_iff.mp read
      cases equal
      obtain ⟨inner, written, rfl, rfl, fits⟩ :=
        exists_fields_of_fieldsWith (sound depth rfl) fieldsRead
      exact done (.obj inner written) (by rw [start]; simp [Tree.chars]) rfl
        (Nat.succ_le_succ fits)
  · rename_i c tail _ _ _ _ _ _ _ start
    split at read
    · rename_i digit
      exact numeric start (.inr digit)
    · contradiction

/-- What the reader takes for a value is the text of a tree with that value. -/
theorem exists_tree_of_valueWithin {n : Nat} {s rest : List Char} {v : Json}
    (read : valueWithin n s = .ok (v, rest)) :
    ∃ (gap : Gap) (tree : Tree),
      s = gap.chars ++ (tree.chars ++ rest) ∧ tree.value = v ∧ tree.depth ≤ n := by
  induction n generalizing s rest v with
  | zero => exact exists_tree_of_step (fun _ equal => by contradiction) read
  | succ n ih => exact exists_tree_of_step (fun m equal => by cases equal; exact ih) read

/-! ## Whole texts -/

theorem atEnd_gap (gap : Gap) : atEnd gap.chars = .ok () := by
  have nothing : dropBlanks gap.chars = [] := by
    rw [← List.append_nil gap.chars, gap.dropBlanks_append]
    rfl
  rw [atEnd, nothing]

theorem exists_gap_of_atEnd {s : List Char} (ends : atEnd s = .ok ()) :
    ∃ gap : Gap, s = gap.chars := by
  rcases exists_gap_append_dropBlanks s with ⟨gap, textEq⟩
  unfold atEnd at ends
  split at ends
  · rename_i nothing
    rw [nothing, List.append_nil] at textEq
    exact ⟨gap, textEq⟩
  · contradiction

/-- A text that is one tree between two gaps is read as the value of the tree if
the tree is nested less than `nestingLimit` deep, and refused for its depth
otherwise. -/
theorem Tree.ofChars?_chars (tree : Tree) (before after : Gap) :
    tree.depth < nestingLimit ∧
        ofChars? (before.chars ++ (tree.chars ++ after.chars)) = .ok tree.value ∨
      nestingLimit ≤ tree.depth ∧
        ∃ place, ofChars? (before.chars ++ (tree.chars ++ after.chars)) =
          .error (.next .nestedTooDeep place) := by
  have nothing : EndsNumber [] := fun c rest equal => by contradiction
  have ends := endsNumber_gap after nothing
  rw [List.append_nil] at ends
  have read := tree.valueWithin_chars (nestingLimit - 1) before after.chars ends
  rw [ofChars?, wholly]
  rcases read with ⟨fits, read⟩ | ⟨deep, place, read⟩
  · refine .inl ⟨Nat.lt_of_le_pred (by decide) fits, ?_⟩
    rw [read]
    simp only [bind, Except.bind, atEnd_gap]
    rfl
  · refine .inr ⟨Nat.le_of_pred_lt deep, place, ?_⟩
    rw [read]
    rfl

/-- A text that is read is one tree between two gaps. -/
theorem exists_tree_of_ofChars? {text : List Char} {v : Json} (read : ofChars? text = .ok v) :
    ∃ (before : Gap) (tree : Tree) (after : Gap),
      text = before.chars ++ (tree.chars ++ after.chars) := by
  obtain ⟨⟨value, rest⟩, valueEq, done⟩ := bind_eq_ok_iff.mp read
  obtain ⟨⟨⟩, ends, -⟩ := bind_eq_ok_iff.mp done
  rcases exists_gap_of_atEnd ends with ⟨after, rfl⟩
  rcases exists_tree_of_valueWithin valueEq with ⟨before, tree, textEq, -⟩
  exact ⟨before, tree, after, textEq⟩

end PolicyScan.Json
