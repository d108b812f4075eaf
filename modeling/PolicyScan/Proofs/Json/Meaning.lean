import PolicyScan.Json.Expect
import PolicyScan.Proofs.Json.Skip

/-!
# What readers make of values

A reader of a known kind depends on the value that a text writes and not on how it is
written: it understands a meaning of values if it takes every text of a value that has the
meaning for it, and refuses every text of a value that has none (`Understands`).
-/

namespace PolicyScan.Json

/-- The reader takes the texts of a value for what the value means, up to their ends, and
fails if it means nothing. -/
def Understands {α : Type} (read : List Char → Read α) (meaning : Json → Option α) : Prop :=
  ∀ ⦃v : Json⦄ ⦃text : List Char⦄, Written v text → ∀ (gap : Gap) (rest : List Char),
    (read (gap.chars ++ (text ++ rest))).toOption = (meaning v).map (·, rest)

section

variable {ε δ α β : Type}

theorem toOption_eq_some_iff {x : Except ε α} {a : α} : x.toOption = some a ↔ x = .ok a := by
  cases x <;> simp [Except.toOption]

theorem toOption_mapError (f : ε → δ) (x : Except ε α) : (x.mapError f).toOption = x.toOption := by
  cases x <;> rfl

theorem toOption_map (f : α → β) (x : Except ε α) :
    (x.map f).toOption = x.toOption.map f := by
  cases x <;> rfl

theorem toOption_bind (f : α → Except ε β) (x : Except ε α) :
    (x >>= f).toOption = x.toOption.bind fun a => (f a).toOption := by
  cases x <;> rfl

end

variable {α β : Type} {v : Json} {text : List Char}

/-- What is read may be changed. -/
theorem Understands.map {read : List Char → Read α} {meaning : Json → Option α}
    (understood : Understands read meaning) (f : α → β) :
    Understands (fun s => (read s).map fun (x, rest) => (f x, rest))
      fun v => (meaning v).map f := by
  intro v text written gap rest
  rw [toOption_map, understood written, Option.map_map, Option.map_map]
  rfl

theorem ne_of_numeric {c : Char} (numeric : c = '-' ∨ isDigit c) :
    c ≠ '"' ∧ c ≠ '[' ∧ c ≠ '\x7b' := by
  refine ⟨?_, ?_, ?_⟩
  all_goals
    rintro rfl
    simp [isDigit] at numeric

/-! ## Texts -/

theorem understands_textValue : Understands textValue text? := by
  intro v text written gap rest
  have start := written.dropBlanks_append gap rest
  rw [textValue, start]
  cases written with
  | str glyphs =>
      simp only [List.cons_append, List.append_assoc, List.nil_append, string_append]
      rfl
  | num n numeral =>
      obtain ⟨c, tail, rfl, numeric⟩ := numeral.exists_cons
      have notQuote := (ne_of_numeric numeric).1
      split
      · next equal => exact absurd (List.cons.inj equal).1 notQuote
      · rfl
  | _ => rfl

/-! ## Lists -/

/-- Items are understood up to the end of their array. -/
theorem WrittenItems.toOption_itemsWith {read : List Char → Read α} {meaning : Json → Option α}
    (understood : Understands read meaning) {items : List Json} {text : List Char} {first : Bool}
    (written : WrittenItems first items text) (gap : Gap) (rest : List Char) {bound : List Char}
    (acc : List α) (enough : items.length < bound.length) :
    (itemsWith read bound first (gap.chars ++ (text ++ ']' :: rest)) acc).toOption =
      (items.mapM meaning).map fun xs => (acc.reverse ++ xs, rest) := by
  induction items generalizing first text gap bound acc with
  | nil =>
      rcases bound with _ | ⟨b, bound⟩
      · simp at enough
      · cases written with
        | nil =>
            rw [List.nil_append, itemsWith_nil]
            simp [Except.toOption]
  | cons item items ih =>
      rcases bound with _ | ⟨b, bound⟩
      · simp at enough
      · cases written with
        | @cons _ _ _ itemText others before itemWritten after restWritten =>
            obtain ⟨c, tail, rfl, starts⟩ := itemWritten.exists_cons
            have itemRead := understood itemWritten .empty (after.chars ++ (others ++ ']' :: rest))
            simp only [Gap.empty, List.nil_append, List.cons_append] at itemRead
            simp only [List.append_assoc, List.cons_append]
            rw [itemsWith_cons _ _ _ starts, itemsWith.next, toOption_bind, itemRead,
              List.mapM_cons]
            cases meaning item with
            | none => rfl
            | some x =>
                have later := ih restWritten after (x :: acc) (by simpa using enough)
                simp only [Option.map_some, Option.bind_some, later]
                cases items.mapM meaning <;> simp

theorem Understands.listValue {read : List Char → Read α} {meaning : Json → Option α}
    (understood : Understands read meaning) :
    Understands (listValue read) fun v => v.items?.bind (List.mapM meaning) := by
  intro v text written gap rest
  have start := written.dropBlanks_append gap rest
  rw [Json.listValue, start]
  cases written with
  | @arr items inner gap' itemsWritten =>
      have := itemsWritten.size_le
      have := length_le_sizeItems items
      simp only [List.cons_append, List.append_assoc, List.nil_append]
      rw [itemsWritten.toOption_itemsWith understood gap' rest []]
      · simp [items?]
      · simp only [List.length_append, List.length_cons]
        omega
  | num n numeral =>
      obtain ⟨c, tail, rfl, numeric⟩ := numeral.exists_cons
      have notBracket := (ne_of_numeric numeric).2.1
      split
      · next equal => exact absurd (List.cons.inj equal).1 notBracket
      · rfl
  | _ => rfl

/-! ## Names -/

/-- The value of a name, given as a text or as an object whose one field is null. -/
def named? (options : List (String × α)) : Json → Option α
  | .str name => options.lookup name
  | .obj [(name, .null)] => options.lookup name
  | _ => none

theorem toOption_chosen (options : List (String × α)) (name : String) (rest : List Char) :
    (chosen options name rest).toOption = options.lookup name := by
  rw [chosen]
  cases options.lookup name <;> rfl

theorem named?_obj_eq_none {options : List (String × α)} {name : String} {value : Json}
    {others : List (String × Json)} (other : value ≠ .null ∨ others ≠ []) :
    named? options (.obj ((name, value) :: others)) = none := by
  unfold named?
  split
  · contradiction
  · next equal =>
      cases equal
      simp at other
  · rfl

/-- Null is read, and nothing else in its place. -/
theorem Written.nullValue_cases (written : Written v text) (gap : Gap) (rest : List Char) :
    v = .null ∧ nullValue (gap.chars ++ (text ++ rest)) = .ok rest ∨
      v ≠ .null ∧ ∃ fault, nullValue (gap.chars ++ (text ++ rest)) = .error fault := by
  have start := written.dropBlanks_append gap rest
  rw [nullValue, start]
  cases written with
  | null => exact .inl ⟨rfl, rfl⟩
  | num n numeral =>
      obtain ⟨c, tail, rfl, numeric⟩ := numeral.exists_cons
      refine .inr ⟨by simp, ?_⟩
      split
      · next equal =>
          obtain ⟨rfl, -⟩ := List.cons.inj equal
          simp [isDigit] at numeric
      · exact ⟨_, rfl⟩
  | _ => exact .inr ⟨by simp, _, rfl⟩

/-- The one field of a choice, up to its end. -/
theorem WrittenFields.toOption_choice {options : List (String × α)}
    {fields : List (String × Json)} (written : WrittenFields true fields text) {s : List Char}
    (inner : Gap) (rest : List Char)
    (start : dropBlanks s = '\x7b' :: (inner.chars ++ (text ++ '\x7d' :: rest))) :
    (choice options s).toOption = (named? options (.obj fields)).map (·, rest) := by
  rw [choice, start]
  cases written with
  | nil =>
      have atEnd : dropBlanks (inner.chars ++ '\x7d' :: rest) = '\x7d' :: rest := by
        rw [inner.dropBlanks_append, dropBlanks_cons_of_not_isBlank rfl]
      simp only [List.nil_append, atEnd]
      rfl
  | @cons _ value others valueText othersText before key afterKey beforeValue valueWritten after
      restWritten =>
      have atKey (s : List Char) :
          dropBlanks (inner.chars ++ (comma true ++ (before.chars ++ '"' :: s))) = '"' :: s :=
        dropBlanks_part true inner before rfl s
      simp only [List.append_assoc, List.cons_append, atKey, string_append, bind, Except.bind]
      cases known : options.lookup (glyphText key) with
      | none =>
          have nothing : named? options (.obj ((glyphText key, value) :: others)) = none := by
            by_cases single : value = .null ∧ others = []
            · rw [single.1, single.2, named?, known]
            · exact named?_obj_eq_none (not_and_or.mp single)
          simp only [chosen, known, nothing]
          rfl
      | some x =>
          simp only [chosen, known, colon_append]
          rcases valueWritten.nullValue_cases beforeValue
              (after.chars ++ (othersText ++ '\x7d' :: rest)) with
            ⟨rfl, nullRead⟩ | ⟨notNull, fault, nullRead⟩
          · simp only [nullRead, after.dropBlanks_append]
            cases restWritten with
            | nil =>
                rw [named?, known, List.nil_append, dropBlanks_cons_of_not_isBlank rfl]
                rfl
            | cons =>
                rw [named?_obj_eq_none (.inr (List.cons_ne_nil _ _)), comma,
                  if_neg Bool.false_ne_true]
                simp only [List.append_assoc, List.cons_append, List.nil_append]
                rw [dropBlanks_cons_of_not_isBlank rfl]
                rfl
          · simp only [nullRead, named?_obj_eq_none (.inl notNull)]
            rfl

theorem understands_choice (options : List (String × α)) :
    Understands (choice options) (named? options) := by
  intro v text written gap rest
  have start := written.dropBlanks_append gap rest
  cases written with
  | obj inner fieldsWritten =>
      exact fieldsWritten.toOption_choice inner rest (by simpa using start)
  | str glyphs =>
      rw [choice, start]
      simp only [List.cons_append, List.append_assoc, List.nil_append, string_append, bind,
        Except.bind]
      rw [named?, ← toOption_chosen options _ rest]
      cases chosen options (glyphText glyphs) rest <;> rfl
  | num n numeral =>
      obtain ⟨c, tail, rfl, numeric⟩ := numeral.exists_cons
      obtain ⟨notQuote, -, notBrace⟩ := ne_of_numeric numeric
      rw [choice, start]
      split
      · next equal => exact absurd equal (List.cons_ne_nil _ _)
      · next equal => exact absurd (List.cons.inj equal).1 notQuote
      · next equal => exact absurd (List.cons.inj equal).1 notBrace
      · rfl
  | _ =>
      rw [choice, start]
      rfl

end PolicyScan.Json
