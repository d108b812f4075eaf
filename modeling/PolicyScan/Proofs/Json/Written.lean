import PolicyScan.Proofs.Json.Pretty

/-!
# Texts that write values

A tree of a text knows the values of its numbers.  For a reader that passes over numbers
it is enough that they are written as numerals, so `Written` relates a text to a value
with its fields as they stand in the text, repeated ones included, and with any numbers in
the places of its numerals.  Every value is written by its indented text
(`written_prettyChars`).
-/

namespace PolicyScan.Json

/-! ## Numerals -/

/-- Digits, at least one. -/
structure SomeDigits (ds : List Char) : Prop where
  ne_nil : ds ≠ []
  isDigit_of_mem : ∀ c ∈ ds, isDigit c

/-- A point with digits behind it, or nothing. -/
inductive FractionText : List Char → Prop
  | none : FractionText []
  | some {ds : List Char} (digits : SomeDigits ds) : FractionText ('.' :: ds)

/-- The letter of an exponent with its sign and digits behind it, or nothing. -/
inductive ExponentText : List Char → Prop
  | none : ExponentText []
  | some {letter : Char} {sign ds : List Char} (isLetter : letter = 'e' ∨ letter = 'E')
      (isSign : sign = [] ∨ sign = ['+'] ∨ sign = ['-']) (digits : SomeDigits ds) :
      ExponentText (letter :: (sign ++ ds))

/-- A numeral without a sign. -/
inductive UnsignedNumeral : List Char → Prop
  | mk {whole fraction exponent : List Char} (isWhole : WholeDigits whole)
      (isFraction : FractionText fraction) (isExponent : ExponentText exponent) :
      UnsignedNumeral (whole ++ (fraction ++ exponent))

/-- The text of a number, however large. -/
inductive Numeral : List Char → Prop
  | unsigned {text : List Char} (isUnsigned : UnsignedNumeral text) : Numeral text
  | negative {text : List Char} (isUnsigned : UnsignedNumeral text) : Numeral ('-' :: text)

theorem SomeDigits.cons {c : Char} (digit : isDigit c) {ds : List Char}
    (digits : ∀ c ∈ ds, isDigit c) : SomeDigits (c :: ds) :=
  ⟨List.cons_ne_nil c ds, List.forall_mem_cons.mpr ⟨digit, digits⟩⟩

theorem WholeDigits.someDigits {ds : List Char} (whole : WholeDigits ds) : SomeDigits ds :=
  ⟨whole.ne_nil, whole.isDigit_of_mem⟩

theorem wholeDigits_of_head?_ne {ds : List Char} (digits : SomeDigits ds)
    (notZero : ds.head? ≠ some '0') : WholeDigits ds :=
  ⟨digits.ne_nil, digits.isDigit_of_mem, fun isZero => absurd isZero notZero⟩

theorem IntText.numeral {text : List Char} {value : Int} (written : IntText text value) :
    Numeral text := by
  cases written with
  | unsigned whole =>
      have isUnsigned := UnsignedNumeral.mk whole .none .none
      rw [List.append_nil, List.append_nil] at isUnsigned
      exact .unsigned isUnsigned
  | negative whole ne_zero =>
      have isUnsigned := UnsignedNumeral.mk whole .none .none
      rw [List.append_nil, List.append_nil] at isUnsigned
      exact .negative isUnsigned

/-- A sign may stand in front. -/
theorem numeral_sign_append {text : String} (isUnsigned : UnsignedNumeral text.toList)
    (negative : Bool) : Numeral ((if negative then "-" else "") ++ text).toList := by
  rw [String.toList_append]
  cases negative with
  | false => exact .unsigned isUnsigned
  | true => exact .negative isUnsigned

section Floats

open Binary64 (positional)

theorem isDigit_of_mem_toDigits {n : Nat} : ∀ c ∈ Nat.toDigits 10 n, isDigit c :=
  (wholeDigits_toDigits n).isDigit_of_mem

theorem wholeDigits_shifted (digits p : Nat) :
    WholeDigits (Nat.toDigits 10 digits ++ List.replicate (if digits = 0 then 0 else p) '0') := by
  by_cases zero : digits = 0
  · rw [zero, if_pos rfl, List.replicate_zero, List.append_nil]
    exact wholeDigits_toDigits 0
  · rw [if_neg zero]
    apply wholeDigits_of_head?_ne
    · constructor
      · exact List.append_ne_nil_of_left_ne_nil Nat.toDigits_ne_nil _
      · intro c member
        rcases List.mem_append.mp member with member | member
        · exact isDigit_of_mem_toDigits c member
        · rw [List.eq_of_mem_replicate member]
          rfl
    · rw [List.head?_append_of_ne_nil _ Nat.toDigits_ne_nil]
      exact head?_toDigits_ne_zero (Nat.pos_of_ne_zero zero)

/-- The digits of a number with zeros in front, more than `places` of them. -/
def padded (places digits : Nat) : List Char :=
  List.replicate (places + 1 - (Nat.toDigits 10 digits).length) '0' ++ Nat.toDigits 10 digits

theorem isDigit_of_mem_padded {places digits : Nat} : ∀ c ∈ padded places digits, isDigit c := by
  intro c member
  rcases List.mem_append.mp member with member | member
  · rw [List.eq_of_mem_replicate member]
    rfl
  · exact isDigit_of_mem_toDigits c member

theorem length_padded (places digits : Nat) :
    (padded places digits).length = max (places + 1) (Nat.toDigits 10 digits).length := by
  simp only [padded, List.length_append, List.length_replicate]
  omega

/-- One zero stands in front of the point, or digits that do not start with zero. -/
theorem wholeDigits_take_padded {places : Nat} (nonzero : 0 < places) (digits : Nat) :
    WholeDigits ((padded places digits).take ((padded places digits).length - places)) := by
  have lengthEq := length_padded places digits
  by_cases short : (Nat.toDigits 10 digits).length ≤ places
  · have paddedEq : padded places digits = '0' :: (List.replicate
        (places - (Nat.toDigits 10 digits).length) '0' ++ Nat.toDigits 10 digits) := by
      rw [padded, Nat.succ_sub short, List.replicate_succ, List.cons_append]
    have one : (padded places digits).length - places = 1 := by omega
    rw [one, paddedEq]
    exact wholeDigits_toDigits 0
  · have paddedEq : padded places digits = Nat.toDigits 10 digits := by
      rw [padded, Nat.sub_eq_zero_of_le (by omega), List.replicate_zero, List.nil_append]
    apply wholeDigits_of_head?_ne
    · constructor
      · rw [← List.length_pos_iff, List.length_take]
        omega
      · exact fun c member => isDigit_of_mem_padded c (List.mem_of_mem_take member)
    · rw [List.head?_take, if_neg (by omega), paddedEq]
      apply head?_toDigits_ne_zero
      apply Nat.pos_of_ne_zero
      rintro rfl
      simp at short
      omega

theorem fractionText_drop_padded {places : Nat} (nonzero : 0 < places) (digits : Nat) :
    FractionText ('.' :: (padded places digits).drop ((padded places digits).length - places)) := by
  have lengthEq := length_padded places digits
  apply FractionText.some
  constructor
  · rw [← List.length_pos_iff, List.length_drop]
    omega
  · exact fun c member => isDigit_of_mem_padded c (List.mem_of_mem_drop member)

theorem numeral_positional (negative : Bool) (digits : Nat) (p : Int) :
    Numeral (positional negative digits p true).toList := by
  rw [positional]
  split
  · have isUnsigned := UnsignedNumeral.mk (wholeDigits_shifted digits p.toNat)
      (.some (wholeDigits_toDigits 0).someDigits) .none
    rw [String.append_assoc]
    apply numeral_sign_append
    rw [String.toList_append, String.toList_ofList]
    exact isUnsigned
  · rename_i below
    have nonzero : 0 < (-p).toNat := by omega
    have isUnsigned := UnsignedNumeral.mk (wholeDigits_take_padded nonzero digits)
      (fractionText_drop_padded nonzero digits) .none
    rw [List.append_nil] at isUnsigned
    simp only [List.splitAt_eq]
    rw [String.append_assoc, String.append_assoc]
    apply numeral_sign_append
    rw [String.toList_append, String.toList_append, String.toList_ofList, String.toList_ofList,
      String.toList_ofList]
    exact isUnsigned

theorem numeral_documentText (x : Binary64) : Numeral x.documentText.toList := by
  rw [Binary64.documentText, Binary64.scientificText]
  rcases x.shortest with ⟨digits, p⟩
  dsimp only
  split
  · exact numeral_positional x.negative digits p
  · rename_i far
    have notZero : digits ≠ 0 := fun zero => far (.inl zero)
    have head := head?_toDigits_ne_zero (Nat.pos_of_ne_zero notZero)
    have digitsOnly := isDigit_of_mem_toDigits (n := digits)
    obtain ⟨d, ds, digitsEq⟩ :=
      List.exists_cons_of_ne_nil (Nat.toDigits_ne_nil (n := digits) (b := 10))
    rw [digitsEq] at head digitsOnly
    rw [List.forall_mem_cons] at digitsOnly
    have lead : WholeDigits [d] :=
      wholeDigits_of_head?_ne (.cons digitsOnly.1 (by simp)) head
    have exponent : ExponentText
        ((if p + Binary64.digitCount digits - 1 < 0 then "e-" else "e" ++ "+") ++
          toString (p + Binary64.digitCount digits - 1).natAbs).toList := by
      rw [String.toList_append, Nat.toString_eq_repr, Nat.toList_repr]
      split
      · exact .some (.inl rfl) (.inr (.inr rfl)) (wholeDigits_toDigits _).someDigits
      · exact .some (.inl rfl) (.inr (.inl rfl)) (wholeDigits_toDigits _).someDigits
    rw [String.append_assoc, String.append_assoc]
    apply numeral_sign_append
    rw [String.toList_append, digitsEq]
    cases ds with
    | nil => simpa using UnsignedNumeral.mk lead .none exponent
    | cons c ds =>
        have fraction := FractionText.some ⟨List.cons_ne_nil c ds, digitsOnly.2⟩
        simpa using UnsignedNumeral.mk lead fraction exponent

end Floats

theorem numeral_text (n : Number) : Numeral n.text.toList := by
  cases n with
  | int value inRange => exact (intText_toString value).numeral
  | float x => exact numeral_documentText x

/-! ## Written values -/

mutual

/-- A text writes a value, fields as they stand and numbers aside. -/
inductive Written : Json → List Char → Prop
  | null : Written .null ['n', 'u', 'l', 'l']
  | isTrue : Written (.bool true) ['t', 'r', 'u', 'e']
  | isFalse : Written (.bool false) ['f', 'a', 'l', 's', 'e']
  | num {text : List Char} (n : Number) (numeral : Numeral text) : Written (.num n) text
  | str (glyphs : List Glyph) :
    Written (.str (glyphText glyphs)) ('"' :: (glyphChars glyphs ++ ['"']))
  | arr {items : List Json} {text : List Char} (gap : Gap)
    (written : WrittenItems true items text) :
    Written (.arr items) ('[' :: (gap.chars ++ (text ++ [']'])))
  | obj {fields : List (String × Json)} {text : List Char} (gap : Gap)
    (written : WrittenFields true fields text) :
    Written (.obj fields) ('\x7b' :: (gap.chars ++ (text ++ ['\x7d'])))

/-- A text writes items, with a comma before all but the first. -/
inductive WrittenItems : Bool → List Json → List Char → Prop
  | nil {first : Bool} : WrittenItems first [] []
  | cons {first : Bool} {item : Json} {rest : List Json} {text others : List Char}
    (before : Gap) (itemWritten : Written item text) (after : Gap)
    (restWritten : WrittenItems false rest others) :
    WrittenItems first (item :: rest)
      (comma first ++ (before.chars ++ (text ++ (after.chars ++ others))))

/-- A text writes fields, with a comma before all but the first. -/
inductive WrittenFields : Bool → List (String × Json) → List Char → Prop
  | nil {first : Bool} : WrittenFields first [] []
  | cons {first : Bool} {value : Json} {rest : List (String × Json)} {text others : List Char}
    (before : Gap) (key : List Glyph) (afterKey beforeValue : Gap)
    (valueWritten : Written value text) (after : Gap)
    (restWritten : WrittenFields false rest others) :
    WrittenFields first ((glyphText key, value) :: rest)
      (comma first ++ (before.chars ++ ('"' :: (glyphChars key ++ ('"' :: (afterKey.chars ++
        (':' :: (beforeValue.chars ++ (text ++ (after.chars ++ others))))))))))

end

/-- Reading goes on at the comma in front of a part, or at the part if it is the first. -/
theorem dropBlanks_part (first : Bool) (gap before : Gap) {c : Char}
    (notBlank : isBlank c = false) (s : List Char) :
    dropBlanks (gap.chars ++ (comma first ++ (before.chars ++ c :: s))) =
      if first then c :: s else ',' :: (before.chars ++ c :: s) := by
  rw [gap.dropBlanks_append]
  cases first with
  | true =>
      rw [comma, if_pos rfl, List.nil_append, before.dropBlanks_append,
        dropBlanks_cons_of_not_isBlank notBlank, if_pos rfl]
  | false =>
      rw [comma, if_neg Bool.false_ne_true, List.singleton_append,
        dropBlanks_cons_of_not_isBlank rfl, if_neg Bool.false_ne_true]

section

variable {v : Json} {items : List Json} {fields : List (String × Json)} {text : List Char}

theorem UnsignedNumeral.exists_cons (isUnsigned : UnsignedNumeral text) :
    ∃ c tail, text = c :: tail ∧ isDigit c := by
  cases isUnsigned with
  | @mk whole fraction exponent isWhole isFraction isExponent =>
      obtain ⟨c, tail, rfl⟩ := List.exists_cons_of_ne_nil isWhole.ne_nil
      exact ⟨c, _, rfl, isWhole.isDigit_of_mem c List.mem_cons_self⟩

theorem Numeral.exists_cons (numeral : Numeral text) :
    ∃ c tail, text = c :: tail ∧ (c = '-' ∨ isDigit c) := by
  cases numeral with
  | unsigned isUnsigned =>
      obtain ⟨c, tail, textEq, digit⟩ := isUnsigned.exists_cons
      exact ⟨c, tail, textEq, .inr digit⟩
  | negative isUnsigned => exact ⟨'-', _, rfl, .inl rfl⟩

theorem Written.exists_cons (written : Written v text) :
    ∃ c tail, text = c :: tail ∧ StartsValue c := by
  cases written with
  | num n numeral =>
      obtain ⟨c, tail, textEq, numeric⟩ := numeral.exists_cons
      exact ⟨c, tail, textEq, startsValue_of_numeric numeric⟩
  | _ => exact ⟨_, _, rfl, rfl, by simp⟩

theorem Written.dropBlanks_append (written : Written v text) (gap : Gap) (rest : List Char) :
    dropBlanks (gap.chars ++ (text ++ rest)) = text ++ rest := by
  obtain ⟨c, tail, rfl, starts⟩ := written.exists_cons
  rw [gap.dropBlanks_append, List.cons_append]
  exact dropBlanks_cons_of_not_isBlank starts.1 _

/-- No number goes on behind an item. -/
theorem WrittenItems.endsNumber (written : WrittenItems false items text) (gap : Gap)
    (rest : List Char) : EndsNumber (gap.chars ++ (text ++ ']' :: rest)) := by
  cases written with
  | nil => exact endsNumber_gap gap (endsNumber_of_sign (.inr (.inl rfl)) rest)
  | cons before itemWritten after restWritten =>
      exact endsNumber_gap gap (endsNumber_of_sign (.inl rfl) _)

theorem WrittenFields.endsNumber (written : WrittenFields false fields text) (gap : Gap)
    (rest : List Char) : EndsNumber (gap.chars ++ (text ++ '\x7d' :: rest)) := by
  cases written with
  | nil => exact endsNumber_gap gap (endsNumber_of_sign (.inr (.inr rfl)) rest)
  | cons before key afterKey beforeValue valueWritten after restWritten =>
      exact endsNumber_gap gap (endsNumber_of_sign (.inl rfl) _)

end

/-- A text in quotes writes it. -/
theorem written_quote (text : String) : Written (.str text) (quote text.toList) := by
  obtain ⟨glyphs, charsEq, rfl⟩ := exists_glyphs_of_quote text
  rw [← charsEq, List.cons_append]
  exact .str glyphs

/-- A key in quotes, a colon and the text of a value write a field. -/
theorem WrittenFields.quoted {first : Bool} {value : Json} {rest : List (String × Json)}
    {text others : List Char} (before : Gap) (key : String) (beforeValue : Gap)
    (valueWritten : Written value text) (after : Gap)
    (restWritten : WrittenFields false rest others) :
    WrittenFields first ((key, value) :: rest)
      (comma first ++ (before.chars ++
        ((quote key.toList ++ ':' :: (beforeValue.chars ++ text)) ++ (after.chars ++ others)))) := by
  obtain ⟨glyphs, keyEq, rfl⟩ := exists_glyphs_of_quote key
  have written : WrittenFields first ((glyphText glyphs, value) :: rest) _ :=
    .cons before glyphs .empty beforeValue valueWritten after restWritten
  rw [← keyEq]
  simpa [Gap.empty] using written

mutual

/-- The indented text of a value writes it. -/
theorem written_prettyChars (level : Nat) : (v : Json) → Written v (prettyChars level v)
  | .null => .null
  | .bool true => .isTrue
  | .bool false => .isFalse
  | .num n => .num n (numeral_text n)
  | .str text => written_quote text
  | .arr items => by
      rw [prettyChars, bracketed_eq]
      exact .arr .empty (writtenItems_prettyItems level true items)
  | .obj fields => by
      rw [prettyChars, bracketed_eq]
      exact .obj .empty (writtenFields_prettyFields level true fields)

/-- So do the lines of the items of an array. -/
theorem writtenItems_prettyItems (level : Nat) (first : Bool) : (items : List Json) →
    WrittenItems first items (partLines first level (prettyItems (level + 1) items))
  | [] => .nil
  | item :: rest => by
      rw [prettyItems, partLines, partEnd_prettyItems]
      exact .cons (lineGap (level + 1)) (written_prettyChars (level + 1) item)
        (partEnd level rest) (writtenItems_prettyItems level false rest)

/-- So do the lines of the fields of an object. -/
theorem writtenFields_prettyFields (level : Nat) (first : Bool) :
    (fields : List (String × Json)) →
    WrittenFields first fields (partLines first level (prettyFields (level + 1) fields))
  | [] => .nil
  | (key, value) :: rest => by
      rw [prettyFields, partLines, partEnd_prettyFields]
      exact .quoted (lineGap (level + 1)) key spaceGap (written_prettyChars (level + 1) value)
        (partEnd level rest) (writtenFields_prettyFields level false rest)

end

end PolicyScan.Json
