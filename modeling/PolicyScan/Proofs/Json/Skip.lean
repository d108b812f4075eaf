import PolicyScan.Proofs.Json.Written

/-!
# Passing over values

Values are passed over with a row of the collections that are open.  A text that writes a
value is passed over to its end, however deep the value is nested and however large its
numbers are (`skip_written`): after a value in open collections reading goes on where the
innermost of them goes on (`skipWithin_written`).
-/

namespace PolicyScan.Json

/-! ## Numerals and strings -/

theorem skipDigits_append {ds rest : List Char} (digits : SomeDigits ds)
    (ends : ∀ c tail, rest = c :: tail → ¬isDigit c) : skipDigits (ds ++ rest) = .ok rest := by
  rw [skipDigits, digits_append digits.isDigit_of_mem ends]
  split
  · next equal =>
      exact absurd (Prod.mk.inj equal).1 digits.ne_nil
  · next equal =>
      rw [(Prod.mk.inj equal).2]

theorem skipExponent_append {exponent rest : List Char} (isExponent : ExponentText exponent)
    (ends : EndsNumber rest) : skipExponent (exponent ++ rest) = .ok rest := by
  have endsDigits : ∀ c tail, rest = c :: tail → ¬isDigit c :=
    fun c tail equal => (ends c tail equal).1
  cases isExponent with
  | none =>
      rcases rest with _ | ⟨c, tail⟩
      · rfl
      · obtain ⟨-, -, notE, notUpperE⟩ := ends c tail rfl
        simp [skipExponent, notE, notUpperE]
  | @some letter sign ds isLetter isSign digits =>
      have signed : (exponentSign (sign ++ (ds ++ rest))).2 = ds ++ rest := by
        rcases isSign with rfl | rfl | rfl
        · obtain ⟨c, tail, rfl⟩ := List.exists_cons_of_ne_nil digits.ne_nil
          have digit := digits.isDigit_of_mem c List.mem_cons_self
          rw [List.nil_append, List.cons_append, exponentSign]
          all_goals
            rintro s equal
            obtain ⟨rfl, -⟩ := List.cons.inj equal
            simp [isDigit] at digit
        · rfl
        · rfl
      have passed := skipDigits_append digits endsDigits
      rw [← signed] at passed
      rcases isLetter with rfl | rfl
      · simpa [skipExponent] using passed
      · simpa [skipExponent] using passed

/-- The rest behind the whole digits of a number. -/
def skipFraction : List Char → Except Fault (List Char)
  | '.' :: rest => do skipExponent (← skipDigits rest)
  | rest => skipExponent rest

theorem skipNumber_eq_skipFraction {whole rest : List Char} (isWhole : WholeDigits whole)
    (ends : ∀ c tail, rest = c :: tail → ¬isDigit c) :
    skipNumber (whole ++ rest) = skipFraction rest := by
  obtain ⟨c, tail, rfl⟩ := List.exists_cons_of_ne_nil isWhole.ne_nil
  by_cases zero : c = '0'
  · subst zero
    have alone : tail = [] := by simpa using isWhole.eq_of_head rfl
    subst alone
    rcases rest with _ | ⟨d, rest⟩
    · rfl
    · have notDigit := ends d rest rfl
      simp only [List.cons_append, List.nil_append, skipNumber, if_neg notDigit]
      rfl
  · have passed := skipDigits_append isWhole.someDigits ends
    rw [List.cons_append] at passed ⊢
    rw [skipNumber]
    · rw [passed]
      rfl
    · rintro d rest equal
      exact zero (List.cons.inj equal).1

theorem skipFraction_append {fraction rest : List Char} (isFraction : FractionText fraction)
    (ends : ∀ c tail, rest = c :: tail → ¬isDigit c ∧ c ≠ '.') :
    skipFraction (fraction ++ rest) = skipExponent rest := by
  cases isFraction with
  | none =>
      rcases rest with _ | ⟨c, tail⟩
      · rfl
      · rw [List.nil_append, skipFraction]
        rintro s equal
        exact (ends c tail rfl).2 (List.cons.inj equal).1
  | some digits =>
      have passed := skipDigits_append digits fun c tail equal => (ends c tail equal).1
      simp only [List.cons_append, skipFraction, passed, bind, Except.bind]

theorem skipNumber_append {text rest : List Char} (isUnsigned : UnsignedNumeral text)
    (ends : EndsNumber rest) : skipNumber (text ++ rest) = .ok rest := by
  cases isUnsigned with
  | @mk whole fraction exponent isWhole isFraction isExponent =>
      have behindFraction : ∀ c tail, exponent ++ rest = c :: tail → ¬isDigit c ∧ c ≠ '.' := by
        intro c tail equal
        cases isExponent with
        | none => exact ⟨(ends c tail equal).1, (ends c tail equal).2.1⟩
        | some isLetter isSign digits =>
            obtain ⟨rfl, -⟩ := List.cons.inj equal
            rcases isLetter with rfl | rfl <;> simp [isDigit]
      have behindWhole : ∀ c tail, fraction ++ (exponent ++ rest) = c :: tail → ¬isDigit c := by
        intro c tail equal
        cases isFraction with
        | none => exact (behindFraction c tail equal).1
        | some digits =>
            obtain ⟨rfl, -⟩ := List.cons.inj equal
            simp [isDigit]
      rw [List.append_assoc, List.append_assoc, skipNumber_eq_skipFraction isWhole behindWhole,
        skipFraction_append isFraction behindFraction, skipExponent_append isExponent ends]

/-! ## Strings -/

/-- A character is passed over in no more steps than characters write it. -/
theorem exists_skipString_glyph (glyph : Glyph) (s : List Char) {bound : List Char}
    (enough : glyph.chars.length ≤ bound.length) :
    ∃ left, bound.length ≤ left.length + glyph.chars.length ∧
      skipString bound (glyph.chars ++ s) = skipString left s := by
  rcases bound with _ | ⟨b, bound⟩
  · exact absurd (List.length_eq_zero_iff.mp (Nat.le_zero.mp enough)) glyph.chars_ne_nil
  cases glyph with
  | plain c notQuote notBackslash notControl =>
      refine ⟨bound, Nat.le_refl _, ?_⟩
      rw [Glyph.chars, List.singleton_append, skipString, if_neg notControl]
      all_goals simp [notQuote, notBackslash]
  | short letter c stands =>
      refine ⟨bound, by simp [Glyph.chars], ?_⟩
      have notU : letter ≠ 'u' := by
        rintro rfl
        simp [shortEscape?] at stands
      rw [Glyph.chars, List.cons_append, List.singleton_append, skipString]
      · simp only [stands]
      · simp [notU]
  | unicode quad notTrail notLead =>
      refine ⟨bound, by simp [Glyph.chars], ?_⟩
      simp only [Glyph.chars, List.cons_append, skipString, quad.hexEscape_append, bind,
        Except.bind]
  | pair lead trail isLead isTrail =>
      rcases bound with _ | ⟨b, bound⟩
      · simp [Glyph.chars] at enough
      · refine ⟨bound, by simp only [Glyph.chars, List.length_cons, List.length_append]; omega, ?_⟩
        simp only [Glyph.chars, List.cons_append, List.append_assoc, skipString,
          lead.hexEscape_append, trail.hexEscape_append, bind, Except.bind]

theorem skipString_append (glyphs : List Glyph) (rest : List Char) {bound : List Char}
    (enough : (glyphChars glyphs).length < bound.length) :
    skipString bound (glyphChars glyphs ++ '"' :: rest) = .ok rest := by
  induction glyphs generalizing bound with
  | nil =>
      rcases bound with _ | ⟨b, bound⟩
      · simp at enough
      · simp [glyphChars, skipString]
  | cons glyph glyphs ih =>
      simp only [glyphChars, List.flatMap_cons, List.length_append, List.append_assoc]
        at enough ih ⊢
      obtain ⟨left, lengthLe, passed⟩ := exists_skipString_glyph glyph
        (glyphs.flatMap Glyph.chars ++ '"' :: rest) (by omega : glyph.chars.length ≤ bound.length)
      rw [passed]
      exact ih (by omega)

/-! ## Values -/

mutual

/-- The number of values in a value, itself included. -/
def size : Json → Nat
  | .arr items => sizeItems items + 1
  | .obj fields => sizeFields fields + 1
  | _ => 1

/-- The number of values in items. -/
def sizeItems : List Json → Nat
  | [] => 0
  | item :: rest => size item + sizeItems rest

/-- The number of values in fields. -/
def sizeFields : List (String × Json) → Nat
  | [] => 0
  | (_, value) :: rest => size value + sizeFields rest

end

theorem size_pos (v : Json) : 0 < v.size := by
  cases v <;> simp [size]

theorem length_le_sizeItems (items : List Json) : items.length ≤ sizeItems items := by
  induction items with
  | nil => exact Nat.le_refl _
  | cons item items ih =>
      have := item.size_pos
      rw [List.length_cons, sizeItems]
      omega

theorem length_le_sizeFields (fields : List (String × Json)) :
    fields.length ≤ sizeFields fields := by
  induction fields with
  | nil => exact Nat.le_refl _
  | cons field fields ih =>
      have := field.2.size_pos
      rw [List.length_cons, sizeFields]
      omega

/-- The bracket that closes a collection. -/
def closing : Frame → Char
  | .list => ']'
  | .object => '\x7d'

/-- How reading goes on in open collections: behind a value if `after` is true, and
otherwise behind the opening bracket of the innermost. -/
def resume (after : Bool) (bound : List Char) (frames : List Frame) (s : List Char) :
    Except Fault (List Char) := do
  match ← leave after frames s with
  | (none, rest) => .ok rest
  | (some [], rest) => .ok rest
  | (some (frame :: outer), rest) => skipWithin bound (frame :: outer) (← enter frame rest)

mutual

/-- A text has more characters than it writes values. -/
theorem Written.size_le {v : Json} {text : List Char} (written : Written v text) :
    v.size ≤ text.length := by
  cases written with
  | arr gap itemsWritten =>
      have := itemsWritten.size_le
      simp only [comma, if_pos, List.length_nil] at this
      simp only [size, List.length_append, List.length_cons]
      omega
  | obj gap fieldsWritten =>
      have := fieldsWritten.size_le
      simp only [comma, if_pos, List.length_nil] at this
      simp only [size, List.length_append, List.length_cons]
      omega
  | num n numeral =>
      obtain ⟨c, tail, rfl, -⟩ := numeral.exists_cons
      simp [size]
  | _ => simp [size]

theorem WrittenItems.size_le {first : Bool} {items : List Json} {text : List Char}
    (written : WrittenItems first items text) :
    sizeItems items + (comma first).length ≤ text.length + 1 := by
  cases written with
  | nil => simpa [sizeItems] using length_comma_le first
  | cons before itemWritten after restWritten =>
      have := itemWritten.size_le
      have := restWritten.size_le
      simp only [comma, List.length_append] at *
      simp [sizeItems]
      omega

theorem WrittenFields.size_le {first : Bool} {fields : List (String × Json)} {text : List Char}
    (written : WrittenFields first fields text) :
    sizeFields fields + (comma first).length ≤ text.length + 1 := by
  cases written with
  | nil => simpa [sizeFields] using length_comma_le first
  | cons before key afterKey beforeValue valueWritten after restWritten =>
      have := valueWritten.size_le
      have := restWritten.size_le
      simp only [comma, List.length_append] at *
      simp [sizeFields]
      omega

end

section Steps

variable {b : Char} {bound s rest text : List Char} {frames : List Frame} {first : Bool}
  (gap before : Gap)

theorem skipWithin_of_numeral (numeral : Numeral text) (start : dropBlanks s = text ++ rest)
    (ends : EndsNumber rest) :
    skipWithin (b :: bound) frames s = resume true bound frames rest := by
  cases numeral with
  | negative isUnsigned =>
      rw [skipWithin, start]
      simp only [List.cons_append, skipNumber_append isUnsigned ends]
      rfl
  | unsigned isUnsigned =>
      obtain ⟨c, tail, rfl, digit⟩ := isUnsigned.exists_cons
      have passed := skipNumber_append isUnsigned ends
      rw [List.cons_append] at start passed
      rw [skipWithin, start]
      split
      case h_9 =>
        rename_i equal
        obtain ⟨rfl, rfl⟩ := List.cons.inj equal
        rw [if_pos digit, passed]
        rfl
      all_goals simp_all [isDigit]

theorem skipWithin_of_quote {glyphs : List Glyph}
    (start : dropBlanks s = '"' :: (glyphChars glyphs ++ '"' :: rest)) :
    skipWithin (b :: bound) frames s = resume true bound frames rest := by
  have passed := skipString_append glyphs rest
    (by simp : (glyphChars glyphs).length < (glyphChars glyphs ++ '"' :: rest).length)
  rw [skipWithin, start]
  simp only [passed]
  rfl

theorem skipWithin_of_bracket (start : dropBlanks s = '[' :: rest) :
    skipWithin (b :: bound) frames s = resume false bound (.list :: frames) rest := by
  rw [skipWithin, start]
  rfl

theorem skipWithin_of_brace (start : dropBlanks s = '\x7b' :: rest) :
    skipWithin (b :: bound) frames s = resume false bound (.object :: frames) rest := by
  rw [skipWithin, start]
  rfl

theorem leave_close (after : Bool) (frame : Frame)
    (start : dropBlanks s = closing frame :: rest) :
    leave after (frame :: frames) s = leave true frames rest := by
  cases frame <;> simp [leave.eq_def after, start, closing]

theorem leave_comma (frame : Frame) (start : dropBlanks s = ',' :: rest) :
    leave true (frame :: frames) s = .ok (some (frame :: frames), rest) := by
  cases frame <;> simp [leave.eq_def, start]

theorem leave_first {c : Char} (frame : Frame) (start : dropBlanks s = c :: rest)
    (notEnd : c ≠ closing frame) :
    leave false (frame :: frames) s = .ok (some (frame :: frames), c :: rest) := by
  cases frame <;> simp_all [leave.eq_def, closing]

theorem resume_close (frame : Frame) :
    resume (!first) bound (frame :: frames) (gap.chars ++ closing frame :: rest) =
      resume true bound frames rest := by
  have start : dropBlanks (gap.chars ++ closing frame :: rest) = closing frame :: rest := by
    rw [gap.dropBlanks_append, dropBlanks_cons_of_not_isBlank (by cases frame <;> rfl)]
  rw [resume, leave_close _ frame start]
  rfl

/-- What follows a gap, or a gap and a comma, is entered. -/
theorem exists_resume_next {c : Char} {tail : List Char} (frame : Frame)
    (notBlank : isBlank c = false) (notEnd : c ≠ closing frame) :
    ∃ gap' : Gap, resume (!first) bound (frame :: frames)
        (gap.chars ++ (comma first ++ (before.chars ++ c :: tail))) = (do
      skipWithin bound (frame :: frames) (← enter frame (gap'.chars ++ c :: tail))) := by
  have start := dropBlanks_part first gap before notBlank tail
  cases first with
  | true =>
      refine ⟨.empty, ?_⟩
      rw [resume, Bool.not_true, leave_first frame start notEnd]
      rfl
  | false =>
      refine ⟨before, ?_⟩
      rw [resume, Bool.not_false, leave_comma frame start]
      rfl

/-- The next item is passed over. -/
theorem exists_resume_item {v : Json} (written : Written v text) :
    ∃ gap' : Gap, resume (!first) bound (.list :: frames)
        (gap.chars ++ (comma first ++ (before.chars ++ (text ++ rest)))) =
      skipWithin bound (.list :: frames) (gap'.chars ++ (text ++ rest)) := by
  obtain ⟨c, tail, rfl, starts⟩ := written.exists_cons
  exact exists_resume_next gap before .list starts.1 starts.2

/-- The value of the next field is passed over. -/
theorem resume_field (key : List Glyph) (afterKey : Gap) :
    resume (!first) bound (.object :: frames)
        (gap.chars ++ (comma first ++ (before.chars ++ ('"' :: (glyphChars key ++ ('"' ::
          (afterKey.chars ++ (':' :: rest)))))))) =
      skipWithin bound (.object :: frames) rest := by
  obtain ⟨gap', next⟩ := exists_resume_next gap before .object
    (by rfl : isBlank '"' = false) (by decide : '"' ≠ closing .object)
  have passed := skipString_append key (afterKey.chars ++ ':' :: rest)
    (by simp : (glyphChars key).length < (glyphChars key ++ '"' ::
      (afterKey.chars ++ ':' :: rest)).length)
  have quoted (s : List Char) : dropBlanks (gap'.chars ++ '"' :: s) = '"' :: s := by
    rw [gap'.dropBlanks_append, dropBlanks_cons_of_not_isBlank rfl]
  rw [next]
  simp only [enter, quoted, bind, Except.bind, passed, colon_append]

end Steps

mutual

/-- Behind a value that is passed over, reading goes on in the open collections. -/
theorem Written.skipWithin_eq {v : Json} {text : List Char} (written : Written v text)
    (frames : List Frame) (gap : Gap) {bound : List Char} (rest : List Char)
    (enough : v.size ≤ bound.length) (ends : EndsNumber rest) :
    skipWithin bound frames (gap.chars ++ (text ++ rest)) =
      resume true (bound.drop v.size) frames rest := by
  have start := written.dropBlanks_append gap rest
  rcases bound with _ | ⟨b, bound⟩
  · cases v <;> simp [size] at enough
  cases written with
  | num n numeral => exact skipWithin_of_numeral numeral start ends
  | str glyphs => exact skipWithin_of_quote (by simpa using start)
  | arr inner itemsWritten =>
      rw [skipWithin_of_bracket (by simpa using start)]
      exact itemsWritten.resume_eq frames inner rest (by simpa [size] using enough)
  | obj inner fieldsWritten =>
      rw [skipWithin_of_brace (by simpa using start)]
      exact fieldsWritten.resume_eq frames inner rest (by simpa [size] using enough)
  | _ =>
      rw [skipWithin, start]
      rfl

theorem WrittenItems.resume_eq {first : Bool} {items : List Json} {text : List Char}
    (written : WrittenItems first items text) (frames : List Frame) (gap : Gap)
    {bound : List Char} (rest : List Char) (enough : sizeItems items ≤ bound.length) :
    resume (!first) bound (.list :: frames) (gap.chars ++ (text ++ ']' :: rest)) =
      resume true (bound.drop (sizeItems items)) frames rest := by
  cases written with
  | nil => exact resume_close gap .list
  | cons before itemWritten after restWritten =>
      rw [sizeItems] at enough ⊢
      simp only [List.append_assoc]
      obtain ⟨gap', next⟩ := exists_resume_item gap before itemWritten
      rw [next, itemWritten.skipWithin_eq _ gap' _ (by omega) (restWritten.endsNumber after rest),
        ← List.drop_drop]
      exact restWritten.resume_eq frames after rest (by rw [List.length_drop]; omega)

theorem WrittenFields.resume_eq {first : Bool} {fields : List (String × Json)}
    {text : List Char} (written : WrittenFields first fields text) (frames : List Frame) (gap : Gap)
    {bound : List Char} (rest : List Char) (enough : sizeFields fields ≤ bound.length) :
    resume (!first) bound (.object :: frames) (gap.chars ++ (text ++ '\x7d' :: rest)) =
      resume true (bound.drop (sizeFields fields)) frames rest := by
  cases written with
  | nil => exact resume_close gap .object
  | cons before key afterKey beforeValue valueWritten after restWritten =>
      rw [sizeFields] at enough ⊢
      simp only [List.append_assoc, List.cons_append]
      rw [resume_field, valueWritten.skipWithin_eq _ beforeValue _ (by omega)
        (restWritten.endsNumber after rest), ← List.drop_drop]
      exact restWritten.resume_eq frames after rest (by rw [List.length_drop]; omega)

end

/-- A value is passed over, whatever it is. -/
theorem skip_written {v : Json} {text : List Char} (written : Written v text) (gap : Gap)
    (rest : List Char) (ends : EndsNumber rest) :
    skip (gap.chars ++ (text ++ rest)) = .ok rest := by
  have enough : v.size ≤ (gap.chars ++ (text ++ rest)).length := by
    have := written.size_le
    simp only [List.length_append]
    omega
  rw [skip, written.skipWithin_eq [] gap rest enough ends]
  rfl

end PolicyScan.Json
