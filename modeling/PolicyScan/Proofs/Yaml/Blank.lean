import PolicyScan.Proofs.Yaml.Cursor
import PolicyScan.Yaml.Token.Lexer

/-!
# Blank YAML texts

A line is blank if it holds at most a byte order mark, spaces and a comment.
Between tokens outside of all collections the lexer passes over blank lines and
over nothing else: it comes to the end of the text exactly if all lines are
blank (`skipGap_rest_eq_nil_iff`).
-/

namespace PolicyScan.Yaml

/-- The text without a byte order mark at its front. -/
def dropMark : List Char → List Char
  | '\ufeff' :: rest => rest
  | s => s

/-- The line holds at most a byte order mark, spaces and a comment. -/
def isBlankLine (line : List Char) : Bool :=
  match (dropMark line).dropWhile (· = ' ') with
  | [] => true
  | c :: _ => c = '#'

/-- The lines of a text. -/
def lines : List Char → List (List Char)
  | [] => [[]]
  | '\r' :: '\n' :: rest => [] :: lines rest
  | c :: rest =>
    if isBreak c then [] :: lines rest
    else match lines rest with
      | [] => [[c]]
      | line :: later => (c :: line) :: later

/-- Every character is allowed and every line blank. -/
def IsBlankText (text : List Char) : Prop :=
  (∀ c ∈ text, isAllowed c) ∧ ∀ line ∈ lines text, isBlankLine line

instance (text : List Char) : Decidable (IsBlankText text) :=
  inferInstanceAs (Decidable (_ ∧ _))

/-! ## Lines -/

/-- A line that is not yet ended, or is at its end. -/
def AtLineEnd (s : List Char) : Prop := ∀ c rest, s = c :: rest → isBreak c

theorem lines_ne_nil (s : List Char) : lines s ≠ [] := by
  unfold lines
  split
  · simp
  · simp
  · split
    · simp
    · split <;> simp

theorem lines_break {c : Char} (ends : isBreak c) (rest : List Char) :
    lines (c :: rest) = [] :: lines (afterBreak (c :: rest)) := by
  by_cases both : c = '\r' ∧ rest.head? = some '\n'
  · rcases both with ⟨rfl, feed⟩
    rcases List.head?_eq_some_iff.mp feed with ⟨later, rfl⟩
    rfl
  · rw [afterBreak_of_head?_ne fun carriage feed => both ⟨carriage, feed⟩, lines]
    · rw [if_pos ends]
    · rintro later rfl rfl
      exact both ⟨rfl, rfl⟩

theorem lines_cons {c : Char} (inside : isBreak c = false) {s line : List Char}
    {later : List (List Char)} (rest : lines s = line :: later) :
    lines (c :: s) = (c :: line) :: later := by
  rw [lines]
  · simp [inside, rest]
  · rintro tail rfl
    simp [isBreak] at inside

/-- A text starts with a line, and the others come after its end. -/
theorem lines_append {line : List Char} (inside : ∀ c ∈ line, isBreak c = false)
    {s : List Char} (ends : AtLineEnd s) :
    lines (line ++ s) = line :: (if s = [] then [] else lines (afterBreak s)) := by
  induction line with
  | nil =>
      rcases s with _ | ⟨c, rest⟩
      · rfl
      · simp [lines_break (ends c rest rfl)]
  | cons c line ih =>
      exact lines_cons (inside c List.mem_cons_self)
        (ih fun d member => inside d (List.mem_cons_of_mem _ member))

theorem exists_line_append (s : List Char) :
    ∃ line later, s = line ++ later ∧ (∀ c ∈ line, isBreak c = false) ∧ AtLineEnd later := by
  refine ⟨s.takeWhile (fun c => !isBreak c), s.dropWhile (fun c => !isBreak c),
    List.takeWhile_append_dropWhile.symm, fun c member => ?_, ?_⟩
  · simpa using List.mem_takeWhile_imp member
  · rintro c rest equal
    have stopped := List.head?_dropWhile_not (fun c => !isBreak c) s
    rw [equal] at stopped
    simpa using stopped

/-- What is left of a text when a mark, spaces and a comment are passed over. -/
def afterGap (s : List Char) : List Char :=
  let s := (dropMark s).dropWhile (· = ' ')
  if s.head? = some '#' then s.dropWhile (fun c => !isBreak c) else s

theorem dropMark_append (line : List Char) {s : List Char} (ends : AtLineEnd s) :
    dropMark (line ++ s) = dropMark line ++ s := by
  rcases line with _ | ⟨c, line⟩
  · rcases s with _ | ⟨d, rest⟩
    · rfl
    · have isBreak_d := ends d rest rfl
      have notMark : d ≠ '\ufeff' := by
        rintro rfl
        simp [isBreak] at isBreak_d
      simp [dropMark, notMark]
  · by_cases mark : c = '\ufeff'
    · rw [mark]
      rfl
    · simp [dropMark, mark]

theorem dropMark_suffix (s : List Char) : dropMark s <:+ s := by
  unfold dropMark
  split
  · exact List.suffix_cons _ _
  · exact List.suffix_rfl

theorem dropWhile_append_atLineEnd {p : Char → Bool} (line : List Char) {s : List Char}
    (stops : ∀ c rest, s = c :: rest → p c = false) :
    (line ++ s).dropWhile p = line.dropWhile p ++ s := by
  induction line with
  | nil =>
      rcases s with _ | ⟨c, rest⟩
      · rfl
      · exact List.dropWhile_cons_of_neg (by simp [stops c rest rfl])
  | cons c line ih =>
      by_cases holds : p c
      · rw [List.cons_append, List.dropWhile_cons_of_pos holds, ih,
          List.dropWhile_cons_of_pos holds]
      · rw [List.cons_append, List.dropWhile_cons_of_neg holds,
          List.dropWhile_cons_of_neg holds, List.cons_append]

/-- A blank line is passed over up to its end, and any other line up to a
character that no gap holds. -/
theorem afterGap_append {line s : List Char} (inside : ∀ c ∈ line, isBreak c = false)
    (ends : AtLineEnd s) :
    isBlankLine line ∧ afterGap (line ++ s) = s ∨
      isBlankLine line = false ∧
        ∃ c rest, afterGap (line ++ s) = c :: rest ∧ isBreak c = false := by
  have notSpace : ∀ c rest, s = c :: rest → (fun c : Char => decide (c = ' ')) c = false := by
    rintro c rest equal
    have isBreak_c := ends c rest equal
    simp only [decide_eq_false_iff_not]
    rintro rfl
    simp [isBreak] at isBreak_c
  have parted : (dropMark (line ++ s)).dropWhile (fun c => decide (c = ' ')) =
      (dropMark line).dropWhile (fun c => decide (c = ' ')) ++ s := by
    rw [dropMark_append line ends, dropWhile_append_atLineEnd _ notSpace]
  have suffix : (dropMark line).dropWhile (fun c => decide (c = ' ')) <:+ line :=
    (List.dropWhile_suffix _).trans (dropMark_suffix line)
  unfold isBlankLine afterGap
  rw [parted]
  rcases leftEq : (dropMark line).dropWhile (fun c => decide (c = ' ')) with _ | ⟨c, left⟩
  · rw [leftEq] at parted suffix
    refine .inl ⟨rfl, ?_⟩
    rcases s with _ | ⟨d, rest⟩
    · rfl
    · have isBreak_d := ends d rest rfl
      have notComment : d ≠ '#' := by
        rintro rfl
        simp [isBreak] at isBreak_d
      simp [notComment]
  · rw [leftEq] at suffix
    have insideLeft : ∀ d ∈ c :: left, isBreak d = false :=
      fun d member => inside d (suffix.subset member)
    by_cases comment : c = '#'
    · have whole : (c :: left ++ s).dropWhile (fun c => !isBreak c) = s := by
        rw [List.dropWhile_append_of_pos (by simpa using insideLeft)]
        rcases s with _ | ⟨d, rest⟩
        · rfl
        · exact List.dropWhile_cons_of_neg (by simp [ends d rest rfl])
      subst comment
      exact .inl ⟨by simp, by simpa using whole⟩
    · refine .inr ⟨by simp [comment], c, left ++ s, by simp [comment], ?_⟩
      exact insideLeft c List.mem_cons_self

/-! ## Passing over blank lines -/

namespace Lexer

/-- The lexer stands outside of all collections where a candidate may start. -/
structure AtStart (s : Lexer) : Prop where
  notInFlow : s.outer = []
  keyAllowed : s.keyAllowed = true

theorem passMark_rest {c : Cursor} (atLineStart : c.column = 0) :
    (passMark c).rest = dropMark c.rest := by
  rcases c with ⟨rest, index, line, column⟩
  rcases rest with _ | ⟨d, rest⟩
  · simp [passMark, dropMark]
  · by_cases mark : d = '\ufeff'
    · simp only at atLineStart
      simp [passMark, dropMark, atLineStart, mark, Cursor.next]
    · simp [passMark, dropMark, mark]

theorem passComment_rest (c : Cursor) :
    (passComment c).rest =
      if c.rest.head? = some '#' then c.rest.dropWhile (fun d => !isBreak d) else c.rest := by
  unfold passComment
  split
  · exact Cursor.skipWhile_rest _ _
  · rfl

theorem passGap_rest {c : Cursor} (atLineStart : c.column = 0) :
    (passGap false c).rest = afterGap c.rest := by
  simp [passGap, passComment_rest, Cursor.skipWhile_rest, passMark_rest atLineStart, afterGap]

/-- The lexer comes to the end of the text exactly if all lines are blank. -/
theorem skipGap_rest_eq_nil_iff {fuel : Nat} {s : Lexer} (start : s.AtStart)
    (atLineStart : s.cursor.column = 0) (enough : s.cursor.rest.length < fuel) :
    (skipGap fuel s).cursor.rest = [] ↔ ∀ line ∈ lines s.cursor.rest, isBlankLine line := by
  induction fuel generalizing s with
  | zero => contradiction
  | succ fuel ih =>
      obtain ⟨line, later, textEq, inside, ends⟩ := exists_line_append s.cursor.rest
      have passed := passGap_rest atLineStart
      have linesEq := lines_append inside ends
      have outside : (s.inFlow || !s.keyAllowed) = false := by
        simp [inFlow, start.notInFlow, start.keyAllowed]
      rw [skipGap, outside]
      rw [textEq] at passed enough ⊢
      rw [linesEq]
      rcases afterGap_append inside ends with ⟨blank, left⟩ | ⟨notBlank, c, rest, left, notBreak⟩
      · rw [left] at passed
        rcases later with _ | ⟨d, rest⟩
        · simp [passed, goTo, blank]
        · have isBreak_d := ends d rest rfl
          have column := Cursor.takeBreak_column (c := passGap false s.cursor) (by simp [passed])
          have restEq := Cursor.takeBreak_rest (passGap false s.cursor)
          have shorter := (afterBreak_cons_suffix d rest).length_le
          have notFlow : (s.goTo (passGap false s.cursor).takeBreak.2).inFlow = false := by
            simp [goTo, inFlow, start.notInFlow]
          rw [passed] at restEq
          simp only [passed, isBreak_d, if_true, notFlow]
          have later := ih (s := (s.goTo (passGap false s.cursor).takeBreak.2).allowKey true)
            ⟨start.notInFlow, rfl⟩ column (by
              simp only [allowKey, goTo, restEq]
              simp only [List.length_append, List.length_cons] at enough
              omega)
          simp only [allowKey, goTo, restEq] at later ⊢
          simp [later, blank]
      · rw [left] at passed
        simp [passed, notBreak, goTo, notBlank]

end Lexer

end PolicyScan.Yaml
