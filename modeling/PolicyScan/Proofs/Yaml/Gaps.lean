import PolicyScan.Proofs.Yaml.Cursor
import PolicyScan.Yaml.Token.Lexer

/-!
# Gaps between tokens

The lexer passes over the whole of a gap of blanks and line ends, and comes to
stand in front of the character behind it (`skipGap_append`).  Tabs are passed
over inside of flow collections, but not where a candidate may start outside of
them.
-/

namespace PolicyScan.Yaml

namespace Lexer

variable {s : Lexer}

/-- A character that separates tokens on a line; tabs do where `tabs` says
so. -/
def isGapBlank (tabs : Bool) (c : Char) : Bool := c = ' ' || (tabs && c = '\t')

/-- A text does not go on with what is passed over between tokens. -/
def EndsGap (tabs : Bool) (s : List Char) : Prop :=
  ∀ c rest, s = c :: rest →
    isGapBlank tabs c = false ∧ isBreak c = false ∧ c ≠ '#' ∧ c ≠ '\ufeff'

/-- The lexer passes over tabs inside of flow collections, and over none where a
candidate may start outside of them. -/
def PassesTabs (tabs : Bool) (s : Lexer) : Prop :=
  (s.inFlow = true ∧ tabs = true) ∨ (s.inFlow = false ∧ s.keyAllowed = true ∧ tabs = false)

theorem not_isBreak_of_isGapBlank {tabs : Bool} {c : Char} (blank : isGapBlank tabs c) :
    isBreak c = false := by
  rw [Bool.eq_false_iff]
  intro ends
  rcases isBreak_iff.mp ends with rfl | rfl | rfl | rfl | rfl <;> simp [isGapBlank] at blank

/-- The blanks of a line are passed over. -/
theorem passGap_append {tabs : Bool} {c : Cursor} {blanks rest : List Char}
    (restEq : c.rest = blanks ++ rest) (isBlank : ∀ d ∈ blanks, isGapBlank tabs d)
    (ends : ∀ d more, rest = d :: more → isGapBlank tabs d = false ∧ d ≠ '#' ∧ d ≠ '\ufeff') :
    (passGap tabs c).rest = rest ∧ c.Passed blanks (passGap tabs c) := by
  have noMark : passMark c = c := by
    rw [passMark, if_neg]
    rintro ⟨-, marked⟩
    rw [restEq] at marked
    rcases blanks with _ | ⟨d, blanks⟩
    · rcases rest with _ | ⟨d, more⟩
      · contradiction
      · exact (ends d more rfl).2.2 (Option.some.inj marked)
    · have blank := isBlank d List.mem_cons_self
      rw [Option.some.inj marked] at blank
      simp [isGapBlank] at blank
  have stops : rest.takeWhile (isGapBlank tabs) = [] ∧ rest.dropWhile (isGapBlank tabs) = rest := by
    rcases rest with _ | ⟨d, more⟩
    · exact ⟨rfl, rfl⟩
    · have solid := (ends d more rfl).1
      simp [solid]
  have taken : c.rest.takeWhile (isGapBlank tabs) = blanks := by
    rw [restEq, List.takeWhile_append_of_pos isBlank, stops.1, List.append_nil]
  have left : (c.skipWhile (isGapBlank tabs)).rest = rest := by
    rw [Cursor.skipWhile_rest, restEq, List.dropWhile_append_of_pos isBlank, stops.2]
  have passed : c.Passed blanks (c.skipWhile (isGapBlank tabs)) := by
    have passed := Cursor.Passed.skipWhile (c := c) (p := isGapBlank tabs)
      fun d blank => not_isBreak_of_isGapBlank blank
    rwa [taken] at passed
  have noComment : passGap tabs c = c.skipWhile (isGapBlank tabs) := by
    change passComment ((passMark c).skipWhile (isGapBlank tabs)) = _
    rw [noMark, passComment, if_neg]
    rw [left]
    rcases rest with _ | ⟨d, more⟩
    · simp
    · simpa using (ends d more rfl).2.1
  rw [noComment]
  exact ⟨left, passed⟩

/-- What starts with a row of line ends goes on behind it before the next
other character. -/
theorem exists_append_of_breaks {breaks later : List Char} (chars rest : List Char)
    (textEq : chars ++ rest = breaks ++ later) (isBreaks : ∀ c ∈ breaks, isBreak c)
    (stops : ∀ c more, rest = c :: more → isBreak c = false) :
    ∃ left, chars = breaks ++ left ∧ later = left ++ rest := by
  rcases List.append_eq_append_iff.mp textEq with
    ⟨extra, breaksEq, restEq⟩ | ⟨left, charsEq, laterEq⟩
  · rcases extra with _ | ⟨c, extra⟩
    · exact ⟨[], by simpa using breaksEq.symm, restEq.symm⟩
    · have inside := stops c _ restEq
      rw [isBreaks c (by simp [breaksEq])] at inside
      contradiction
  · exact ⟨left, charsEq, laterEq⟩

/-- What ends a line is not passed over with the blanks on it. -/
theorem stops_of_isBreak {tabs : Bool} {d : Char} (ends : isBreak d) :
    isGapBlank tabs d = false ∧ d ≠ '#' ∧ d ≠ '\ufeff' := by
  refine ⟨?_, ?_, ?_⟩
  · rw [Bool.eq_false_iff]
    intro blank
    rw [not_isBreak_of_isGapBlank blank] at ends
    contradiction
  · rintro rfl
    contradiction
  · rintro rfl
    contradiction

section Steps

variable {tabs : Bool} {rest : List Char}

theorem PassesTabs.tabs_eq (passes : s.PassesTabs tabs) : (s.inFlow || !s.keyAllowed) = tabs := by
  rcases passes with ⟨inFlow, rfl⟩ | ⟨outside, allowed, rfl⟩
  · rw [inFlow, Bool.true_or]
  · rw [outside, allowed]
    rfl

/-- The gap ends on its line. -/
theorem PassesTabs.skipGap_of_inside (passes : s.PassesTabs tabs)
    (atRest : (passGap tabs s.cursor).rest = rest)
    (inside : ∀ d more, rest = d :: more → isBreak d = false) (fuel : Nat) :
    skipGap (fuel + 1) s = s.goTo (passGap tabs s.cursor) := by
  rw [skipGap, passes.tabs_eq]
  rcases rest with _ | ⟨d, more⟩
  · simp only [atRest]
  · simp only [atRest, inside d more rfl, Bool.false_eq_true, if_false]

/-- The gap goes on behind a line end. -/
theorem PassesTabs.skipGap_of_isBreak {d : Char} (passes : s.PassesTabs tabs)
    (atBreak : (passGap tabs s.cursor).rest = d :: rest) (ends : isBreak d) (fuel : Nat) :
    skipGap (fuel + 1) s = skipGap fuel (s.goTo (passGap tabs s.cursor).takeBreak.2) := by
  have next : (if (s.goTo (passGap tabs s.cursor).takeBreak.2).inFlow then
        s.goTo (passGap tabs s.cursor).takeBreak.2
      else (s.goTo (passGap tabs s.cursor).takeBreak.2).allowKey true) =
      s.goTo (passGap tabs s.cursor).takeBreak.2 := by
    rcases passes with ⟨inFlow, -⟩ | ⟨-, allowed, -⟩
    · exact if_pos inFlow
    · split
      · rfl
      · rw [goTo, allowKey, ← allowed]
  rw [skipGap, passes.tabs_eq]
  simp only [atBreak, ends, if_true, next]

end Steps

/-- A gap is passed over whole. -/
theorem skipGap_append {tabs : Bool} (fuel : Nat) {chars rest : List Char}
    (passes : s.PassesTabs tabs) (restEq : s.cursor.rest = chars ++ rest)
    (isGap : ∀ c ∈ chars, isGapBlank tabs c ∨ isBreak c) (ends : EndsGap tabs rest)
    (enough : chars.length < fuel) :
    ∃ c, skipGap fuel s = s.goTo c ∧ c.rest = rest ∧ s.cursor.Passed chars c := by
  induction fuel generalizing s chars with
  | zero => contradiction
  | succ fuel ih =>
      have charsEq := List.takeWhile_append_dropWhile (p := isGapBlank tabs) (l := chars)
      have isBlank : ∀ d ∈ chars.takeWhile (isGapBlank tabs), isGapBlank tabs d :=
        fun d member => List.mem_takeWhile_imp member
      have stopped := List.head?_dropWhile_not (isGapBlank tabs) chars
      rw [← charsEq, List.append_assoc] at restEq
      rcases leftEq : chars.dropWhile (isGapBlank tabs) with _ | ⟨d, left⟩
      · rw [leftEq, List.nil_append] at restEq
        rw [leftEq, List.append_nil] at charsEq
        have gapEnds : ∀ d more, rest = d :: more →
            isGapBlank tabs d = false ∧ d ≠ '#' ∧ d ≠ '\ufeff' := by
          intro d more equal
          rcases ends d more equal with ⟨solid, -, noComment, noMark⟩
          exact ⟨solid, noComment, noMark⟩
        rcases passGap_append restEq isBlank gapEnds with ⟨atRest, passed⟩
        rw [charsEq] at passed
        have inside : ∀ d more, rest = d :: more → isBreak d = false :=
          fun d more equal => (ends d more equal).2.1
        exact ⟨_, passes.skipGap_of_inside atRest inside fuel, atRest, passed⟩
      · rw [leftEq] at charsEq restEq stopped
        have solid : isGapBlank tabs d = false := by simpa using stopped
        have isBreak_d : isBreak d := by
          have member : d ∈ chars := by rw [← charsEq]; simp
          exact (isGap d member).resolve_left (Bool.eq_false_iff.mp solid)
        have gapEnds : ∀ e more, d :: left ++ rest = e :: more →
            isGapBlank tabs e = false ∧ e ≠ '#' ∧ e ≠ '\ufeff' := by
          intro e more equal
          cases equal
          exact stops_of_isBreak isBreak_d
        rcases passGap_append restEq isBlank gapEnds with ⟨atBreak, passed⟩
        rcases Cursor.Passed.takeBreak atBreak isBreak_d with
          ⟨breaks, notEmpty, isBreaks, passedBreak⟩
        rcases exists_append_of_breaks _ rest (atBreak.symm.trans passedBreak.rest) isBreaks
          (fun c more equal => (ends c more equal).2.1) with ⟨later, laterEq, laterRest⟩
        have shorter := List.length_pos_iff.mpr notEmpty
        have lengths := congrArg List.length charsEq
        rw [laterEq, List.length_append, List.length_append] at lengths
        have laterGap : ∀ c ∈ later, isGapBlank tabs c ∨ isBreak c := by
          intro c member
          apply isGap
          rw [← charsEq, laterEq]
          simp [member]
        rcases ih (s := s.goTo (passGap tabs s.cursor).takeBreak.2) passes laterRest laterGap
          (by omega) with ⟨c, skipped, atRest, passedLater⟩
        refine ⟨c, ?_, atRest, ?_⟩
        · rw [passes.skipGap_of_isBreak atBreak isBreak_d]
          exact skipped
        · have whole := (passed.trans passedBreak).trans passedLater
          rwa [List.append_assoc, ← laterEq, charsEq] at whole

end Lexer
end PolicyScan.Yaml
