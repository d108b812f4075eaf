import Mathlib.Data.List.TakeWhile
import PolicyScan.Proofs.Report.Header

/-!
# Colour adds escape sequences only

A reader who deletes every escape sequence from a coloured report has what the same
deletion leaves of the report without colour (`text_colourOnly`), although the texts that
are reported may have escape sequences of their own, or pieces of some.  The deletion goes
from left to right, so a sequence that colour puts into a text could only change what is
deleted around it inside of another sequence, and there is none where colour is put.
-/

namespace PolicyScan.Report

/-! ## Deleting escape sequences -/

/-- A character of the parameters of an escape sequence. -/
def isParameter (c : Char) : Bool := c.isDigit || c = ';'

/-- What stands behind the escape sequence that a text starts with. -/
def afterSequence? : List Char → Option (List Char)
  | '\x1b' :: '[' :: rest =>
    match rest.dropWhile isParameter with
    | 'm' :: rest => some rest
    | _ => none
  | _ => none

/-- A text starts with an escape sequence if it is one with something behind. -/
theorem afterSequence?_eq_some_iff {s rest : List Char} :
    afterSequence? s = some rest ↔
      ∃ parameters : String, (∀ c ∈ parameters.toList, isParameter c) ∧
        s = escape parameters ++ rest := by
  constructor
  · intro found
    unfold afterSequence? at found
    split at found
    · next inner =>
        split at found
        · next behind dropped =>
            cases found
            refine ⟨String.ofList (inner.takeWhile isParameter), ?_, ?_⟩
            · rw [String.toList_ofList]
              exact fun c member => List.mem_takeWhile_imp member
            · have parts := List.takeWhile_append_dropWhile (p := isParameter) (l := inner)
              rw [dropped] at parts
              rw [escape, String.toList_ofList, List.append_assoc, List.cons_append,
                List.cons_append, List.singleton_append, parts]
        · contradiction
    · contradiction
  · rintro ⟨parameters, areParameters, rfl⟩
    have behind : (parameters.toList ++ 'm' :: rest).dropWhile isParameter = 'm' :: rest := by
      rw [List.dropWhile_append_of_pos areParameters]
      rfl
    simp only [escape, List.cons_append, List.append_assoc, List.nil_append, afterSequence?, behind]

theorem length_lt_of_afterSequence? {s rest : List Char} (found : afterSequence? s = some rest) :
    rest.length < s.length := by
  obtain ⟨parameters, -, rfl⟩ := afterSequence?_eq_some_iff.mp found
  simp only [escape, List.length_append, List.length_cons]
  omega

/-- The text without its escape sequences, which are deleted from left to right. -/
def erased : List Char → List Char
  | [] => []
  | c :: s =>
    match _found : afterSequence? (c :: s) with
    | some rest => erased rest
    | none => c :: erased s
termination_by s => s.length
decreasing_by
  · exact length_lt_of_afterSequence? _found
  · exact Nat.lt_succ_self _

theorem erased_of_some {s rest : List Char} (found : afterSequence? s = some rest) :
    erased s = erased rest := by
  cases s with
  | nil => contradiction
  | cons c s =>
      rw [erased]
      split
      · next other => rw [Option.some.inj (found.symm.trans other)]
      · next none => rw [found] at none; contradiction

theorem erased_cons_of_none {c : Char} {s : List Char} (none : afterSequence? (c :: s) = none) :
    erased (c :: s) = c :: erased s := by
  rw [erased]
  split
  · next found => rw [none] at found; contradiction
  · rfl

theorem erased_escape_append {parameters : String}
    (areParameters : ∀ c ∈ parameters.toList, isParameter c) (s : List Char) :
    erased (escape parameters ++ s) = erased s :=
  erased_of_some (afterSequence?_eq_some_iff.mpr ⟨parameters, areParameters, rfl⟩)

theorem erased_reset_append (s : List Char) : erased (reset ++ s) = erased s :=
  erased_escape_append (List.all_eq_true.mp (by decide)) s

/-- Nothing is deleted where no escape sequence starts. -/
theorem erased_of_not_mem {s : List Char} (noEscape : '\x1b' ∉ s) : erased s = s := by
  induction s with
  | nil => rw [erased]
  | cons c s ih =>
      rw [List.mem_cons, not_or] at noEscape
      have none : afterSequence? (c :: s) = none := by
        rw [Option.eq_none_iff_forall_ne_some]
        intro rest found
        obtain ⟨parameters, -, equal⟩ := afterSequence?_eq_some_iff.mp found
        exact noEscape.1 (List.cons.inj equal).1.symm
      rw [erased_cons_of_none none, ih noEscape.2]

/-! ## Texts side by side -/

/-- An escape sequence may go on behind the character. -/
def LeavesOpen (c : Char) : Prop := c = '\x1b' ∨ c = '[' ∨ isParameter c

/-- An escape sequence may go on with the character. -/
def GoesOn (c : Char) : Prop := c = '[' ∨ c = 'm' ∨ isParameter c

/-- No escape sequence goes on behind the text. -/
def Closed (s : List Char) : Prop := ∀ c ∈ s.getLast?, ¬LeavesOpen c

/-- No escape sequence that starts in front of the text goes on in it. -/
def Fresh (s : List Char) : Prop := ∀ c ∈ s.head?, ¬GoesOn c

instance (c : Char) : Decidable (LeavesOpen c) := inferInstanceAs (Decidable (_ ∨ _ ∨ _))

instance (c : Char) : Decidable (GoesOn c) := inferInstanceAs (Decidable (_ ∨ _ ∨ _))

instance (s : List Char) : Decidable (Closed s) :=
  Option.decidableForallMem s.getLast?

instance (s : List Char) : Decidable (Fresh s) :=
  Option.decidableForallMem s.head?

theorem fresh_cons {c : Char} (fresh : ¬GoesOn c) (s : List Char) : Fresh (c :: s) := by
  simpa [Fresh] using fresh

/-- A part of an escape sequence can be closed only if it is all of it, and what is
missing of the sequence is not fresh. -/
theorem not_apart_of_escape {parameters : String}
    (areParameters : ∀ c ∈ parameters.toList, isParameter c) {front behind : List Char}
    (frontPart : front ≠ []) (behindPart : behind ≠ [])
    (parts : front ++ behind = escape parameters) (rest : List Char) : ¬(Closed front ∨ Fresh (behind ++ rest)) := by
  obtain ⟨c, tail, rfl⟩ := List.exists_cons_of_ne_nil frontPart
  obtain ⟨d, others, rfl⟩ := List.exists_cons_of_ne_nil behindPart
  rintro (closed | fresh)
  · have last : (c :: tail).getLast? = some ((c :: tail).getLast frontPart) :=
      List.getLast?_eq_some_getLast frontPart
    refine closed _ last ?_
    have member : (c :: tail).getLast frontPart ∈ ((c :: tail) ++ d :: others).dropLast := by
      rw [List.dropLast_append_of_ne_nil behindPart]
      exact List.mem_append_left _ (List.getLast_mem frontPart)
    rw [parts, escape, List.dropLast_concat] at member
    rcases List.mem_cons.mp member with first | member
    · exact .inl first
    · rcases List.mem_cons.mp member with second | member
      · exact .inr (.inl second)
      · exact .inr (.inr (areParameters _ member))
  · refine fresh d rfl ?_
    have member : d ∈ ((c :: tail) ++ d :: others).tail := by simp
    rw [parts, escape, List.cons_append, List.tail_cons, List.cons_append] at member
    rcases List.mem_cons.mp member with second | member
    · exact .inl second
    · rcases List.mem_append.mp member with member | last
      · exact .inr (.inr (areParameters d member))
      · exact .inr (.inl (List.mem_singleton.mp last))

/-- No escape sequence starts in one text and ends in the next. -/
theorem afterSequence?_append {front behind : List Char} (frontPart : front ≠ [])
    (apart : Closed front ∨ Fresh behind) :
    afterSequence? (front ++ behind) = (afterSequence? front).map (· ++ behind) := by
  rw [Option.ext_iff]
  intro rest
  rw [Option.map_eq_some_iff, afterSequence?_eq_some_iff]
  constructor
  · rintro ⟨parameters, areParameters, equal⟩
    rcases List.append_eq_append_iff.mp equal with
      ⟨missing, sequenceEq, behindEq⟩ | ⟨inner, frontEq, restEq⟩
    · cases missing with
      | nil =>
          rw [List.append_nil] at sequenceEq
          refine ⟨[], afterSequence?_eq_some_iff.mpr ⟨parameters, areParameters, ?_⟩, ?_⟩
          · rw [List.append_nil, sequenceEq]
          · simpa using behindEq
      | cons c missing =>
          rw [behindEq] at apart
          exact absurd apart (not_apart_of_escape areParameters frontPart
            (List.cons_ne_nil c missing) sequenceEq.symm rest)
    · have found := afterSequence?_eq_some_iff.mpr ⟨parameters, areParameters, frontEq⟩
      exact ⟨inner, found, restEq.symm⟩
  · rintro ⟨inner, found, rfl⟩
    obtain ⟨parameters, areParameters, rfl⟩ := afterSequence?_eq_some_iff.mp found
    exact ⟨parameters, areParameters, List.append_assoc ..⟩

theorem Closed.of_suffix {s rest : List Char} (closed : Closed s) (suffix : rest <:+ s) :
    Closed rest := by
  obtain ⟨front, rfl⟩ := suffix
  intro c last
  apply closed c
  rw [Option.mem_def] at last ⊢
  rw [List.getLast?_append, last, Option.some_or]

theorem Closed.append {s t : List Char} (closed : Closed s) (nextClosed : Closed t) :
    Closed (s ++ t) := by
  intro c last
  rw [List.getLast?_append, Option.mem_def, Option.or_eq_some_iff] at last
  rcases last with last | ⟨-, last⟩
  · exact nextClosed c last
  · exact closed c last

/-- Texts side by side lose what each loses. -/
theorem erased_append {front behind : List Char} (apart : Closed front ∨ Fresh behind) :
    erased (front ++ behind) = erased front ++ erased behind := by
  induction front using erased.induct with
  | case1 => rw [List.nil_append, erased, List.nil_append]
  | case2 c s rest found ih =>
      have suffix : rest <:+ c :: s := by
        obtain ⟨parameters, -, equal⟩ := afterSequence?_eq_some_iff.mp found
        exact ⟨_, equal.symm⟩
      have whole := afterSequence?_append (List.cons_ne_nil c s) apart
      rw [found, Option.map_some] at whole
      rw [erased_of_some whole, erased_of_some found]
      exact ih (apart.imp_left fun closed => closed.of_suffix suffix)
  | case3 c s none ih =>
      have whole := afterSequence?_append (List.cons_ne_nil c s) apart
      rw [none, Option.map_none, List.cons_append] at whole
      rw [List.cons_append, erased_cons_of_none whole, erased_cons_of_none none, List.cons_append]
      rw [ih (apart.imp_left fun closed => closed.of_suffix (List.suffix_cons c s))]

theorem fresh_escape (parameters : String) (s : List Char) : Fresh (escape parameters ++ s) :=
  fresh_cons (by simp [GoesOn, isParameter]) _

theorem fresh_reset (s : List Char) : Fresh (reset ++ s) := fresh_escape "0" s

/-! ## Styled texts -/

theorem isParameter_of_parameters? {style : Style} {parameters : String}
    (isStyle : style.parameters? = some parameters) :
    ∀ c ∈ parameters.toList, isParameter c := by
  rw [← List.all_eq_true]
  cases style <;> cases isStyle <;> decide

/-- A style that goes on after each reset adds nothing else to a text. -/
theorem erased_append_reopen {parameters : String}
    (areParameters : ∀ c ∈ parameters.toList, isParameter c) (front text : List Char) :
    erased (front ++ reopen (escape parameters) text) = erased (front ++ text) := by
  induction text using reopen.induct generalizing front with
  | case1 rest ih =>
      change erased (front ++ reopen (escape parameters) (reset ++ rest)) =
        erased (front ++ (reset ++ rest))
      rw [reopen_reset_append, erased_append (.inr (fresh_reset _)),
        erased_append (.inr (fresh_reset _)), erased_reset_append, erased_reset_append,
        erased_escape_append areParameters]
      exact congrArg (erased front ++ ·) (ih [])
  | case2 c rest notReset ih =>
      have moved := ih (front ++ [c])
      rw [List.append_assoc, List.append_assoc] at moved
      rw [reopen]
      · exact moved
      · exact notReset
  | case3 => rfl

/-- A style adds nothing else to a text that stands apart from what is around it. -/
theorem erased_paint {front behind : List Char} (closed : Closed front) (fresh : Fresh behind)
    (style : Style) (text : List Char) :
    erased (front ++ (paint style text ++ behind)) = erased (front ++ (text ++ behind)) := by
  unfold paint
  split
  · rfl
  · next parameters isStyle =>
      have areParameters := isParameter_of_parameters? isStyle
      have reopened := erased_append_reopen areParameters [] text
      rw [List.nil_append, List.nil_append] at reopened
      simp only [List.append_assoc]
      rw [erased_append (.inl closed), erased_append (.inl closed),
        erased_escape_append areParameters, erased_append (.inr (fresh_reset behind)), reopened,
        erased_reset_append, erased_append (.inr fresh)]

/-! ## Lines of a report -/

/-- Spans that colour adds escape sequences to, and nothing else, and that no escape
sequence leaves. -/
structure ColoursOnly (spans : List Span) : Prop where
  closed : ∀ colour, Closed (spans.flatMap (Span.chars colour))
  erased_eq : erased (spans.flatMap (Span.chars true)) = erased (spans.flatMap (Span.chars false))

namespace ColoursOnly

variable {spans others : List Span}

theorem nil : ColoursOnly [] :=
  ⟨fun _ _ last => by contradiction, rfl⟩

theorem append (first : ColoursOnly spans) (second : ColoursOnly others) :
    ColoursOnly (spans ++ others) where
  closed := by
    intro colour
    rw [List.flatMap_append]
    exact (first.closed colour).append (second.closed colour)
  erased_eq := by
    rw [List.flatMap_append, List.flatMap_append, erased_append (.inl (first.closed true)),
      erased_append (.inl (first.closed false)), first.erased_eq, second.erased_eq]

theorem flatMap {α : Type} {lines : α → List Span} {items : List α}
    (each : ∀ item ∈ items, ColoursOnly (lines item)) : ColoursOnly (items.flatMap lines) := by
  induction items with
  | nil => exact nil
  | cons item items ih =>
      rw [List.forall_mem_cons] at each
      exact each.1.append (ih each.2)

/-- A text without a style that no escape sequence leaves. -/
theorem normal {text : String} (closed : Closed text.toList) : ColoursOnly [.normal text] := by
  have same (colour : Bool) : [Span.normal text].flatMap (Span.chars colour) = text.toList := by
    cases colour <;> simp [Span.chars, Span.normal, paint, Style.parameters?]
  constructor
  · intro colour
    rw [same]
    exact closed
  · rw [same, same]

/-- A styled text in a line. -/
theorem styled {front behind : String} (closed : Closed front.toList) (fresh : Fresh behind.toList)
    (behindPart : behind.toList ≠ []) (behindClosed : Closed behind.toList) (style : Style)
    (text : String) : ColoursOnly [.normal front, ⟨style, text⟩, .normal behind] := by
  have chars (colour : Bool) :
      [Span.normal front, ⟨style, text⟩, Span.normal behind].flatMap (Span.chars colour) =
        front.toList ++ (Span.chars colour ⟨style, text⟩ ++ behind.toList) := by
    cases colour <;> simp [Span.chars, Span.normal, paint, Style.parameters?]
  constructor
  · intro colour c last
    rw [chars, ← List.append_assoc, List.getLast?_append_of_ne_nil _ behindPart] at last
    exact behindClosed c last
  · rw [chars, chars]
    exact erased_paint closed fresh style text.toList

end ColoursOnly

section

variable (text : String) {last : String}

theorem closed_append (lastPart : last.toList ≠ []) (closed : Closed last.toList) :
    Closed (text ++ last).toList := by
  intro c isLast
  rw [String.toList_append, List.getLast?_append_of_ne_nil _ lastPart] at isLast
  exact closed c isLast

theorem closed_line : Closed (text ++ "\n").toList :=
  closed_append text (by decide) (by decide)

theorem closed_bracket_line : Closed (text ++ "]\n").toList :=
  closed_append text (by decide) (by decide)

end

theorem coloursOnly_headerLine (d : Document) : ColoursOnly (headerLine d) :=
  .styled (by decide) (by simp [Fresh, GoesOn, isParameter]) (by simp) (closed_bracket_line _)
    .bold _

theorem coloursOnly_detailLine (title text : String) : ColoursOnly (detailLine title text) := by
  rw [detailLine]
  split
  · exact .nil
  · exact .normal (closed_line _)

theorem coloursOnly_violationLines (v : Violation) : ColoursOnly (violationLines v) := by
  have line : ColoursOnly [.normal "  ",
      ⟨severityStyle v.severity, "✗ " ++ severityTitle v.severity⟩,
      .normal (" " ++ v.title ++ " [" ++ v.publicId ++ "]\n")] :=
    .styled (by decide) (by simp [Fresh, GoesOn, isParameter]) (by simp) (closed_bracket_line _)
      _ _
  exact line.append ((coloursOnly_detailLine "Path" v.msg).append
    (coloursOnly_detailLine "Remediation" v.resolve))

theorem coloursOnly_violationBlock (violations : List Violation) :
    ColoursOnly (violationBlock violations) := by
  unfold violationBlock
  split
  · exact .styled (by decide) (by decide) (by simp) (by decide) .green _
  · exact .flatMap fun v _ => coloursOnly_violationLines v

theorem coloursOnly_unscannedLines (unscanned : List Unscanned) :
    ColoursOnly (unscannedLines unscanned) := by
  unfold unscannedLines
  split
  · exact .nil
  · next unscanned _ =>
      have title : ColoursOnly
          [.normal "\n", ⟨.yellow, "Files that could not be scanned:"⟩, .normal "\n"] :=
        .styled (by decide) (by decide) (by simp) (by decide) .yellow _
      rw [List.map_eq_flatMap]
      exact title.append (.flatMap fun u _ => .normal (closed_line _))

theorem coloursOnly_summaryLine (violations documents : Nat) :
    ColoursOnly [summaryLine violations documents] := by
  rw [summaryLine]
  split
  · exact .normal (by decide)
  · exact .normal (closed_append _ (by simp) (by decide))

theorem coloursOnly_plainSpans (results : Results) (threshold : Severity) :
    ColoursOnly (plainSpans results threshold) := by
  have sections (s : Scanned) : ColoursOnly (documentLines threshold s) :=
    (coloursOnly_headerLine s.document).append
      (coloursOnly_violationBlock (s.violationsFrom threshold))
  have all := ColoursOnly.flatMap fun s (_ : s ∈ results.inOrder) => sections s
  exact (all.append (coloursOnly_unscannedLines results.unscanned)).append
    (coloursOnly_summaryLine _ _)

/-! ## What is printed -/

/-- The texts of a violation that are printed. -/
def violationFields (v : Violation) : List String := [v.title, v.publicId, v.msg, v.resolve]

/-- The texts that a report to be read prints. -/
def printedFields (results : Results) (threshold : Severity) : List String :=
  (results.scanned.flatMap fun s =>
    s.document.file.path :: (s.violationsFrom threshold).flatMap violationFields) ++
  results.unscanned.flatMap fun u => [u.file.path, u.reason]

/-- Some text has an escape character. -/
def Escapes (texts : List String) : Prop := ∃ text ∈ texts, '\x1b' ∈ text.toList

section

variable {texts others : List String} {t : String}

theorem not_escapes_nil : ¬Escapes [] := by
  simp [Escapes]

theorem escapes_cons : Escapes (t :: texts) ↔ '\x1b' ∈ t.toList ∨ Escapes texts :=
  List.exists_mem_cons_iff ..

theorem escapes_append : Escapes (texts ++ others) ↔ Escapes texts ∨ Escapes others := by
  simp only [Escapes, List.mem_append, or_and_right, exists_or]

theorem escapes_flatMap {α : Type} {fields : α → List String} {items : List α} :
    Escapes (items.flatMap fields) ↔ ∃ item ∈ items, Escapes (fields item) := by
  simp only [Escapes, List.mem_flatMap]
  constructor
  · rintro ⟨field, ⟨item, isItem, isField⟩, escapes⟩
    exact ⟨item, isItem, field, isField, escapes⟩
  · rintro ⟨item, isItem, field, isField, escapes⟩
    exact ⟨field, ⟨item, isItem, isField⟩, escapes⟩

end

theorem escape_not_mem_toDigits (n : Nat) : '\x1b' ∉ Nat.toDigits 10 n := fun member =>
  absurd (Nat.isDigit_of_mem_toDigits (by decide) (by decide) member) (by decide)

/-- Spans have an escape character in their texts. -/
def HasEscape (spans : List Span) : Prop := Escapes (spans.map Span.text)

theorem escape_mem_spansText_iff (spans : List Span) :
    '\x1b' ∈ (spansText false spans).toList ↔ HasEscape spans := by
  simp [spansText, Span.chars, HasEscape, Escapes]

theorem hasEscape_flatMap {α : Type} {lines : α → List Span} {items : List α} :
    HasEscape (items.flatMap lines) ↔ ∃ item ∈ items, HasEscape (lines item) := by
  rw [HasEscape, List.map_flatMap, escapes_flatMap]
  rfl

theorem hasEscape_append {spans others : List Span} :
    HasEscape (spans ++ others) ↔ HasEscape spans ∨ HasEscape others := by
  rw [HasEscape, List.map_append, escapes_append]
  rfl

theorem hasEscape_headerLine_iff (d : Document) :
    HasEscape (headerLine d) ↔ '\x1b' ∈ d.file.path.toList := by
  have domain : '\x1b' ∉ d.domain.name.toList := by
    cases d.domain <;> decide
  rw [HasEscape, headerLine, location]
  cases d.index? with
  | none => simp [Span.normal, escapes_cons, not_escapes_nil, domain]
  | some index => simp [Span.normal, escapes_cons, not_escapes_nil, domain, escape_not_mem_toDigits]

theorem hasEscape_detailLine_iff {title : String} (plain : '\x1b' ∉ title.toList)
    (text : String) : HasEscape (detailLine title text) ↔ '\x1b' ∈ text.toList := by
  rw [HasEscape, detailLine]
  split
  · next empty => simp [empty, not_escapes_nil]
  · simp [Span.normal, escapes_cons, not_escapes_nil, plain]

theorem hasEscape_violationLines_iff (v : Violation) :
    HasEscape (violationLines v) ↔ Escapes (violationFields v) := by
  have title : '\x1b' ∉ (severityTitle v.severity).toList := by
    cases v.severity <;> decide
  have details := @hasEscape_append (detailLine "Path" v.msg) (detailLine "Remediation" v.resolve)
  rw [hasEscape_detailLine_iff (by decide), hasEscape_detailLine_iff (by decide), HasEscape]
    at details
  simp only [HasEscape, violationLines, List.map_cons, escapes_cons, details]
  simp [Span.normal, title, violationFields, escapes_cons, not_escapes_nil, or_assoc]

theorem hasEscape_violationBlock_iff (violations : List Violation) :
    HasEscape (violationBlock violations) ↔ Escapes (violations.flatMap violationFields) := by
  unfold violationBlock
  split
  · simp [HasEscape, Span.normal, escapes_cons, not_escapes_nil]
  · rw [hasEscape_flatMap, escapes_flatMap]
    simp only [hasEscape_violationLines_iff]

theorem hasEscape_unscannedLines_iff (unscanned : List Unscanned) :
    HasEscape (unscannedLines unscanned) ↔
      Escapes (unscanned.flatMap fun u => [u.file.path, u.reason]) := by
  unfold unscannedLines
  split
  · simp [HasEscape, not_escapes_nil]
  · next unscanned _ =>
      rw [List.map_eq_flatMap, HasEscape]
      simp [Span.normal, unscannedLine, escapes_cons, escapes_flatMap, not_escapes_nil,
        List.map_flatMap]

theorem not_hasEscape_summaryLine (violations documents : Nat) :
    ¬HasEscape [summaryLine violations documents] := by
  rw [summaryLine, HasEscape, List.map_singleton, escapes_cons]
  split <;> simp [Span.normal, not_escapes_nil, escape_not_mem_toDigits]

theorem hasEscape_plainSpans_iff (results : Results) (threshold : Severity) :
    HasEscape (plainSpans results threshold) ↔ Escapes (printedFields results threshold) := by
  have sections (s : Scanned) : HasEscape (documentLines threshold s) ↔
      Escapes (s.document.file.path :: (s.violationsFrom threshold).flatMap violationFields) := by
    rw [documentLines, hasEscape_append, hasEscape_headerLine_iff, hasEscape_violationBlock_iff,
      escapes_cons]
  rw [plainSpans, hasEscape_append, hasEscape_append,
    or_iff_left (not_hasEscape_summaryLine _ _), hasEscape_unscannedLines_iff, hasEscape_flatMap,
    printedFields, escapes_append]
  refine or_congr_left ?_
  rw [escapes_flatMap]
  simp only [sections, results.inOrder_isStable.perm.mem_iff]

/-! ## Whole reports -/

/-- What colour means for the reports of results. -/
structure ColourOnly (results : Results) (threshold : Severity) : Prop where
  /-- Without their escape sequences the reports to be read are the same. -/
  erased_eq : erased (text results .plain threshold true).toList =
    erased (text results .plain threshold false).toList
  /-- Without colour there are no escape characters but those of the texts that are
  printed. -/
  escape_mem_iff : '\x1b' ∈ (text results .plain threshold false).toList ↔
    Escapes (printedFields results threshold)
  /-- If these have none, the deletion gives the report without colour. -/
  erased_of_printed : ¬Escapes (printedFields results threshold) →
    erased (text results .plain threshold true).toList =
      (text results .plain threshold false).toList
  json_eq : text results .json threshold true = text results .json threshold false

/-- Colour adds escape sequences to the report to be read, and nothing to the other one. -/
theorem text_colourOnly (results : Results) (threshold : Severity) :
    ColourOnly results threshold := by
  have same : erased (text results .plain threshold true).toList =
      erased (text results .plain threshold false).toList := by
    rw [text, text, spansText, spansText, String.toList_ofList, String.toList_ofList]
    exact (coloursOnly_plainSpans results threshold).erased_eq
  have escapes : '\x1b' ∈ (text results .plain threshold false).toList ↔
      Escapes (printedFields results threshold) :=
    (escape_mem_spansText_iff _).trans (hasEscape_plainSpans_iff results threshold)
  constructor
  case erased_eq => exact same
  case escape_mem_iff => exact escapes
  case erased_of_printed =>
    intro plain
    rw [same]
    exact erased_of_not_mem (mt escapes.mp plain)
  case json_eq => rfl

end PolicyScan.Report
