import PolicyScan.Manifest
import PolicyScan.Proofs.Yaml.Progress

/-!
# When the lines of a manifest are skipped

A manifest whose lines hold white space and comments alone is not handed to the
YAML reader.  The lines are those between line feeds and the white space is
that of Unicode, while YAML ends lines at five other places and takes only
spaces for blank.  The two agree on plain lines (`isSkippedLine_iff`), but a
comment that ends at another line end hides what follows it.
-/

namespace PolicyScan.Manifest

/-- White space alone, or a comment after white space. -/
def isSkippedLine (line : List Char) : Bool :=
  match line.dropWhile Text.isWhite with
  | [] => true
  | c :: _ => c = '#'

/-- Spaces and tabs alone, or a comment after them. -/
def isCommentLine (line : List Char) : Bool :=
  match line.dropWhile Yaml.isBlank with
  | [] => true
  | c :: _ => c = '#'

/-- No byte order mark, and no white space but spaces and a carriage return at
the end. -/
def isPlainLine : List Char → Bool
  | [] => true
  | ['\r'] => true
  | c :: rest => (c ≠ '\ufeff' && (!Text.isWhite c || c = ' ')) && isPlainLine rest

/-- Every line is white space or a comment. -/
def IsSkipped (text : List Char) : Prop := ∀ line ∈ Text.lines text, isSkippedLine line

/-- YAML takes every character and all lines are plain. -/
def IsPlain (text : List Char) : Prop :=
  (∀ c ∈ text, Yaml.isAllowed c) ∧ ∀ line ∈ Text.lines text, isPlainLine line

instance (text : List Char) : Decidable (IsSkipped text) :=
  inferInstanceAs (Decidable (∀ _ ∈ _, _))

instance (text : List Char) : Decidable (IsPlain text) :=
  inferInstanceAs (Decidable (_ ∧ _))

/-! ## Lines of YAML within lines -/

theorem lines_of_not_mem {line : List Char} (noFeed : '\n' ∉ line) :
    Text.lines line = [line] := by
  induction line with
  | nil => rfl
  | cons c line ih =>
      rw [List.mem_cons, not_or] at noFeed
      rw [Text.lines, if_neg (Ne.symm noFeed.1), ih noFeed.2]

theorem lines_append_feed {line : List Char} (noFeed : '\n' ∉ line) (rest : List Char) :
    Text.lines (line ++ '\n' :: rest) = line :: Text.lines rest := by
  induction line with
  | nil => rfl
  | cons c line ih =>
      rw [List.mem_cons, not_or] at noFeed
      rw [List.cons_append, Text.lines, if_neg (Ne.symm noFeed.1), ih noFeed.2]

theorem lines_ne_nil (text : List Char) : Text.lines text ≠ [] := by
  cases text with
  | nil => exact List.cons_ne_nil _ _
  | cons c rest =>
      rw [Text.lines]
      split
      · exact List.cons_ne_nil _ _
      · split <;> exact List.cons_ne_nil _ _

/-- A character that is no line feed is the first one of its line. -/
theorem exists_lines_cons {c : Char} (noFeed : c ≠ '\n') (rest : List Char) :
    ∃ line later, Text.lines rest = line :: later ∧
      Text.lines (c :: rest) = (c :: line) :: later := by
  rcases List.exists_cons_of_ne_nil (lines_ne_nil rest) with ⟨line, later, linesEq⟩
  exact ⟨line, later, linesEq, by rw [Text.lines, if_neg noFeed, linesEq]⟩

theorem mem_of_mem_lines {text line : List Char} {c : Char} (inside : line ∈ Text.lines text)
    (member : c ∈ line) : c ∈ text := by
  induction text generalizing line with
  | nil =>
      rw [List.mem_singleton.mp inside] at member
      contradiction
  | cons d rest ih =>
      by_cases feed : d = '\n'
      · rw [Text.lines, if_pos feed, List.mem_cons] at inside
        rcases inside with rfl | later
        · contradiction
        · exact List.mem_cons_of_mem d (ih later member)
      · rcases exists_lines_cons feed rest with ⟨first, more, restEq, linesEq⟩
        rw [linesEq] at inside
        rw [restEq] at ih
        rcases List.mem_cons.mp inside with rfl | later
        · rcases List.mem_cons.mp member with rfl | inFirst
          · exact List.mem_cons_self
          · exact List.mem_cons_of_mem d (ih List.mem_cons_self inFirst)
        · exact List.mem_cons_of_mem d (ih (List.mem_cons_of_mem first later) member)

/-- A line feed ends the last line of YAML before it, or goes with the carriage
return that ends it. -/
theorem exists_yamlLines_append_feed {P : List Char → Prop} (empty : P []) (rest : List Char)
    {line first : List Char} {more : List (List Char)} (noFeed : '\n' ∉ line)
    (linesEq : Yaml.lines line = first :: more) :
    ∃ later, Yaml.lines (line ++ '\n' :: rest) = first :: later ∧
      ((∀ part ∈ later, P part) ↔
        (∀ part ∈ more, P part) ∧ ∀ part ∈ Yaml.lines rest, P part) := by
  induction line generalizing first more with
  | nil =>
      cases linesEq
      exact ⟨Yaml.lines rest, Yaml.lines_break rfl rest, by simp⟩
  | cons c line ih =>
      rw [List.mem_cons, not_or] at noFeed
      obtain ⟨next, others, nextEq⟩ := List.exists_cons_of_ne_nil (Yaml.lines_ne_nil line)
      obtain ⟨later, laterEq, parts⟩ := ih noFeed.2 nextEq
      by_cases ends : Yaml.isBreak c
      · rw [Yaml.lines_break ends] at linesEq
        cases linesEq
        by_cases both : c = '\r' ∧ line = []
        · rcases both with ⟨rfl, rfl⟩
          exact ⟨Yaml.lines rest, rfl, by simp [Yaml.afterBreak, Yaml.lines, empty]⟩
        · have single : c = '\r' → (line ++ '\n' :: rest).head? ≠ some '\n' := by
            rcases line with _ | ⟨d, line⟩
            · exact fun carriage => absurd ⟨carriage, rfl⟩ both
            · intro _ feed
              exact noFeed.2 (Option.some.inj feed ▸ List.mem_cons_self)
          have singleLine : c = '\r' → line.head? ≠ some '\n' :=
            fun _ feed => noFeed.2 (List.mem_of_head? feed)
          rw [List.cons_append, Yaml.lines_break ends, Yaml.afterBreak_of_head?_ne single,
            Yaml.afterBreak_of_head?_ne singleLine, laterEq, nextEq]
          exact ⟨_, rfl, by simp only [List.forall_mem_cons, parts, and_assoc]⟩
      · have inside : Yaml.isBreak c = false := Bool.eq_false_iff.mpr ends
        rw [Yaml.lines_cons inside nextEq] at linesEq
        cases linesEq
        exact ⟨later, Yaml.lines_cons inside laterEq, parts⟩

/-- What holds of all lines of YAML holds of those within each line. -/
theorem forall_yamlLines_iff {P : List Char → Prop} (empty : P []) (text : List Char) :
    (∀ part ∈ Yaml.lines text, P part) ↔
      ∀ line ∈ Text.lines text, ∀ part ∈ Yaml.lines line, P part := by
  by_cases feed : '\n' ∈ text
  · obtain ⟨line, rest, rfl, noFeed⟩ := List.eq_append_cons_of_mem feed
    obtain ⟨first, more, linesEq⟩ := List.exists_cons_of_ne_nil (Yaml.lines_ne_nil line)
    obtain ⟨later, laterEq, parts⟩ := exists_yamlLines_append_feed empty rest noFeed linesEq
    have shorter : rest.length < (line ++ '\n' :: rest).length := by
      rw [List.length_append, List.length_cons]
      omega
    rw [laterEq, lines_append_feed noFeed, List.forall_mem_cons, List.forall_mem_cons, parts,
      linesEq, List.forall_mem_cons, forall_yamlLines_iff empty rest, and_assoc]
  · simp only [lines_of_not_mem feed, List.forall_mem_singleton]
termination_by text.length

/-- A line end puts an empty line in front, or is part of the next line end. -/
theorem yamlLines_cons_of_isBreak {c : Char} (ends : Yaml.isBreak c) (rest : List Char) :
    Yaml.lines (c :: rest) = [] :: Yaml.lines rest ∨ Yaml.lines (c :: rest) = Yaml.lines rest := by
  rw [Yaml.lines_break ends]
  by_cases both : c = '\r' ∧ rest.head? = some '\n'
  · rcases both with ⟨rfl, feed⟩
    rcases List.head?_eq_some_iff.mp feed with ⟨later, rfl⟩
    have feedAlone : Yaml.afterBreak ('\n' :: later) = later :=
      Yaml.afterBreak_of_head?_ne fun carriage => absurd carriage (by decide)
    right
    rw [Yaml.lines_break (c := '\n') rfl, feedAlone]
    rfl
  · rw [Yaml.afterBreak_of_head?_ne fun carriage feed => both ⟨carriage, feed⟩]
    exact .inl rfl

theorem mem_of_mem_yamlLines {text part : List Char} {c : Char} (line : part ∈ Yaml.lines text)
    (member : c ∈ part) : c ∈ text := by
  induction text generalizing part with
  | nil =>
      rw [List.mem_singleton.mp line] at member
      contradiction
  | cons d rest ih =>
      by_cases ends : Yaml.isBreak d
      · rcases yamlLines_cons_of_isBreak ends rest with linesEq | linesEq
        · rw [linesEq, List.mem_cons] at line
          rcases line with rfl | later
          · contradiction
          · exact List.mem_cons_of_mem d (ih later member)
        · rw [linesEq] at line
          exact List.mem_cons_of_mem d (ih line member)
      · obtain ⟨first, more, linesEq⟩ := List.exists_cons_of_ne_nil (Yaml.lines_ne_nil rest)
        rw [Yaml.lines_cons (Bool.eq_false_iff.mpr ends) linesEq, List.mem_cons] at line
        rw [linesEq] at ih
        rcases line with rfl | later
        · rcases List.mem_cons.mp member with rfl | inFirst
          · exact List.mem_cons_self
          · exact List.mem_cons_of_mem d (ih List.mem_cons_self inFirst)
        · exact List.mem_cons_of_mem d (ih (List.mem_cons_of_mem first later) member)

/-! ## One line -/

/-- What ends a line of YAML is white space. -/
theorem isWhite_of_isBreak {c : Char} (ends : Yaml.isBreak c) : Text.isWhite c := by
  rcases Yaml.isBreak_iff.mp ends with rfl | rfl | rfl | rfl | rfl <;> decide

theorem isWhite_of_isBlank {c : Char} (blank : Yaml.isBlank c) : Text.isWhite c := by
  simp only [Yaml.isBlank, Bool.or_eq_true, decide_eq_true_eq] at blank
  rcases blank with rfl | rfl <;> decide

theorem isSkippedLine_cons_of_isWhite {c : Char} (white : Text.isWhite c) (line : List Char) :
    isSkippedLine (c :: line) = isSkippedLine line := by
  rw [isSkippedLine, List.dropWhile_cons_of_pos white, isSkippedLine]

theorem isSkippedLine_cons_of_not_isWhite {c : Char} (solid : ¬Text.isWhite c)
    (line : List Char) : isSkippedLine (c :: line) = decide (c = '#') := by
  rw [isSkippedLine, List.dropWhile_cons_of_neg solid]

theorem isCommentLine_cons_of_isBlank {c : Char} (blank : Yaml.isBlank c) (line : List Char) :
    isCommentLine (c :: line) = isCommentLine line := by
  rw [isCommentLine, List.dropWhile_cons_of_pos blank, isCommentLine]

theorem isCommentLine_cons_of_not_isBlank {c : Char} (solid : ¬Yaml.isBlank c)
    (line : List Char) : isCommentLine (c :: line) = decide (c = '#') := by
  rw [isCommentLine, List.dropWhile_cons_of_neg solid]

/-- A line of blanks and comments is skipped, however many lines of YAML it
holds. -/
theorem isSkippedLine_of_forall_isCommentLine {line : List Char}
    (comments : ∀ part ∈ Yaml.lines line, isCommentLine part) : isSkippedLine line := by
  induction line with
  | nil => rfl
  | cons c line ih =>
      obtain ⟨first, more, linesEq⟩ := List.exists_cons_of_ne_nil (Yaml.lines_ne_nil line)
      by_cases ends : Yaml.isBreak c
      · rw [isSkippedLine_cons_of_isWhite (isWhite_of_isBreak ends)]
        apply ih
        rcases yamlLines_cons_of_isBreak ends line with partsEq | partsEq
        · rw [partsEq, List.forall_mem_cons] at comments
          exact comments.2
        · rw [partsEq] at comments
          exact comments
      · rw [Yaml.lines_cons (Bool.eq_false_iff.mpr ends) linesEq, List.forall_mem_cons]
          at comments
        rcases comments with ⟨firstComment, moreComments⟩
        by_cases blank : Yaml.isBlank c
        · rw [isSkippedLine_cons_of_isWhite (isWhite_of_isBlank blank)]
          rw [isCommentLine_cons_of_isBlank blank] at firstComment
          apply ih
          rw [linesEq, List.forall_mem_cons]
          exact ⟨firstComment, moreComments⟩
        · rw [isCommentLine_cons_of_not_isBlank blank, decide_eq_true_iff] at firstComment
          subst firstComment
          rfl

theorem dropMark_of_not_mem {line : List Char} (noMark : '\ufeff' ∉ line) :
    Yaml.dropMark line = line := by
  unfold Yaml.dropMark
  split
  · exact absurd List.mem_cons_self noMark
  · rfl

theorem isBlankLine_cons_space {line : List Char} (noMark : '\ufeff' ∉ line) :
    Yaml.isBlankLine (' ' :: line) = Yaml.isBlankLine line := by
  rw [Yaml.isBlankLine, Yaml.isBlankLine, dropMark_of_not_mem noMark]
  rfl

theorem isBlankLine_cons_of_ne_space {c : Char} {line : List Char}
    (noMark : '\ufeff' ∉ c :: line) (solid : c ≠ ' ') :
    Yaml.isBlankLine (c :: line) = decide (c = '#') := by
  rw [Yaml.isBlankLine, dropMark_of_not_mem noMark, List.dropWhile_cons_of_neg (by simp [solid])]

/-- What YAML takes for blank holds blanks and comments alone, but for a
mark. -/
theorem isCommentLine_of_isBlankLine {line : List Char} (noMark : '\ufeff' ∉ line)
    (blank : Yaml.isBlankLine line) : isCommentLine line := by
  induction line with
  | nil => rfl
  | cons c line ih =>
      have noMarkLater : '\ufeff' ∉ line := fun mark => noMark (List.mem_cons_of_mem c mark)
      by_cases space : c = ' '
      · subst space
        rw [isBlankLine_cons_space noMarkLater] at blank
        rw [isCommentLine_cons_of_isBlank rfl]
        exact ih noMarkLater blank
      · rw [isBlankLine_cons_of_ne_space noMark space, decide_eq_true_iff] at blank
        subst blank
        rfl

/-- A line of blank lines of YAML without marks is skipped. -/
theorem isSkippedLine_of_forall_isBlankLine {line : List Char} (noMark : '\ufeff' ∉ line)
    (blank : ∀ part ∈ Yaml.lines line, Yaml.isBlankLine part) : isSkippedLine line := by
  apply isSkippedLine_of_forall_isCommentLine
  intro part member
  exact isCommentLine_of_isBlankLine (fun mark => noMark (mem_of_mem_yamlLines member mark))
    (blank part member)

theorem isPlainLine_cons {c : Char} {line : List Char} (plain : isPlainLine (c :: line)) :
    c = '\r' ∧ line = [] ∨
      (c ≠ '\ufeff' ∧ (Text.isWhite c → c = ' ')) ∧ isPlainLine line := by
  unfold isPlainLine at plain
  split at plain
  · contradiction
  · rename_i equal
    exact .inl (List.cons.inj equal)
  · rename_i equal
    cases equal
    simpa [imp_iff_not_or] using Or.inr plain

/-- A character that is the space if it is white ends no line. -/
theorem not_isBreak_of_space {c : Char} (space : Text.isWhite c → c = ' ') :
    Yaml.isBreak c = false := by
  rw [Bool.eq_false_iff]
  intro ends
  rw [space (isWhite_of_isBreak ends)] at ends
  contradiction

theorem not_mem_mark_of_isPlainLine {line : List Char} (plain : isPlainLine line) :
    '\ufeff' ∉ line := by
  induction line with
  | nil => exact List.not_mem_nil
  | cons c line ih =>
      rw [List.mem_cons, not_or]
      rcases isPlainLine_cons plain with ⟨rfl, rfl⟩ | ⟨⟨noMark, -⟩, later⟩
      · exact ⟨by decide, List.not_mem_nil⟩
      · exact ⟨Ne.symm noMark, ih later⟩

/-- A plain line is one line of YAML, with an empty one after its carriage
return. -/
theorem yamlLines_of_isPlainLine {line : List Char} (plain : isPlainLine line) :
    ∃ first more, Yaml.lines line = first :: more ∧ ∀ part ∈ more, part = [] := by
  induction line with
  | nil => exact ⟨[], [], rfl, by simp⟩
  | cons c line ih =>
      rcases isPlainLine_cons plain with ⟨rfl, rfl⟩ | ⟨⟨-, space⟩, later⟩
      · exact ⟨[], [[]], rfl, by simp⟩
      · rcases ih later with ⟨first, more, linesEq, empty⟩
        have inside := not_isBreak_of_space space
        exact ⟨c :: first, more, Yaml.lines_cons inside linesEq, empty⟩

theorem forall_isBlankLine_of_isSkippedLine {line : List Char} (plain : isPlainLine line)
    (skipped : isSkippedLine line) : ∀ part ∈ Yaml.lines line, Yaml.isBlankLine part := by
  induction line with
  | nil =>
      intro part member
      rw [List.mem_singleton.mp member]
      rfl
  | cons c line ih =>
      rcases isPlainLine_cons plain with ⟨rfl, rfl⟩ | ⟨⟨noMark, space⟩, later⟩
      · decide
      · rcases yamlLines_of_isPlainLine later with ⟨first, more, linesEq, empty⟩
        have firstMark : '\ufeff' ∉ first := fun mark =>
          not_mem_mark_of_isPlainLine later
            (mem_of_mem_yamlLines (linesEq ▸ List.mem_cons_self) mark)
        have inside := not_isBreak_of_space space
        rw [Yaml.lines_cons inside linesEq, List.forall_mem_cons]
        by_cases white : Text.isWhite c
        · rw [isSkippedLine_cons_of_isWhite white] at skipped
          have blank := ih later skipped
          rw [linesEq, List.forall_mem_cons] at blank
          rw [space white, isBlankLine_cons_space firstMark]
          exact blank
        · rw [isSkippedLine_cons_of_not_isWhite white, decide_eq_true_iff] at skipped
          subst skipped
          refine ⟨rfl, fun part member => ?_⟩
          rw [empty part member]
          rfl

/-- The guard and YAML agree on plain lines. -/
theorem isSkippedLine_iff {line : List Char} (plain : isPlainLine line) :
    isSkippedLine line ↔ ∀ part ∈ Yaml.lines line, Yaml.isBlankLine part :=
  ⟨forall_isBlankLine_of_isSkippedLine plain,
    isSkippedLine_of_forall_isBlankLine (not_mem_mark_of_isPlainLine plain)⟩

/-! ## The whole text -/

theorem hasContent_eq_false_iff (text : String) :
    hasContent text = false ↔ IsSkipped text.toList := by
  unfold hasContent IsSkipped
  rw [List.any_eq_false]
  refine forall₂_congr fun line _ => ?_
  unfold isSkippedLine
  rcases line.dropWhile Text.isWhite with _ | ⟨c, rest⟩
  · simp
  · simp

/-- A text has no document exactly if its characters are allowed and each line
holds blank lines of YAML. -/
theorem documents_eq_nil_iff (text : List Char) :
    Yaml.documents text = .ok [] ↔
      (∀ c ∈ text, Yaml.isAllowed c) ∧
        ∀ line ∈ Text.lines text, ∀ part ∈ Yaml.lines line, Yaml.isBlankLine part := by
  rw [Yaml.documents_eq_nil_iff, Yaml.IsBlankText,
    forall_yamlLines_iff (P := fun part => Yaml.isBlankLine part) rfl]

/-- The YAML reader gives a value even for a text without a document. -/
theorem values_ne_nil (text : String) : Yaml.values text ≠ .ok [] := by
  intro read
  obtain ⟨nodes, documentsEq, read⟩ := bind_eq_ok_iff.mp read
  rcases nodes with _ | ⟨node, nodes⟩
  · cases read
  · change (node :: nodes).mapM Yaml.Node.toJson = .ok [] at read
    rw [List.mapM_cons] at read
    obtain ⟨value, -, read⟩ := bind_eq_ok_iff.mp read
    obtain ⟨values, -, read⟩ := bind_eq_ok_iff.mp read
    cases read

theorem objects_eq_nil_iff (text : String) :
    objects text = .ok [] ↔ hasContent text = false := by
  unfold objects
  by_cases content : hasContent text
  · rw [if_pos content, content]
    simp only [Bool.true_eq_false, iff_false]
    intro read
    obtain ⟨values, valuesEq, read⟩ := bind_eq_ok_iff.mp read
    obtain ⟨-, -, read⟩ := bind_eq_ok_iff.mp read
    cases read
    exact values_ne_nil text (mapError_eq_ok_iff.mp valuesEq)
  · rw [if_neg content]
    simp only [content]

/-- A text that holds no document but is not skipped is read as one empty
document. -/
theorem objects_of_documents_eq_nil {text : String} (content : hasContent text)
    (noDocument : Yaml.documents text.toList = .ok []) :
    objects text = .error (.missing 0 requiredFields) := by
  have single : Yaml.values text = .ok [.null] := by
    rw [Yaml.values, noDocument]
    rfl
  rw [objects, if_pos content, single]
  rfl

/-- How far the guard may be trusted.  A text gives no objects exactly if the
guard skips it, whatever YAML makes of it; so the guard and YAML agree that there
is nothing to read exactly if both the white lines and the blank lines of YAML
make up the text, or neither do.  Blanks and comments alone are always skipped,
a text without documents that is not skipped holds a byte order mark and is
refused, and on plain lines the two agree. -/
theorem hasContent_exact (text : String) :
    (hasContent text = false ↔ IsSkipped text.toList) ∧
    (objects text = .ok [] ↔ IsSkipped text.toList) ∧
    (Yaml.documents text.toList = .ok [] ↔
      (∀ c ∈ text.toList, Yaml.isAllowed c) ∧
        ∀ line ∈ Text.lines text.toList, ∀ part ∈ Yaml.lines line, Yaml.isBlankLine part) ∧
    ((hasContent text = false ↔ Yaml.documents text.toList = .ok []) ↔
      (IsSkipped text.toList ↔ Yaml.IsBlankText text.toList)) ∧
    ((∀ part ∈ Yaml.lines text.toList, isCommentLine part) → objects text = .ok []) ∧
    (Yaml.documents text.toList = .ok [] → ¬IsSkipped text.toList →
      '\ufeff' ∈ text.toList ∧ objects text = .error (.missing 0 requiredFields)) ∧
    (IsPlain text.toList →
      (hasContent text = false ↔ Yaml.documents text.toList = .ok [])) := by
  have skips := hasContent_eq_false_iff text
  have empties := documents_eq_nil_iff text.toList
  refine ⟨skips, (objects_eq_nil_iff text).trans skips, empties, ?agreement, ?comments, ?mark,
    ?plain⟩
  case agreement => rw [skips, Yaml.documents_eq_nil_iff]
  case comments =>
    intro comments
    rw [objects_eq_nil_iff, skips]
    rw [forall_yamlLines_iff (P := fun part => isCommentLine part) rfl] at comments
    exact fun line member => isSkippedLine_of_forall_isCommentLine (comments line member)
  case mark =>
    intro noDocument notSkipped
    constructor
    · by_contra noMark
      apply notSkipped
      intro line member
      apply isSkippedLine_of_forall_isBlankLine
      · exact fun mark => noMark (mem_of_mem_lines member mark)
      · exact (empties.mp noDocument).2 line member
    · apply objects_of_documents_eq_nil _ noDocument
      rw [← skips] at notSkipped
      simpa using notSkipped
  case plain =>
    rintro ⟨allowed, plain⟩
    rw [skips, empties, and_iff_right allowed]
    exact forall₂_congr fun line member => isSkippedLine_iff (plain line member)

/-- A comment that ends at a carriage return, and an object after it. -/
def hiddenPod : String := "# c\rapiVersion: v1\rkind: Pod\rmetadata: \x7b\x7d\r"

/-- YAML reads the object with all its fields and the guard skips it; a mark
alone is refused; and lines of comments are taken for what they are. -/
theorem hasContent_hiddenPod :
    ((Yaml.values hiddenPod).map (·.map missingFields) = .ok [[]] ∧ objects hiddenPod = .ok []) ∧
      objects "\ufeff" = .error (.missing 0 requiredFields) ∧
      (hasContent "# c\r\n" = false ↔ Yaml.documents "# c\r\n".toList = .ok []) := by
  refine ⟨⟨by decide +kernel, ?_⟩, ?_, ?_⟩
  · exact (hasContent_exact hiddenPod).2.1.mpr (by decide)
  · obtain ⟨-, -, empties, -, -, mark, -⟩ := hasContent_exact "\ufeff"
    exact (mark (empties.mpr (by decide)) (by decide)).2
  · obtain ⟨-, -, -, -, -, -, plain⟩ := hasContent_exact "# c\r\n"
    exact plain (by decide)

end PolicyScan.Manifest
