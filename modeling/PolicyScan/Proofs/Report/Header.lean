import PolicyScan.Proofs.Batch
import PolicyScan.Proofs.Results
import PolicyScan.Proofs.Scan
import PolicyScan.Report

/-!
# Documents in texts

Where a document stands is told in the line above its violations, and its number at
the end of the reason for which it is set aside.  Both texts can be read back: the
number behind any other text (`documentNumber?_append`), and the path and the number
from the line, in colour or not (`headerText_inj`).
-/

namespace PolicyScan

/-! ## The number at the end of a text -/

/-- The number of the document that a text ends with, in parentheses. -/
def documentNumber? (text : String) : Option Nat :=
  match text.toList.reverse with
  | ')' :: rest =>
    let digits := (rest.takeWhile Char.isDigit).reverse
    if digits ≠ [] ∧ " (document ".toList.reverse <+: rest.dropWhile Char.isDigit then
      some (Nat.ofDigitChars 10 digits 0)
    else none
  | _ => none

/-- The number is read whatever text stands in front. -/
theorem documentNumber?_append (text : String) (number : Nat) :
    documentNumber? (text ++ " (document " ++ toString number ++ ")") = some number := by
  let digits := Nat.toDigits 10 number
  let title := " (document ".toList.reverse
  have areDigits : ∀ c ∈ digits.reverse, c.isDigit := fun c member =>
    Nat.isDigit_of_mem_toDigits (by decide) (by decide) (List.mem_reverse.mp member)
  have reversed : (text ++ " (document " ++ toString number ++ ")").toList.reverse =
      ')' :: (digits.reverse ++ (title ++ text.toList.reverse)) := by
    simp only [String.toList_append, List.reverse_append, List.append_assoc, Nat.toString_eq_repr,
      Nat.toList_repr]
    rfl
  have behind : (digits.reverse ++ (title ++ text.toList.reverse)).dropWhile Char.isDigit =
      title ++ text.toList.reverse := by
    rw [List.dropWhile_append_of_pos areDigits]
    rfl
  have read : (digits.reverse ++ (title ++ text.toList.reverse)).takeWhile Char.isDigit =
      digits.reverse := by
    rw [List.takeWhile_append_of_pos areDigits]
    exact List.append_nil _
  have value : Nat.ofDigitChars 10 digits 0 = number :=
    Nat.ofDigitChars_toDigits (by decide) (by decide)
  simp only [documentNumber?, reversed, behind, read, List.reverse_reverse]
  rw [if_pos ⟨Nat.toDigits_ne_nil, List.prefix_append title _⟩, value]

theorem Scan.documentNumber?_reason {d : Document} {index : Nat} (numbered : d.index? = some index)
    (error : ScanError) : documentNumber? (reason d error) = some index := by
  rw [reason, numbered]
  exact documentNumber?_append error.message index

namespace Report

/-! ## Where a document stands -/

theorem documentNumber?_location {d : Document} {index : Nat} (numbered : d.index? = some index) :
    documentNumber? (location d) = some index := by
  rw [location, numbered]
  exact documentNumber?_append d.file.path index

/-- Documents that are both numbered or both not stand at different places, unless they
have the same number in files whose paths look the same. -/
theorem location_inj {d e : Document} (alike : d.index? = none ↔ e.index? = none) :
    location d = location e ↔ d.file.path = e.file.path ∧ d.index? = e.index? := by
  constructor
  · intro same
    cases numbered : d.index? with
    | none =>
        have otherNumbered := alike.mp numbered
        rw [location, location, numbered, otherNumbered] at same
        exact ⟨same, otherNumbered.symm⟩
    | some index =>
        obtain ⟨other, otherNumbered⟩ : ∃ other, e.index? = some other :=
          Option.ne_none_iff_exists'.mp fun none => by simp [alike.mpr none] at numbered
        have numberEq := documentNumber?_location otherNumbered
        rw [← same, documentNumber?_location numbered] at numberEq
        cases numberEq
        rw [location, location, numbered, otherNumbered] at same
        simp only [String.append_assoc, String.append_left_inj] at same
        exact ⟨same, otherNumbered.symm⟩
  · rintro ⟨samePath, sameIndex⟩
    rw [location, location, samePath, sameIndex]

/-! ## Styled texts -/

theorem reopen_reset_append (start text : List Char) :
    reopen start (reset ++ text) = reset ++ (start ++ reopen start text) :=
  List.append_assoc ..

theorem reopen_cons {start text : List Char} {c : Char} (notReset : ¬reset <+: c :: text) :
    reopen start (c :: text) = c :: reopen start text := by
  rw [reopen]
  rintro rest rfl rfl
  exact notReset (List.prefix_append reset rest)

/-- A character that starts no escape sequence is treated alone. -/
theorem exists_of_reopen_eq_cons {start text rest : List Char} {c : Char} (plain : c ≠ '\x1b')
    (reopened : reopen start text = c :: rest) :
    ∃ inner, text = c :: inner ∧ reopen start inner = rest := by
  unfold reopen at reopened
  split at reopened
  · cases reopened
    exact absurd rfl plain
  · cases reopened
    exact ⟨_, rfl, rfl⟩
  · cases reopened

/-- No reset appears where none was. -/
theorem reset_prefix_of_reopen {start text : List Char} (starts : reset <+: reopen start text) :
    reset <+: text := by
  by_contra notReset
  obtain ⟨rest, starts⟩ := starts
  cases text with
  | nil => cases starts
  | cons c text =>
      rw [reopen_cons notReset] at starts
      obtain ⟨rfl, second⟩ := List.cons.inj starts
      obtain ⟨_, rfl, third⟩ := exists_of_reopen_eq_cons (by decide) second.symm
      obtain ⟨_, rfl, fourth⟩ := exists_of_reopen_eq_cons (by decide) third
      obtain ⟨inner, rfl, -⟩ := exists_of_reopen_eq_cons (by decide) fourth
      exact notReset (List.prefix_append reset inner)

/-- Going on with a style after each reset loses nothing. -/
theorem reopen_injective (start : List Char) : Function.Injective (reopen start) := by
  intro text other same
  induction text using reopen.induct generalizing other with
  | case1 rest ih =>
      change reopen start (reset ++ rest) = reopen start other at same
      rw [reopen_reset_append] at same
      obtain ⟨inner, rfl⟩ := reset_prefix_of_reopen ⟨_, same⟩
      rw [reopen_reset_append] at same
      exact congrArg (reset ++ ·) (ih (List.append_cancel_left (List.append_cancel_left same)))
  | case2 c rest notReset ih =>
      have notReset : ¬reset <+: c :: rest := by
        rintro ⟨inner, equal⟩
        obtain ⟨rfl, rfl⟩ := List.cons.inj equal
        exact notReset inner rfl rfl
      have otherNotReset : ¬reset <+: other := by
        rintro ⟨inner, rfl⟩
        rw [reopen_reset_append] at same
        exact notReset (reset_prefix_of_reopen ⟨_, same.symm⟩)
      rw [reopen_cons notReset] at same
      cases other with
      | nil => cases same
      | cons d inner =>
          rw [reopen_cons otherNotReset] at same
          obtain ⟨rfl, behind⟩ := List.cons.inj same
          rw [ih behind]
  | case3 =>
      unfold reopen at same
      split at same
      · cases same
      · cases same
      · rfl

theorem paint_injective (style : Style) : Function.Injective (paint style) := by
  intro text other same
  unfold paint at same
  split at same
  · exact same
  · exact reopen_injective _ (List.append_cancel_left (List.append_cancel_right same))

theorem chars_injective (colour : Bool) (style : Style) {text other : String}
    (same : Span.chars colour ⟨style, text⟩ = Span.chars colour ⟨style, other⟩) : text = other := by
  cases colour with
  | false => exact String.toList_inj.mp same
  | true => exact String.toList_inj.mp (paint_injective style same)

/-! ## The line above the violations -/

/-- The line above the violations of a document, with the line feeds around it. -/
def headerText (colour : Bool) (d : Document) : String := spansText colour (headerLine d)

theorem toList_headerText (colour : Bool) (d : Document) :
    (headerText colour d).toList = "\nTesting ".toList ++ (Span.chars colour ⟨.bold, location d⟩ ++
      (" [" ++ d.domain.name ++ "]\n").toList) := by
  rw [headerText, spansText, String.toList_ofList, headerLine]
  cases colour <;> simp [Span.chars, Span.normal, paint, Style.parameters?]

/-- The line tells the domain. -/
theorem domain_eq_of_append {front other : List Char} {domain second : Domain}
    (same : front ++ (" [" ++ domain.name ++ "]\n").toList =
      other ++ (" [" ++ second.name ++ "]\n").toList) : domain = second := by
  have letters := congrArg (fun text => text.reverse[2]?) same
  cases domain <;> cases second <;> simp [Domain.name] at letters ⊢

/-- The lines above two documents are the same just if these have the same number, or
none, in files of one domain whose paths look the same. -/
theorem headerText_inj {colour : Bool} {d e : Document}
    (numbered : d.index? = none ↔ d.domain = .terraform)
    (otherNumbered : e.index? = none ↔ e.domain = .terraform) :
    headerText colour d = headerText colour e ↔
      d.file.path = e.file.path ∧ d.index? = e.index? ∧ d.domain = e.domain := by
  constructor
  · intro same
    have chars := congrArg String.toList same
    rw [toList_headerText, toList_headerText] at chars
    have behind := List.append_cancel_left chars
    have sameDomain := domain_eq_of_append behind
    rw [sameDomain] at behind
    have sameLocation := chars_injective colour .bold (List.append_cancel_right behind)
    have alike : d.index? = none ↔ e.index? = none := by
      rw [numbered, otherNumbered, sameDomain]
    obtain ⟨samePath, sameIndex⟩ := (location_inj alike).mp sameLocation
    exact ⟨samePath, sameIndex, sameDomain⟩
  · rintro ⟨samePath, sameIndex, sameDomain⟩
    rw [headerText, headerText, headerLine, headerLine, location, location, samePath, sameIndex,
      sameDomain]

theorem not_mem_reopen {c : Char} {start text : List Char} (notReset : c ∉ reset)
    (notStart : c ∉ start) (notText : c ∉ text) : c ∉ reopen start text := by
  induction text using reopen.induct with
  | case1 rest ih =>
      have notRest : c ∉ rest := fun member => notText (List.mem_append_right reset member)
      change c ∉ reopen start (reset ++ rest)
      rw [reopen_reset_append]
      simp only [List.mem_append, notReset, notStart, ih notRest, or_self, not_false_eq_true]
  | case2 d rest isReset ih =>
      rw [List.mem_cons, not_or] at notText
      rw [reopen]
      · rw [List.mem_cons, not_or]
        exact ⟨notText.1, ih notText.2⟩
      · exact isReset
  | case3 => exact List.not_mem_nil

/-- Unless the path of a file holds a line feed, it is one line. -/
theorem exists_line {d : Document} (noFeed : '\n' ∉ d.file.path.toList) (colour : Bool) :
    ∃ line, '\n' ∉ line ∧ (headerText colour d).toList = '\n' :: (line ++ ['\n']) := by
  have notLocation : '\n' ∉ (location d).toList := by
    rw [location]
    split
    · next index numbered =>
        have notDigit : '\n' ∉ Nat.toDigits 10 index := fun member =>
          absurd (Nat.isDigit_of_mem_toDigits (by decide) (by decide) member) (by decide)
        simp [String.toList_append, noFeed, notDigit]
    · exact noFeed
  have notChars : '\n' ∉ Span.chars colour ⟨.bold, location d⟩ := by
    cases colour with
    | false => exact notLocation
    | true =>
        change '\n' ∉ escape "1" ++ reopen (escape "1") (location d).toList ++ reset
        rw [List.mem_append, List.mem_append, not_or, not_or]
        exact ⟨⟨by decide, not_mem_reopen (by decide) (by decide) notLocation⟩, by decide⟩
  refine ⟨"Testing ".toList ++ (Span.chars colour ⟨.bold, location d⟩ ++
    (" [" ++ d.domain.name ++ "]").toList), ?_, ?_⟩
  · rw [List.mem_append, List.mem_append, not_or, not_or]
    exact ⟨by decide, notChars, by cases d.domain <;> decide⟩
  · rw [toList_headerText]
    simp [String.toList_append]

/-- The line of every scanned document stands in the report. -/
theorem headerText_infix {results : Results} {s : Scanned} (member : s ∈ results.scanned)
    (threshold : Severity) (colour : Bool) :
    (headerText colour s.document).toList <:+:
      (text results .plain threshold colour).toList := by
  have placed := results.inOrder_isStable.perm.mem_iff.mpr member
  obtain ⟨before, after, split⟩ := List.append_of_mem placed
  rw [text, spansText, String.toList_ofList, headerText, spansText, String.toList_ofList,
    plainSpans, split]
  simp only [List.flatMap_append, List.flatMap_cons, documentLines, List.append_assoc]
  exact ⟨_, _, by rw [List.append_assoc]⟩

end Report
end PolicyScan
