import PolicyScan.Proofs.Json.Tree
import PolicyScan.Proofs.Yaml.Gaps
import PolicyScan.Proofs.Yaml.Quoted

/-!
# Plain words in flow collections

A word of letters and digits, or a number with a sign, is a plain scalar that
goes up to the next sign of the collection around it; the gap before the sign is
passed over with it.
-/

namespace PolicyScan.Yaml

/-- Letters and digits, with or without a hyphen in front. -/
inductive IsWord : List Char → Prop where
  | unsigned {c : Char} {tail : List Char} (first : c.isAlphanum)
    (others : ∀ d ∈ tail, d.isAlphanum) : IsWord (c :: tail)
  | signed {c : Char} {tail : List Char} (first : c.isAlphanum)
    (others : ∀ d ∈ tail, d.isAlphanum) : IsWord ('-' :: c :: tail)

theorem IsWord.exists_cons {word : List Char} (isWord : IsWord word) :
    ∃ c tail, word = c :: tail := by
  cases isWord with
  | unsigned first others => exact ⟨_, _, rfl⟩
  | signed first others => exact ⟨_, _, rfl⟩

/-- A sign that ends an item of a flow collection. -/
def EndsItem (c : Char) : Prop := c = ',' ∨ c = ']' ∨ c = '\x7d'

/-! ## Characters of words -/

section Characters

variable {c : Char} (letter : c.isAlphanum)

include letter

theorem not_isIndicator_of_isAlphanum : Lexer.isIndicator c = false := by
  have others : ∀ d ∈ "-?:,[]\x7b\x7d#&*!|>'\"%@\x60".toList, d.isAlphanum = false := by decide
  rw [Bool.eq_false_iff]
  intro indicator
  rw [Lexer.isIndicator, List.contains_iff_mem] at indicator
  rw [others c indicator] at letter
  contradiction

theorem not_isBlank_of_isAlphanum : ¬isBlank c := by
  intro blank
  simp only [isBlank, Bool.or_eq_true, decide_eq_true_eq] at blank
  rcases blank with rfl | rfl <;> contradiction

theorem not_isBreak_of_isAlphanum : ¬isBreak c := by
  intro ends
  rcases isBreak_iff.mp ends with rfl | rfl | rfl | rfl | rfl <;> contradiction

theorem not_isFlowIndicator_of_isAlphanum : ¬isFlowIndicator c := by
  intro indicator
  simp only [isFlowIndicator, Bool.or_eq_true, decide_eq_true_eq] at indicator
  rcases indicator with (((rfl | rfl) | rfl) | rfl) | rfl <;> contradiction

theorem ne_of_isAlphanum {other : Char} (isOther : other.isAlphanum = false) : c ≠ other := by
  rintro rfl
  rw [isOther] at letter
  contradiction

end Characters

/-! ## Plain scalars -/

section Plain

variable {fuel : Nat} {c : Cursor} {gap : Gap} {acc rest : List Char} {d : Char}

theorem plain_blank (restEq : c.rest = d :: rest) (blank : isBlank d) :
    plain true 0 (fuel + 1) c gap acc = plain true 0 fuel c.next (gap.addBlank d) acc := by
  have noTabFault : ¬(d = '\t' ∧ gap.isBroken ∧ (c.column : Int) < 0) := by omega
  rw [plain]
  simp only [restEq, if_pos blank, if_neg noTabFault]

theorem plain_break (restEq : c.rest = d :: rest) (ends : isBreak d) :
    plain true 0 (fuel + 1) c gap acc =
      plain true 0 fuel c.takeBreak.2 (gap.addBreak c.takeBreak.1) acc := by
  rw [plain]
  simp only [restEq, if_neg (not_isBlank_of_isBreak ends), if_pos ends]

theorem plain_end (restEq : c.rest = d :: rest) (ends : EndsItem d) :
    plain true 0 (fuel + 1) c gap acc = .ok (acc.reverse, c, gap.isBroken) := by
  have noMark : c.atDocumentMark = false := by
    rw [Bool.eq_false_iff]
    apply not_atDocumentMark restEq
    · rcases ends with rfl | rfl | rfl <;> decide
    · rcases ends with rfl | rfl | rfl <;> decide
  rw [plain]
  rcases ends with rfl | rfl | rfl
  all_goals simp [restEq, isBlank, isBreak, noMark, isFlowIndicator]

theorem plain_char (restEq : c.rest = d :: rest) (word : d.isAlphanum ∨ d = '-')
    (noMark : ¬c.atDocumentMark) :
    plain true 0 (fuel + 1) c gap acc =
      plain true 0 fuel c.next .none (d :: (gap.folded ++ acc)) := by
  have solid : isBlank d = false ∧ isBreak d = false ∧ isFlowIndicator d = false ∧
      d ≠ '#' ∧ d ≠ ':' := by
    rcases word with letter | rfl
    · simp [not_isBlank_of_isAlphanum letter, not_isBreak_of_isAlphanum letter,
        not_isFlowIndicator_of_isAlphanum letter, ne_of_isAlphanum letter]
    · decide
  rcases solid with ⟨notBlank, notBreak, noSign, noComment, noColon⟩
  rw [plain]
  simp [restEq, notBlank, notBreak, noSign, noComment, noColon, noMark]

/-- A blank of JSON is one of YAML, or ends a line. -/
theorem isBlank_or_isBreak {c : Char} (blank : Json.isBlank c) : isBlank c ∨ isBreak c := by
  simp only [Json.isBlank, Bool.or_eq_true, decide_eq_true_eq] at blank
  rcases blank with ((rfl | rfl) | rfl) | rfl <;> decide

/-- The gap after a word is passed over with it. -/
theorem plain_gap (gap : Gap) (acc : List Char) {chars : List Char}
    (blanks : ∀ e ∈ chars, Json.isBlank e) (restEq : c.rest = chars ++ d :: rest)
    (ends : EndsItem d) (enough : chars.length < fuel) :
    ∃ c' broken, plain true 0 fuel c gap acc = .ok (acc.reverse, c', broken) ∧
      c'.rest = d :: rest := by
  induction fuel generalizing c gap chars with
  | zero => contradiction
  | succ fuel ih =>
      rcases chars with _ | ⟨e, chars⟩
      · exact ⟨c, gap.isBroken, plain_end restEq ends, restEq⟩
      · have atBlank : c.rest = e :: (chars ++ d :: rest) := restEq
        rcases List.forall_mem_cons.mp blanks with ⟨jsonBlank, later⟩
        by_cases blank : isBlank e
        · rw [plain_blank atBlank blank]
          exact ih (gap.addBlank e) later (by rw [Cursor.next_of_cons atBlank])
            (Nat.lt_of_succ_lt_succ enough)
        · have isBreak_e : isBreak e := (isBlank_or_isBreak jsonBlank).resolve_left blank
          rcases Cursor.Passed.takeBreak atBlank isBreak_e with
            ⟨breaks, notEmpty, isBreaks, passed⟩
          have noBreak : ∀ f more, d :: rest = f :: more → isBreak f = false := by
            intro f more equal
            cases equal
            rcases ends with rfl | rfl | rfl <;> decide
          rcases Lexer.exists_append_of_breaks (e :: chars) (d :: rest)
            (restEq.symm.trans passed.rest) isBreaks noBreak with ⟨later, charsEq, laterRest⟩
          have shorter := List.length_pos_iff.mpr notEmpty
          have lengths := congrArg List.length charsEq
          rw [List.length_append] at lengths
          have laterBlanks : ∀ f ∈ later, Json.isBlank f := by
            intro f member
            apply blanks
            rw [charsEq]
            exact List.mem_append_right breaks member
          rw [plain_break atBlank isBreak_e]
          exact ih (gap.addBreak c.takeBreak.1) laterBlanks laterRest (by omega)

/-- The rest of a word is taken up with the gap after it. -/
theorem plain_tail (acc : List Char) {tail chars : List Char} (letters : ∀ e ∈ tail, e.isAlphanum)
    (blanks : ∀ e ∈ chars, Json.isBlank e) (restEq : c.rest = tail ++ (chars ++ d :: rest))
    (ends : EndsItem d) (inside : c.column ≠ 0) (enough : tail.length + chars.length < fuel) :
    ∃ c' broken, plain true 0 fuel c .none acc = .ok (acc.reverse ++ tail, c', broken) ∧
      c'.rest = d :: rest := by
  induction tail generalizing fuel c acc with
  | nil =>
      rcases plain_gap .none acc blanks restEq ends
        (by simpa using enough) with ⟨c', broken, read, atEnd⟩
      exact ⟨c', broken, by rw [read, List.append_nil], atEnd⟩
  | cons e tail ih =>
      have atLetter : c.rest = e :: (tail ++ (chars ++ d :: rest)) := restEq
      have noMark : ¬c.atDocumentMark := by
        rw [atDocumentMark_eq, decide_eq_false inside]
        exact Bool.false_ne_true
      rw [List.forall_mem_cons] at letters
      rw [List.length_cons] at enough
      rcases fuel with _ | fuel
      · contradiction
      · rw [plain_char atLetter (.inl letters.1) noMark]
        have nextEq := Cursor.next_of_cons atLetter
        rcases ih (c := c.next) (e :: acc) letters.2 (by rw [nextEq])
          (by rw [nextEq]; exact Nat.succ_ne_zero _) (show _ < fuel by omega) with
          ⟨c', broken, read, atEnd⟩
        refine ⟨c', broken, ?_, atEnd⟩
        rw [show Gap.none.folded ++ acc = acc from rfl, read, List.reverse_cons,
          List.append_assoc, List.singleton_append]

/-- A word is taken up whole. -/
theorem plain_word (fuel : Nat) {word chars : List Char} (isWord : IsWord word)
    (blanks : ∀ e ∈ chars, Json.isBlank e) (restEq : c.rest = word ++ (chars ++ d :: rest))
    (ends : EndsItem d) (enough : word.length + chars.length < fuel) :
    ∃ c' broken, plain true 0 fuel c .none [] = .ok (word, c', broken) ∧
      c'.rest = d :: rest := by
  rcases fuel with _ | fuel
  · contradiction
  -- the first character may stand at the start of a line
  have onward {e : Char} {tail : List Char} (wordEq : word = e :: tail)
      (starts : e.isAlphanum ∨ e = '-') (letters : ∀ f ∈ tail, f.isAlphanum)
      (noMark : ¬c.atDocumentMark) :
      ∃ c' broken, plain true 0 (fuel + 1) c .none [] = .ok (word, c', broken) ∧
        c'.rest = d :: rest := by
    subst wordEq
    have atFirst : c.rest = e :: (tail ++ (chars ++ d :: rest)) := restEq
    have nextEq := Cursor.next_of_cons atFirst
    rw [List.length_cons] at enough
    rw [plain_char atFirst starts noMark]
    exact plain_tail [e] letters blanks (by rw [nextEq]) ends
      (by rw [nextEq]; exact Nat.succ_ne_zero _) (by omega)
  cases isWord with
  | @unsigned e tail first others =>
      apply onward rfl (.inl first) others
      exact not_atDocumentMark restEq (ne_of_isAlphanum first rfl) (ne_of_isAlphanum first rfl)
  | @signed e tail first others =>
      apply onward rfl (.inr rfl) (List.forall_mem_cons.mpr ⟨first, others⟩)
      have unlike : '-' ≠ e := (ne_of_isAlphanum first rfl).symm
      rw [Cursor.atDocumentMark, not_atTriple_of_unlike restEq unlike,
        not_atTriple_of_unlike restEq unlike, Bool.or_false, Bool.and_false]
      exact Bool.false_ne_true

end Plain

end PolicyScan.Yaml
