import PolicyScan.Proofs.JsonInYaml.Tokens
import PolicyScan.Proofs.Yaml.Progress

/-!
# The tokens of a JSON object with the gaps around it

Outside of all collections tabs are no gap at the start of a line.  So a text of
JSON has tokens only if no tab stands in front of its object, nor behind it after
the end of a line.
-/

namespace PolicyScan.Json

open Yaml (Token Lexer)
open Yaml.Lexer (Emits Faults Reaches Calm EndsGap)

/-- The text up to its first tab, and what comes from there on. -/
def fromTab (s : List Char) : List Char := s.dropWhile (· ≠ '\t')

/-- Tabs around an object stand only behind it on the same line. -/
def IsTabbed (before after : Gap) : Prop :=
  '\t' ∈ before.chars ∨ '\t' ∈ after.chars.dropWhile Yaml.isBlank

instance (before after : Gap) : Decidable (IsTabbed before after) :=
  inferInstanceAs (Decidable (_ ∨ _))

theorem fromTab_eq_nil_iff {s : List Char} : fromTab s = [] ↔ '\t' ∉ s := by
  rw [fromTab, List.dropWhile_eq_nil_iff]
  constructor
  · intro others tab
    simpa using others '\t' tab
  · intro noTab c member
    rw [decide_eq_true_iff]
    rintro rfl
    exact noTab member

theorem fromTab_eq_cons {s : List Char} (tab : '\t' ∈ s) :
    ∃ rest, fromTab s = '\t' :: rest := by
  rcases fromEq : fromTab s with _ | ⟨c, rest⟩
  · exact absurd tab (fromTab_eq_nil_iff.mp fromEq)
  · have stopped := List.head?_dropWhile_not (· ≠ '\t') s
    rw [show s.dropWhile (· ≠ '\t') = c :: rest from fromEq] at stopped
    rw [show c = '\t' by simpa using stopped]
    exact ⟨rest, rfl⟩

theorem fromTab_append_of_not_mem {s : List Char} (noTab : '\t' ∉ s) (rest : List Char) :
    fromTab (s ++ rest) = fromTab rest := by
  apply List.dropWhile_append_of_pos
  intro c member
  rw [decide_eq_true_iff]
  rintro rfl
  exact noTab member

/-- Where a tab is met reading stops. -/
theorem fromTab_cases (s : List Char) : fromTab s = [] ∨ ∃ rest, fromTab s = '\t' :: rest := by
  by_cases tab : '\t' ∈ s
  · exact .inr (fromTab_eq_cons tab)
  · exact .inl (fromTab_eq_nil_iff.mpr tab)

section Outside

variable {s : Lexer} {chars rest : List Char}

/-- Outside of collections the lexer passes over a gap up to its first tab. -/
theorem skipGap_outside {fuel : Nat} (outside : s.outer = []) (allowed : s.keyAllowed = true)
    (blanks : ∀ c ∈ chars, isBlank c) (restEq : s.cursor.rest = chars ++ rest)
    (ends : EndsGap false rest) (enough : chars.length < fuel) :
    ∃ c, Lexer.skipGap fuel s = s.goTo c ∧ c.rest = fromTab chars ++ rest := by
  have notInFlow : s.inFlow = false := by rw [Lexer.inFlow, outside]; rfl
  have charsEq : chars.takeWhile (· ≠ '\t') ++ fromTab chars = chars :=
    List.takeWhile_append_dropWhile
  have shorter := (List.takeWhile_prefix (p := (· ≠ '\t')) (l := chars)).length_le
  have textEq : s.cursor.rest = chars.takeWhile (· ≠ '\t') ++ (fromTab chars ++ rest) := by
    rw [← List.append_assoc, charsEq, restEq]
  have isGap : ∀ c ∈ chars.takeWhile (· ≠ '\t'),
      Lexer.isGapBlank false c ∨ Yaml.isBreak c := by
    intro c member
    have blank := blanks c ((List.takeWhile_prefix _).subset member)
    have noTab : c ≠ '\t' := by simpa using List.mem_takeWhile_imp member
    simp only [isBlank, Bool.or_eq_true, decide_eq_true_eq] at blank
    rcases blank with ((rfl | rfl) | rfl) | rfl
    · exact .inl rfl
    · exact .inr rfl
    · contradiction
    · exact .inr rfl
  have stops : EndsGap false (fromTab chars ++ rest) := by
    rcases fromTab_cases chars with fromEq | ⟨later, fromEq⟩
    · rw [fromEq]
      exact ends
    · rw [fromEq]
      intro c more equal
      cases equal
      exact ⟨rfl, rfl, by decide, by decide⟩
  rcases Lexer.skipGap_append fuel (.inr ⟨notInFlow, allowed, rfl⟩) textEq isGap stops
    (Nat.lt_of_le_of_lt shorter enough) with
    ⟨c, skipped, atRest, -⟩
  exact ⟨c, skipped, atRest⟩

/-- Behind a collection the lexer passes over blanks, and over a gap from the
next line on up to its first tab. -/
theorem skipGap_closed (outside : s.outer = []) (forbidden : s.keyAllowed = false)
    (blanks : ∀ c ∈ s.cursor.rest, isBlank c) :
    ∃ c allowed, Lexer.skipGap (s.cursor.rest.length + 1) s =
        { s with cursor := c, keyAllowed := allowed } ∧
      c.rest = fromTab (s.cursor.rest.dropWhile Yaml.isBlank) := by
  have notInFlow : s.inFlow = false := by rw [Lexer.inFlow, outside]; rfl
  have tabs : (s.inFlow || !s.keyAllowed) = true := by rw [notInFlow, forbidden]; rfl
  have textEq : s.cursor.rest =
      s.cursor.rest.takeWhile Yaml.isBlank ++ s.cursor.rest.dropWhile Yaml.isBlank :=
    List.takeWhile_append_dropWhile.symm
  have stopped := List.head?_dropWhile_not Yaml.isBlank s.cursor.rest
  have suffix := List.dropWhile_suffix (l := s.cursor.rest) Yaml.isBlank
  have breaks : ∀ d more, s.cursor.rest.dropWhile Yaml.isBlank = d :: more → Yaml.isBreak d := by
    intro d more leftEq
    rw [leftEq] at stopped suffix
    have blank := blanks d (suffix.subset List.mem_cons_self)
    have solid : Yaml.isBlank d = false := stopped
    exact (Yaml.isBlank_or_isBreak blank).resolve_left (Bool.eq_false_iff.mp solid)
  have stops : ∀ d more, s.cursor.rest.dropWhile Yaml.isBlank = d :: more →
      Lexer.isGapBlank true d = false ∧ d ≠ '#' ∧ d ≠ '\ufeff' :=
    fun d more leftEq => Lexer.stops_of_isBreak (breaks d more leftEq)
  have isBlanks : ∀ d ∈ s.cursor.rest.takeWhile Yaml.isBlank, Lexer.isGapBlank true d :=
    fun d member => List.mem_takeWhile_imp (p := Yaml.isBlank) member
  rcases Lexer.passGap_append textEq isBlanks stops with ⟨atLeft, -⟩
  rw [Lexer.skipGap, tabs]
  rcases leftEq : s.cursor.rest.dropWhile Yaml.isBlank with _ | ⟨d, more⟩
  · rw [leftEq] at atLeft
    simp only [atLeft]
    exact ⟨_, s.keyAllowed, rfl, atLeft⟩
  · have ends := breaks d more leftEq
    rw [leftEq] at atLeft suffix
    rcases Yaml.Cursor.Passed.takeBreak atLeft ends with ⟨newline, notEmpty, isBreaks, passed⟩
    have nothing : ∀ c rest, [] = c :: rest → Yaml.isBreak c = false := fun c rest equal => by
      contradiction
    rcases Lexer.exists_append_of_breaks (d :: more) []
      ((List.append_nil _).trans (atLeft.symm.trans passed.rest)) isBreaks nothing with
      ⟨later, moreEq, laterRest⟩
    have noTab : '\t' ∉ newline := by
      intro tab
      have ends := isBreaks '\t' tab
      contradiction
    have laterBlanks : ∀ c ∈ later, isBlank c := by
      intro c member
      apply blanks c
      apply suffix.subset
      rw [moreEq]
      exact List.mem_append_right newline member
    have shorter : later.length < s.cursor.rest.length := by
      have lengths := congrArg List.length moreEq
      have positive := List.length_pos_iff.mpr notEmpty
      have le := suffix.length_le
      rw [List.length_append] at lengths
      omega
    rcases skipGap_outside
      (s := (s.goTo (Lexer.passGap true s.cursor).takeBreak.2).allowKey true) outside rfl
      laterBlanks laterRest (fun c rest equal => by contradiction) shorter with
      ⟨c, skipped, atRest⟩
    have stays : (s.goTo (Lexer.passGap true s.cursor).takeBreak.2).inFlow = false := notInFlow
    refine ⟨c, true, ?_, ?_⟩
    · simp only [atLeft, ends, if_true, stays, Bool.false_eq_true, if_false, skipped]
      rfl
    · rw [atRest, List.append_nil, moreEq, fromTab_append_of_not_mem noTab]

/-- A text that ends with a gap behind a collection. -/
theorem run_closed (fuel : Nat) (calm : s.Calm) (outside : s.outer = [])
    (forbidden : s.keyAllowed = false) (blanks : ∀ c ∈ s.cursor.rest, isBlank c) :
    if '\t' ∈ s.cursor.rest.dropWhile Yaml.isBlank then
      ∃ fault, Lexer.run (fuel + 1) s = .error fault
    else ∃ s', Lexer.run (fuel + 1) s = .ok s' ∧ s'.tokens = s.tokens := by
  rcases skipGap_closed outside forbidden blanks with ⟨c, allowed, skipped, atRest⟩
  have calmThen : ({ s with cursor := c, keyAllowed := allowed } : Lexer).Calm :=
    ⟨calm.indent, calm.indents, calm.candidate, calm.outer⟩
  by_cases tab : '\t' ∈ s.cursor.rest.dropWhile Yaml.isBlank
  · rw [if_pos tab]
    rcases fromTab_eq_cons tab with ⟨rest, fromEq⟩
    rw [fromEq] at atRest
    refine ⟨.strayCharacter, ?_⟩
    rw [Lexer.run_of_skipGap skipped calmThen atRest, Lexer.token_tab atRest]
    rfl
  · rw [if_neg tab]
    rw [fromTab_eq_nil_iff.mpr tab] at atRest
    refine ⟨Lexer.allowKey false { s with cursor := c, keyAllowed := allowed, candidate := none },
      ?_, rfl⟩
    rw [Lexer.run_eq_finish (by rw [skipped]; exact atRest), skipped, Lexer.finish,
      Lexer.leaveBlocks, calmThen.closeBlocks, calmThen.dropCandidate]
    rfl

end Outside

/-! ## The whole text -/

/-- The outcome is the given one, or a fault where none is given. -/
def Gives {α : Type} (result : Except Yaml.Fault α) : Option α → Prop
  | some x => result = .ok x
  | none => ∃ fault, result = .error fault

theorem exists_fault_of_faults {text : List Char} (allowed : ∀ c ∈ text, Yaml.isAllowed c)
    (faults : (Lexer.start text).Faults) : ∃ fault, Yaml.tokens text = .error fault := by
  rcases faults with ⟨n, fault, le, ran⟩
  have failed := ran (text.length + 1 - n)
  rw [Nat.sub_add_cancel (show n ≤ text.length + 1 from le)] at failed
  refine ⟨fault, ?_⟩
  rw [Yaml.tokens_of_allowed allowed, failed]
  rfl

/-- The tokens of a text that is a collection with a gap behind it. -/
theorem tokens_of_emits {text : List Char} (allowed : ∀ c ∈ text, Yaml.isAllowed c)
    {ts : List Token} {s : Lexer} (emits : Emits ts (Lexer.start text) s)
    (forbidden : s.keyAllowed = false) (blanks : ∀ c ∈ s.cursor.rest, isBlank c) :
    Gives (Yaml.tokens text)
      (if '\t' ∈ s.cursor.rest.dropWhile Yaml.isBlank then none else some ts) := by
  rcases emits.reaches with ⟨n, le, ran⟩
  have enough : n ≤ text.length := Nat.le_trans (Nat.le_add_right _ _) le
  have onward := ran (text.length - n + 1)
  rw [Nat.add_right_comm, Nat.sub_add_cancel enough] at onward
  have closed := run_closed (text.length - n) emits.calm emits.outer forbidden blanks
  rw [Yaml.tokens_of_allowed allowed, onward]
  by_cases tab : '\t' ∈ s.cursor.rest.dropWhile Yaml.isBlank
  · rw [if_pos tab] at closed ⊢
    rcases closed with ⟨fault, failed⟩
    exact ⟨fault, by rw [failed]; rfl⟩
  · rw [if_neg tab] at closed ⊢
    rcases closed with ⟨s', finished, tokensEq⟩
    rw [finished]
    refine congrArg Except.ok ?_
    change s'.tokens.reverse = ts
    rw [tokensEq, emits.tokens, List.reverse_append, List.reverse_reverse]
    rfl

/-- The tokens of a text that holds an object and gaps. -/
theorem tokens_object {before inner after : Gap} {fields : Fields} (ints : fields.AllInts)
    {text : List Char}
    (textEq : text = before.chars ++ ((Tree.obj inner fields).chars ++ after.chars)) :
    Gives (Yaml.tokens text)
      (if (∀ c ∈ text, Yaml.isAllowed c) ∧ ¬IsTabbed before after then
        (Tree.obj inner fields).tokens? else none) := by
  by_cases allowed : ∀ c ∈ text, Yaml.isAllowed c
  · have calm : (Lexer.start text).Calm := ⟨rfl, rfl, rfl, by simp [Lexer.start]⟩
    have startEq : (Lexer.start text).cursor.rest = before.chars ++ ('\x7b' :: (inner.chars ++
        (fields.chars true ++ '\x7d' :: after.chars))) := by
      rw [Lexer.start, textEq, Tree.chars]
      simp only [List.append_assoc, List.cons_append, List.nil_append]
    have brace : EndsGap false ('\x7b' :: (inner.chars ++
        (fields.chars true ++ '\x7d' :: after.chars))) := by
      intro c more equal
      cases equal
      exact ⟨rfl, rfl, by decide, by decide⟩
    have enough : before.chars.length < (Lexer.start text).cursor.rest.length + 1 := by
      rw [startEq, List.length_append]
      omega
    rcases skipGap_outside rfl rfl before.isBlank_of_mem startEq brace enough with
      ⟨c, skipped, atObject⟩
    by_cases tabBefore : '\t' ∈ before.chars
    · rw [if_neg fun both => both.2 (.inl tabBefore)]
      rcases fromTab_eq_cons tabBefore with ⟨rest, fromEq⟩
      rw [fromEq] at atObject
      have atTab : ((Lexer.start text).goTo c).cursor.rest = '\t' :: _ := atObject
      have ran := Lexer.run_of_skipGap skipped (calm.goTo c) atTab text.length
      rw [Lexer.token_tab atTab] at ran
      refine ⟨.strayCharacter, ?_⟩
      rw [Yaml.tokens_of_allowed allowed, ran]
      rfl
    · rw [fromTab_eq_nil_iff.mpr tabBefore] at atObject
      have arrives : (Lexer.start text).ArrivesAt c := by
        refine ⟨skipped, ?_⟩
        rw [atObject, startEq, List.nil_append, List.length_append]
        exact Nat.le_add_left _ _
      have lexed : LexesCollection (Lexer.start text) .flowMappingStart .flowMappingEnd
          (fields.tokens? true) after.chars := by
        apply lexes_collection arrives calm atObject Lexer.token_open_brace Lexer.token_close_brace
          (endsGap_cons rfl rfl (by decide) (by decide))
        intro s' calm' inFlow' keyAllowed atInside
        exact fields.lexes ints true calm' inFlow' (fun _ => keyAllowed) atInside
      rw [Tree.tokens?]
      cases tsEq : fields.tokens? true with
      | none =>
          rw [tsEq] at lexed
          rw [Option.map_none, ite_self]
          exact exists_fault_of_faults allowed lexed
      | some ts =>
          rw [tsEq] at lexed
          rcases lexed with ⟨s', emits, keyForbidden, atAfter⟩
          have gives := tokens_of_emits allowed emits keyForbidden
            (atAfter ▸ after.isBlank_of_mem)
          rw [atAfter] at gives
          by_cases tabAfter : '\t' ∈ after.chars.dropWhile Yaml.isBlank
          · rw [if_pos tabAfter] at gives
            rw [if_neg fun both => both.2 (.inr tabAfter)]
            exact gives
          · rw [if_neg tabAfter] at gives
            rw [if_pos ⟨allowed, not_or.mpr ⟨tabBefore, tabAfter⟩⟩]
            exact gives
  · rw [if_neg fun both => allowed both.1]
    exact ⟨_, Yaml.tokens_of_not_allowed allowed⟩

end PolicyScan.Json
