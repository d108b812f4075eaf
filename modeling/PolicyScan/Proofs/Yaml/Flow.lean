import PolicyScan.Proofs.Outcome
import PolicyScan.Proofs.Yaml.Gaps
import PolicyScan.Proofs.Yaml.Words

/-!
# Tokens inside of flow collections

What the lexer does from one token to the next while it is outside of all block
collections: every sign of a flow collection, every string and every plain word
gives its tokens and leaves the lexer calm.  Runs are chained by `Reaches`, which
keeps account of the fuel by the length of the text.
-/

namespace PolicyScan.Yaml

namespace Lexer

variable {s s' s'' : Lexer}

/-! ## Runs -/

/-- The lexer comes from one state to another, whatever fuel is left then. -/
def Reaches (s s' : Lexer) : Prop :=
  ∃ n, n + s'.cursor.rest.length ≤ s.cursor.rest.length ∧
    ∀ fuel, run (fuel + n) s = run fuel s'

/-- The lexer finds a fault. -/
def Faults (s : Lexer) : Prop :=
  ∃ n fault, n ≤ s.cursor.rest.length + 1 ∧ ∀ fuel, run (fuel + n) s = .error fault

theorem Reaches.refl (s : Lexer) : Reaches s s := ⟨0, by omega, fun _ => rfl⟩

theorem Reaches.trans (first : Reaches s s') (second : Reaches s' s'') : Reaches s s'' := by
  rcases first with ⟨n, nLe, firstRun⟩
  rcases second with ⟨m, mLe, secondRun⟩
  refine ⟨m + n, by omega, fun fuel => ?_⟩
  rw [← Nat.add_assoc, firstRun, secondRun]

theorem Reaches.faults (first : Reaches s s') (second : Faults s') : Faults s := by
  rcases first with ⟨n, nLe, firstRun⟩
  rcases second with ⟨m, fault, mLe, secondRun⟩
  refine ⟨m + n, fault, by omega, fun fuel => ?_⟩
  rw [← Nat.add_assoc, firstRun, secondRun]

/-! ## States -/

/-- Nothing asks for a colon. -/
def IsFree (candidate : Option Candidate) : Prop := candidate.any (·.required) = false

/-- The lexer is outside of all block collections, and no candidate is a
required one. -/
structure Calm (s : Lexer) : Prop where
  indent : s.indent = -1
  indents : s.indents = []
  candidate : IsFree s.candidate
  outer : ∀ candidate ∈ s.outer, IsFree candidate

theorem Calm.goTo (calm : s.Calm) (c : Cursor) : (s.goTo c).Calm := ⟨calm.1, calm.2, calm.3, calm.4⟩

theorem Calm.closeBlocks (calm : s.Calm) (column : Int) : s.closeBlocks column = s := by
  rw [Lexer.closeBlocks, calm.indents]
  split <;> rfl

theorem Calm.dropCandidate (calm : s.Calm) :
    s.dropCandidate = .ok { s with candidate := none } := by
  rw [Lexer.dropCandidate, calm.candidate]
  rfl

/-- The candidate after one may have been saved at the place of the lexer. -/
def savedCandidate (s : Lexer) : Option Candidate :=
  if s.keyAllowed then
    some ⟨false, s.count, s.cursor.index, s.cursor.line, s.cursor.column⟩
  else s.candidate

theorem Calm.saveCandidate (calm : s.Calm) :
    s.saveCandidate = .ok { s with candidate := s.savedCandidate } := by
  have notRequired : (!s.inFlow && decide (s.indent = s.cursor.column)) = false := by
    have apart : s.indent ≠ s.cursor.column := by
      rw [calm.indent]
      omega
    rw [decide_eq_false apart, Bool.and_false]
  rw [Lexer.saveCandidate, savedCandidate]
  by_cases allowed : s.keyAllowed
  · rw [if_pos allowed, if_pos allowed, calm.dropCandidate]
    simp only [notRequired]
    rfl
  · rw [if_neg allowed, if_neg allowed]

theorem Calm.isFree_savedCandidate (calm : s.Calm) : IsFree s.savedCandidate := by
  rw [savedCandidate]
  split
  · rfl
  · exact calm.candidate

/-- Behind a gap the lexer comes to stand at a place. -/
structure ArrivesAt (s : Lexer) (c : Cursor) : Prop where
  skip : skipGap (s.cursor.rest.length + 1) s = s.goTo c
  le : c.rest.length ≤ s.cursor.rest.length

section Tokens

variable {c : Cursor} {d : Char} {rest : List Char}

theorem inFlow_goTo (inFlow : s.outer ≠ []) (c : Cursor) : (s.goTo c).inFlow = true := by
  simpa [goTo, Lexer.inFlow] using inFlow

theorem run_of_skipGap (skipped : skipGap (s.cursor.rest.length + 1) s = s') (calm : s'.Calm)
    (atToken : s'.cursor.rest = d :: rest) (fuel : Nat) :
    run (fuel + 1) s = (s'.token d rest).bind (run fuel) := by
  rw [run, skipped]
  simp only [atToken, calm.closeBlocks]
  rfl

theorem ArrivesAt.run (arrives : s.ArrivesAt c) (calm : s.Calm) (restEq : c.rest = d :: rest)
    (fuel : Nat) :
    Lexer.run (fuel + 1) s = ((s.goTo c).token d rest).bind (Lexer.run fuel) :=
  run_of_skipGap arrives.skip (calm.goTo c) restEq fuel

/-- A token is a step of a run. -/
theorem ArrivesAt.reaches (arrives : s.ArrivesAt c) (calm : s.Calm) (restEq : c.rest = d :: rest)
    (done : (s.goTo c).token d rest = .ok s') (shorter : s'.cursor.rest.length ≤ rest.length) :
    Reaches s s' := by
  have le := arrives.le
  rw [restEq, List.length_cons] at le
  refine ⟨1, by omega, fun fuel => ?_⟩
  rw [arrives.run calm restEq, done]
  rfl

theorem ArrivesAt.faults {fault : Fault} (arrives : s.ArrivesAt c) (calm : s.Calm)
    (restEq : c.rest = d :: rest) (failed : (s.goTo c).token d rest = .error fault) :
    Faults s := by
  refine ⟨1, fault, by omega, fun fuel => ?_⟩
  rw [arrives.run calm restEq, failed]
  rfl

/-! ## Signs -/

theorem not_atTriple {mark : Char} (restEq : c.rest = d :: rest) (other : d ≠ mark) :
    c.atTriple mark = false := by
  unfold Cursor.atTriple
  split
  · rename_i equal
    rw [restEq] at equal
    cases equal
    simp [other]
  · rfl

theorem token_open_bracket (atToken : s.cursor.rest = '[' :: rest) :
    s.token '[' rest = s.openFlow .flowSequenceStart := by
  simp [token, not_atTriple atToken]

theorem token_open_brace (atToken : s.cursor.rest = '\x7b' :: rest) :
    s.token '\x7b' rest = s.openFlow .flowMappingStart := by
  simp [token, not_atTriple atToken]

theorem token_close_bracket (atToken : s.cursor.rest = ']' :: rest) :
    s.token ']' rest = s.closeFlow .flowSequenceEnd := by
  simp [token, not_atTriple atToken]

theorem token_close_brace (atToken : s.cursor.rest = '\x7d' :: rest) :
    s.token '\x7d' rest = s.closeFlow .flowMappingEnd := by
  simp [token, not_atTriple atToken]

theorem token_comma (atToken : s.cursor.rest = ',' :: rest) : s.token ',' rest = s.flowEntry := by
  simp [token, not_atTriple atToken]

theorem token_colon (atToken : s.cursor.rest = ':' :: rest) (inFlow : s.inFlow) :
    s.token ':' rest = s.valueMark := by
  simp [token, not_atTriple atToken, inFlow]

theorem token_quote (atToken : s.cursor.rest = '"' :: rest) : s.token '"' rest = s.quote false := by
  simp [token, not_atTriple atToken]

theorem token_tab (atToken : s.cursor.rest = '\t' :: rest) :
    s.token '\t' rest = .error .strayCharacter := by
  simp [token, not_atTriple atToken, isBlank, isIndicator]

/-- What starts a word starts no other token. -/
theorem token_word {word more : List Char} (isWord : IsWord word)
    (wordEq : d :: rest = word ++ more) (atToken : s.cursor.rest = d :: rest) :
    s.token d rest = s.word := by
  cases isWord with
  | @unsigned e tail first others =>
      cases wordEq
      have noIndicator := not_isIndicator_of_isAlphanum first
      have notBlank := not_isBlank_of_isAlphanum first
      have unlike : ∀ e : Char, e.isAlphanum = false → d ≠ e := fun e => ne_of_isAlphanum first
      have noDashes := not_atTriple atToken (unlike '-' rfl)
      have noDots := not_atTriple atToken (unlike '.' rfl)
      simp (disch := decide) [token, noDashes, noDots, unlike, noIndicator, notBlank]
  | @signed e tail first others =>
      cases wordEq
      have notBlank := not_isBlank_of_isAlphanum first
      have notBreak := not_isBreak_of_isAlphanum first
      have unlike : '-' ≠ e := (ne_of_isAlphanum first rfl).symm
      have noMark : s.cursor.atTriple '-' = false := not_atTriple_of_unlike atToken unlike '-'
      simp [token, not_atTriple atToken, noMark, atGap, notBlank, notBreak]

/-! ## What the signs do -/

/-- A run gives tokens and ends in the same collection. -/
structure Emits (ts : List Token) (s s' : Lexer) : Prop where
  reaches : Reaches s s'
  calm : s'.Calm
  outer : s'.outer = s.outer
  tokens : s'.tokens = ts.reverse ++ s.tokens

theorem Emits.trans {ts us : List Token} (first : Emits ts s s') (second : Emits us s' s'') :
    Emits (ts ++ us) s s'' where
  reaches := first.reaches.trans second.reaches
  calm := second.calm
  outer := second.outer.trans first.outer
  tokens := by rw [second.tokens, first.tokens, List.reverse_append, List.append_assoc]

theorem Calm.openFlow (calm : s.Calm) (t : Token) :
    s.openFlow t =
      .ok ({ s with
        candidate := none
        outer := s.savedCandidate :: s.outer
        keyAllowed := true }.take 1 t) := by
  rw [Lexer.openFlow, calm.saveCandidate]
  rfl

theorem Calm.closeFlow {candidate : Option Candidate} {outer : List (Option Candidate)}
    (calm : s.Calm) (outerEq : s.outer = candidate :: outer) (t : Token) :
    s.closeFlow t = .ok (({ s with candidate, outer }.allowKey false).take 1 t) := by
  rw [Lexer.closeFlow, calm.dropCandidate]
  simp only [bind, Except.bind, outerEq]
  rfl

theorem Calm.flowEntry (calm : s.Calm) :
    s.flowEntry = .ok (({ s with candidate := none }.allowKey true).take 1 .flowEntry) := by
  rw [Lexer.flowEntry, calm.dropCandidate]
  rfl

theorem Calm.quote (calm : s.Calm) :
    s.quote false =
      (quoted false (s.cursor.next.rest.length + 1) s.cursor.next .none []).map fun read =>
        (({ s with candidate := s.savedCandidate }.allowKey false).goTo read.2).push
          (.scalar false read.1) := by
  rw [Lexer.quote, calm.saveCandidate]
  simp only [bind, Except.bind]
  cases quoted false (s.cursor.next.rest.length + 1) s.cursor.next .none [] <;> rfl

theorem Calm.word (calm : s.Calm) (inFlow : s.inFlow = true) :
    s.word =
      (plain true 0 (s.cursor.rest.length + 1) s.cursor .none []).map fun read =>
        (({ s with candidate := s.savedCandidate }.allowKey read.2.2).goTo read.2.1).push
          (.scalar true read.1) := by
  have outmost : s.indent + 1 = 0 := by
    rw [calm.indent]
    rfl
  have inFlowHere : ({ s with candidate := s.savedCandidate } : Lexer).inFlow = true := inFlow
  rw [Lexer.word, calm.saveCandidate]
  simp only [bind, Except.bind, inFlowHere, outmost]
  cases plain true 0 (s.cursor.rest.length + 1) s.cursor .none [] <;> rfl

theorem openBlock_of_inFlow (inFlow : s.inFlow = true) (column place : Nat) (t : Token) :
    s.openBlock column place t = s := by
  rw [openBlock, inFlow]
  rfl

/-- A candidate that is too far away, or on another line, is no key. -/
theorem Calm.liveCandidate? {k : Candidate} (calm : s.Calm) (candidateEq : s.candidate = some k) :
    s.liveCandidate? =
      .ok (if k.line < s.cursor.line ∨ k.index + keyLimit < s.cursor.index then none
        else some k) := by
  have notRequired : k.required = false := by
    have free := calm.candidate
    rw [candidateEq] at free
    exact free
  rw [Lexer.liveCandidate?, candidateEq]
  simp only [notRequired]
  split <;> rfl

theorem insertAt_of_tokens {t u : Token} {tokens : List Token} {place : Nat}
    (tokensEq : s.tokens = t :: tokens) (countEq : s.count = place + 1) :
    s.insertAt place u = { s with tokens := t :: u :: tokens, count := s.count + 1 } := by
  rw [insertAt, tokensEq, countEq, Nat.add_sub_cancel_left, List.splitAt_eq]
  rfl

theorem forward_one_rest (restEq : c.rest = d :: rest) : (c.forward 1).rest = rest := by
  rw [Cursor.forward_rest, restEq]
  rfl

/-- The start of a collection. -/
theorem ArrivesAt.opens {t : Token} (arrives : s.ArrivesAt c) (calm : s.Calm)
    (restEq : c.rest = d :: rest)
    (isStart : (s.goTo c).token d rest = (s.goTo c).openFlow t) :
    ∃ s', Reaches s s' ∧ s'.Calm ∧ (∃ candidate, s'.outer = candidate :: s.outer) ∧
      s'.tokens = t :: s.tokens ∧ s'.keyAllowed = true ∧ s'.cursor.rest = rest := by
  have calmHere := calm.goTo c
  rw [calmHere.openFlow] at isStart
  have nextRest := forward_one_rest restEq
  refine ⟨_, arrives.reaches calm restEq isStart (Nat.le_of_eq (congrArg _ nextRest)), ?_,
    ⟨_, rfl⟩, rfl, rfl, nextRest⟩
  refine ⟨calm.indent, calm.indents, rfl, ?_⟩
  exact List.forall_mem_cons.mpr ⟨calmHere.isFree_savedCandidate, calm.outer⟩

/-- The end of a collection. -/
theorem ArrivesAt.closes {t : Token} {candidate : Option Candidate}
    {outer : List (Option Candidate)} (arrives : s.ArrivesAt c) (calm : s.Calm)
    (restEq : c.rest = d :: rest)
    (isEnd : (s.goTo c).token d rest = (s.goTo c).closeFlow t)
    (outerEq : s.outer = candidate :: outer) :
    ∃ s', Reaches s s' ∧ s'.Calm ∧ s'.outer = outer ∧ s'.tokens = t :: s.tokens ∧
      s'.keyAllowed = false ∧ s'.cursor.rest = rest := by
  rw [(calm.goTo c).closeFlow outerEq] at isEnd
  have nextRest := forward_one_rest restEq
  have free := calm.outer
  rw [outerEq, List.forall_mem_cons] at free
  exact ⟨_, arrives.reaches calm restEq isEnd (Nat.le_of_eq (congrArg _ nextRest)),
    ⟨calm.indent, calm.indents, free.1, free.2⟩, rfl, rfl, rfl, nextRest⟩

/-- The comma. -/
theorem ArrivesAt.emits_comma (arrives : s.ArrivesAt c) (calm : s.Calm)
    (restEq : c.rest = ',' :: rest) :
    ∃ s', Emits [.flowEntry] s s' ∧ s'.keyAllowed = true ∧ s'.cursor.rest = rest := by
  have done := token_comma (s := s.goTo c) restEq
  rw [(calm.goTo c).flowEntry] at done
  have nextRest := forward_one_rest restEq
  exact ⟨_, ⟨arrives.reaches calm restEq done (Nat.le_of_eq (congrArg _ nextRest)),
    ⟨calm.indent, calm.indents, rfl, calm.outer⟩, rfl, rfl⟩, rfl, nextRest⟩

/-- A string. -/
theorem ArrivesAt.emits_quoted {glyphs : List Json.Glyph} (arrives : s.ArrivesAt c) (calm : s.Calm)
    (restEq : c.rest = '"' :: (Json.glyphChars glyphs ++ '"' :: rest)) :
    match folded false .none glyphs with
    | some text =>
      ∃ s', Emits [.scalar false text] s s' ∧ s'.cursor.rest = rest ∧
        s'.candidate = (s.goTo c).savedCandidate ∧ s'.count = s.count + 1 ∧
        c.Passed ('"' :: Json.glyphChars glyphs ++ ['"']) s'.cursor
    | none => Faults s := by
  have calmHere := calm.goTo c
  have isQuote := token_quote (s := s.goTo c) restEq
  have nextEq := Cursor.next_of_cons restEq
  have nextRest : c.next.rest = Json.glyphChars glyphs ++ '"' :: rest := by rw [nextEq]
  have enough : (Json.glyphChars glyphs).length < c.next.rest.length + 1 := by
    rw [nextRest, List.length_append]
    omega
  have reads := quoted_glyphChars glyphs _ rest enough c.next .none [] nextRest
  rw [calmHere.quote] at isQuote
  change _ = Except.map _ (quoted false (c.next.rest.length + 1) c.next .none []) at isQuote
  change ReadsQuoted [] glyphs c.next (folded (decide (c.next.column = 0)) .none glyphs)
    (quoted false (c.next.rest.length + 1) c.next .none []) at reads
  rw [decide_eq_false (by rw [nextEq]; exact Nat.succ_ne_zero _)] at reads
  cases textEq : folded false .none glyphs with
  | none =>
      rw [textEq] at reads
      obtain ⟨fault, failed⟩ := reads
      rw [failed] at isQuote
      exact arrives.faults calm restEq isQuote
  | some text =>
      rw [textEq] at reads
      obtain ⟨after, read, passed⟩ := reads
      have afterRest : after.rest = rest := by
        have whole := passed.rest.symm.trans nextRest
        rw [List.append_assoc] at whole
        exact (List.cons.inj (List.append_cancel_left whole)).2
      rw [read] at isQuote
      have shorter : after.rest.length ≤ (Json.glyphChars glyphs ++ '"' :: rest).length := by
        rw [afterRest, List.length_append, List.length_cons]
        omega
      exact ⟨_, ⟨arrives.reaches calm restEq isQuote shorter,
          ⟨calm.indent, calm.indents, calmHere.isFree_savedCandidate, calm.outer⟩, rfl, rfl⟩,
        afterRest, rfl, rfl, (Cursor.Passed.next restEq rfl).trans passed⟩

/-- A word with the gap after it. -/
theorem ArrivesAt.emits_word {word chars : List Char} {e : Char} (arrives : s.ArrivesAt c)
    (calm : s.Calm) (inFlow : s.outer ≠ []) (isWord : IsWord word)
    (blanks : ∀ f ∈ chars, Json.isBlank f) (restEq : c.rest = word ++ (chars ++ e :: rest))
    (ends : EndsItem e) :
    ∃ s', Emits [.scalar true word] s s' ∧ s'.cursor.rest = e :: rest := by
  have calmHere := calm.goTo c
  have inFlowHere := inFlow_goTo inFlow c
  rcases plain_word (c.rest.length + 1) isWord blanks restEq ends
    (by rw [restEq, List.length_append, List.length_append]; omega) with
    ⟨after, broken, read, afterRest⟩
  rcases isWord.exists_cons with ⟨f, tail, rfl⟩
  have isWordToken := token_word (s := s.goTo c) isWord rfl restEq
  rw [calmHere.word inFlowHere] at isWordToken
  change _ = Except.map _ (plain true 0 (c.rest.length + 1) c .none []) at isWordToken
  rw [read] at isWordToken
  have shorter : after.rest.length ≤ (tail ++ (chars ++ e :: rest)).length := by
    rw [afterRest, List.length_append, List.length_append]
    omega
  exact ⟨_, ⟨arrives.reaches calm restEq isWordToken shorter,
    ⟨calm.indent, calm.indents, calmHere.isFree_savedCandidate, calm.outer⟩, rfl, rfl⟩, afterRest⟩

/-- The colon after a candidate: the key stands in front of its token if the
candidate is on the same line and not too far away. -/
theorem ArrivesAt.emits_colon {k : Candidate} {t : Token} {tokens : List Token}
    (arrives : s.ArrivesAt c) (calm : s.Calm) (inFlow : s.outer ≠ [])
    (restEq : c.rest = ':' :: rest) (candidateEq : s.candidate = some k)
    (tokensEq : s.tokens = t :: tokens) (countEq : s.count = k.place + 1) :
    ∃ s', Reaches s s' ∧ s'.Calm ∧ s'.outer = s.outer ∧ s'.cursor.rest = rest ∧
      s'.tokens =
        if k.line < c.line ∨ k.index + keyLimit < c.index then .value :: t :: tokens
        else .value :: t :: .key :: tokens := by
  have inFlowHere := inFlow_goTo inFlow c
  have calmHere := calm.goTo c
  have isColon := token_colon (s := s.goTo c) restEq inFlowHere
  have nextRest := forward_one_rest restEq
  have live := calmHere.liveCandidate? (k := k) candidateEq
  change _ = Except.ok
    (if k.line < c.line ∨ k.index + keyLimit < c.index then none else some k) at live
  rw [valueMark, live] at isColon
  simp only [bind, Except.bind] at isColon
  by_cases far : k.line < c.line ∨ k.index + keyLimit < c.index
  · have inFlowThen : ({ s.goTo c with candidate := none } : Lexer).inFlow = true := inFlowHere
    rw [if_pos far] at isColon
    simp only [openBlock_of_inFlow inFlowThen, inFlowThen] at isColon
    refine ⟨_, arrives.reaches calm restEq isColon (Nat.le_of_eq (congrArg _ nextRest)),
      ⟨calm.indent, calm.indents, rfl, calm.outer⟩, rfl, nextRest, ?_⟩
    rw [if_pos far, ← tokensEq]
    rfl
  · rw [if_neg far] at isColon
    have inFlowThen : ({ s.goTo c with
        tokens := t :: .key :: tokens, count := s.count + 1 } : Lexer).inFlow = true := inFlowHere
    have inserted : (s.goTo c).insertAt k.place .key =
        { s.goTo c with tokens := t :: .key :: tokens, count := s.count + 1 } :=
      insertAt_of_tokens tokensEq countEq
    simp only [inserted, openBlock_of_inFlow inFlowThen] at isColon
    refine ⟨_, arrives.reaches calm restEq isColon (Nat.le_of_eq (congrArg _ nextRest)),
      ⟨calm.indent, calm.indents, rfl, calm.outer⟩, rfl, nextRest, ?_⟩
    rw [if_neg far]
    rfl

end Tokens

end Lexer
end PolicyScan.Yaml
