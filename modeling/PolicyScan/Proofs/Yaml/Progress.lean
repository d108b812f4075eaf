import PolicyScan.Proofs.Outcome
import PolicyScan.Proofs.Yaml.Blank
import PolicyScan.Yaml.Node.Reader

/-!
# A text that is not blank has a document

The lexer never takes a token back, and every character that starts no gap gives
a token or a fault.  The first document takes up the first token.  So a text
has no document exactly if it is blank (`documents_eq_nil_iff`).
-/

namespace PolicyScan.Yaml

namespace Lexer

variable {s s' : Lexer}

/-! ## No token is taken back -/

@[simp]
theorem length_tokens_push (t : Token) (s : Lexer) :
    (s.push t).tokens.length = s.tokens.length + 1 := rfl

@[simp]
theorem tokens_goTo (c : Cursor) (s : Lexer) : (s.goTo c).tokens = s.tokens := rfl

@[simp]
theorem tokens_allowKey (allowed : Bool) (s : Lexer) : (s.allowKey allowed).tokens = s.tokens :=
  rfl

@[simp]
theorem length_tokens_take (n : Nat) (t : Token) (s : Lexer) :
    (s.take n t).tokens.length = s.tokens.length + 1 := rfl

@[simp]
theorem length_tokens_insertAt (place : Nat) (t : Token) (s : Lexer) :
    (s.insertAt place t).tokens.length = s.tokens.length + 1 := by
  simp only [insertAt, List.splitAt_eq, List.length_append, List.length_cons, List.length_take,
    List.length_drop]
  omega

theorem length_tokens_le_openBlock (column place : Nat) (t : Token) (s : Lexer) :
    s.tokens.length ≤ (s.openBlock column place t).tokens.length := by
  unfold openBlock
  split
  · simp
  · exact Nat.le_refl _

theorem length_tokens_le_closeBlocks_go (column : Int) (parents : List Int) (s : Lexer) :
    s.tokens.length ≤ (closeBlocks.go column parents s).tokens.length := by
  induction parents generalizing s with
  | nil => exact Nat.le_refl _
  | cons parent parents ih =>
      rw [closeBlocks.go]
      split
      · have later := ih ({ s with indent := parent, indents := parents }.push .blockEnd)
        rw [length_tokens_push] at later
        exact Nat.le_trans (Nat.le_succ _) later
      · exact Nat.le_refl _

theorem length_tokens_le_closeBlocks (column : Int) (s : Lexer) :
    s.tokens.length ≤ (s.closeBlocks column).tokens.length := by
  unfold closeBlocks
  split
  · exact Nat.le_refl _
  · exact length_tokens_le_closeBlocks_go _ _ _

theorem tokens_of_dropCandidate (done : s.dropCandidate = .ok s') : s'.tokens = s.tokens := by
  unfold dropCandidate at done
  split at done
  · contradiction
  · cases done
    rfl

theorem tokens_of_saveCandidate (done : s.saveCandidate = .ok s') : s'.tokens = s.tokens := by
  unfold saveCandidate at done
  split at done
  · obtain ⟨dropped, dropEq, done⟩ := bind_eq_ok_iff.mp done
    cases done
    rw [← tokens_of_dropCandidate dropEq]
  · cases done
    rfl

theorem length_tokens_le_of_leaveBlocks (done : s.leaveBlocks = .ok s') :
    s.tokens.length ≤ s'.tokens.length := by
  obtain ⟨dropped, dropEq, done⟩ := bind_eq_ok_iff.mp done
  cases done
  rw [tokens_allowKey, tokens_of_dropCandidate dropEq]
  exact length_tokens_le_closeBlocks _ _

/-- A gap moves the place and says whether a key may start; nothing else
changes. -/
theorem exists_skipGap_eq (fuel : Nat) (s : Lexer) :
    ∃ c allowed, skipGap fuel s = { s with cursor := c, keyAllowed := allowed } := by
  induction fuel generalizing s with
  | zero => exact ⟨s.cursor, s.keyAllowed, rfl⟩
  | succ fuel ih =>
      rw [skipGap]
      split
      · exact ⟨_, s.keyAllowed, rfl⟩
      · split
        · simp only
          split
          · exact ih _
          · exact ih _
        · exact ⟨_, s.keyAllowed, rfl⟩

theorem tokens_skipGap (fuel : Nat) (s : Lexer) : (skipGap fuel s).tokens = s.tokens := by
  rcases exists_skipGap_eq fuel s with ⟨c, allowed, passed⟩
  rw [passed]

/-! ## Every character gives a token -/

/-- A token is appended, or tokens stand in front of it. -/
theorem length_tokens_lt_of_openFlow {t : Token} (done : s.openFlow t = .ok s') :
    s.tokens.length < s'.tokens.length := by
  obtain ⟨saved, saveEq, done⟩ := bind_eq_ok_iff.mp done
  cases done
  simp [tokens_of_saveCandidate saveEq]

theorem length_tokens_lt_of_closeFlow {t : Token} (done : s.closeFlow t = .ok s') :
    s.tokens.length < s'.tokens.length := by
  obtain ⟨dropped, dropEq, done⟩ := bind_eq_ok_iff.mp done
  cases done
  rw [length_tokens_take, tokens_allowKey, ← tokens_of_dropCandidate dropEq]
  split <;> exact Nat.lt_succ_self _

theorem length_tokens_lt_of_flowEntry (done : s.flowEntry = .ok s') :
    s.tokens.length < s'.tokens.length := by
  obtain ⟨dropped, dropEq, done⟩ := bind_eq_ok_iff.mp done
  cases done
  simp [tokens_of_dropCandidate dropEq]

/-- A mark in front of which a block may open. -/
theorem length_tokens_lt_of_opened {column place : Nat} {opening : Token}
    (dropped : (s.openBlock column place opening).dropCandidate = .ok s') (allowed : Bool)
    (n : Nat) (t : Token) : s.tokens.length < ((s'.allowKey allowed).take n t).tokens.length := by
  rw [length_tokens_take, tokens_allowKey, tokens_of_dropCandidate dropped]
  exact Nat.lt_succ_of_le (length_tokens_le_openBlock _ _ _ _)

theorem length_tokens_lt_of_blockEntry (done : s.blockEntry = .ok s') :
    s.tokens.length < s'.tokens.length := by
  unfold blockEntry at done
  split at done
  · cases done
  · obtain ⟨dropped, dropEq, done⟩ := bind_eq_ok_iff.mp done
    cases done
    exact length_tokens_lt_of_opened dropEq _ _ _

theorem length_tokens_lt_of_explicitKey (done : s.explicitKey = .ok s') :
    s.tokens.length < s'.tokens.length := by
  unfold explicitKey at done
  split at done
  · cases done
  · obtain ⟨dropped, dropEq, done⟩ := bind_eq_ok_iff.mp done
    cases done
    exact length_tokens_lt_of_opened dropEq _ _ _

theorem length_tokens_lt_of_valueMark (done : s.valueMark = .ok s') :
    s.tokens.length < s'.tokens.length := by
  obtain ⟨live, -, done⟩ := bind_eq_ok_iff.mp done
  split at done
  · rename_i k
    cases done
    have opened := length_tokens_le_openBlock k.column k.place .blockMappingStart
      (s.insertAt k.place .key)
    simp only [length_tokens_take, tokens_allowKey, length_tokens_insertAt] at opened ⊢
    omega
  · simp only at done
    split at done
    · cases done
    · cases done
      rw [length_tokens_take, tokens_allowKey]
      exact Nat.lt_succ_of_le
        (length_tokens_le_openBlock _ _ _ { s with candidate := none })

theorem length_tokens_lt_of_property {t : Token} {c : Cursor} (done : s.property t c = .ok s') :
    s.tokens.length < s'.tokens.length := by
  obtain ⟨saved, saveEq, done⟩ := bind_eq_ok_iff.mp done
  cases done
  simp [tokens_of_saveCandidate saveEq]

theorem length_tokens_lt_of_block {literal : Bool} (done : s.block literal = .ok s') :
    s.tokens.length < s'.tokens.length := by
  obtain ⟨dropped, dropEq, done⟩ := bind_eq_ok_iff.mp done
  obtain ⟨⟨text, c⟩, -, done⟩ := bind_eq_ok_iff.mp done
  cases done
  simp [tokens_of_dropCandidate dropEq]

theorem length_tokens_lt_of_quote {single : Bool} (done : s.quote single = .ok s') :
    s.tokens.length < s'.tokens.length := by
  obtain ⟨saved, saveEq, done⟩ := bind_eq_ok_iff.mp done
  obtain ⟨⟨text, c⟩, -, done⟩ := bind_eq_ok_iff.mp done
  cases done
  simp [tokens_of_saveCandidate saveEq]

theorem length_tokens_lt_of_word (done : s.word = .ok s') :
    s.tokens.length < s'.tokens.length := by
  obtain ⟨saved, saveEq, done⟩ := bind_eq_ok_iff.mp done
  obtain ⟨⟨text, c, broken⟩, -, done⟩ := bind_eq_ok_iff.mp done
  cases done
  simp [tokens_of_saveCandidate saveEq]

theorem length_tokens_lt_of_leaveBlocks_take {t : Token} {n : Nat}
    (done : (do return (← s.leaveBlocks).take n t) = .ok s') :
    s.tokens.length < s'.tokens.length := by
  obtain ⟨left, leaveEq, done⟩ := bind_eq_ok_iff.mp done
  cases done
  rw [length_tokens_take]
  exact Nat.lt_succ_of_le (length_tokens_le_of_leaveBlocks leaveEq)

theorem eq_or_eq_of_ite {α : Type} {p : Prop} [Decidable p] {a b x : α}
    (equal : (if p then a else b) = x) : a = x ∨ b = x := by
  by_cases holds : p
  · exact .inl ((if_pos holds).symm.trans equal)
  · exact .inr ((if_neg holds).symm.trans equal)

/-- A character that starts no gap gives a token. -/
theorem length_tokens_lt_of_token {d : Char} {rest : List Char} (done : s.token d rest = .ok s') :
    s.tokens.length < s'.tokens.length := by
  unfold token at done
  rcases eq_or_eq_of_ite done with done | done
  · obtain ⟨left, leaveEq, done⟩ := bind_eq_ok_iff.mp done
    obtain ⟨⟨t, c⟩, -, done⟩ := bind_eq_ok_iff.mp done
    cases done
    rw [length_tokens_push, tokens_goTo]
    exact Nat.lt_succ_of_le (length_tokens_le_of_leaveBlocks leaveEq)
  rcases eq_or_eq_of_ite done with done | done
  · exact length_tokens_lt_of_leaveBlocks_take done
  rcases eq_or_eq_of_ite done with done | done
  · exact length_tokens_lt_of_leaveBlocks_take done
  rcases eq_or_eq_of_ite done with done | done
  · exact length_tokens_lt_of_openFlow done
  rcases eq_or_eq_of_ite done with done | done
  · exact length_tokens_lt_of_openFlow done
  rcases eq_or_eq_of_ite done with done | done
  · exact length_tokens_lt_of_closeFlow done
  rcases eq_or_eq_of_ite done with done | done
  · exact length_tokens_lt_of_closeFlow done
  rcases eq_or_eq_of_ite done with done | done
  · exact length_tokens_lt_of_flowEntry done
  rcases eq_or_eq_of_ite done with done | done
  · exact length_tokens_lt_of_blockEntry done
  rcases eq_or_eq_of_ite done with done | done
  · exact length_tokens_lt_of_explicitKey done
  rcases eq_or_eq_of_ite done with done | done
  · exact length_tokens_lt_of_valueMark done
  rcases eq_or_eq_of_ite done with done | done
  · obtain ⟨⟨name, c⟩, -, done⟩ := bind_eq_ok_iff.mp done
    exact length_tokens_lt_of_property done
  rcases eq_or_eq_of_ite done with done | done
  · obtain ⟨⟨name, c⟩, -, done⟩ := bind_eq_ok_iff.mp done
    exact length_tokens_lt_of_property done
  rcases eq_or_eq_of_ite done with done | done
  · obtain ⟨⟨t, c⟩, -, done⟩ := bind_eq_ok_iff.mp done
    exact length_tokens_lt_of_property done
  rcases eq_or_eq_of_ite done with done | done
  · exact length_tokens_lt_of_block done
  rcases eq_or_eq_of_ite done with done | done
  · exact length_tokens_lt_of_block done
  rcases eq_or_eq_of_ite done with done | done
  · exact length_tokens_lt_of_quote done
  rcases eq_or_eq_of_ite done with done | done
  · exact length_tokens_lt_of_quote done
  rcases eq_or_eq_of_ite done with done | done
  · exact length_tokens_lt_of_word done
  · cases done

/-- Where only a gap is left the lexer comes to its end. -/
theorem run_eq_finish {fuel : Nat}
    (atEnd : (skipGap (s.cursor.rest.length + 1) s).cursor.rest = []) :
    run (fuel + 1) s = (skipGap (s.cursor.rest.length + 1) s).finish := by
  rw [run]
  simp only [atEnd]

/-- No token is lost up to the end of the text. -/
theorem length_tokens_le_of_run {fuel : Nat} (done : run fuel s = .ok s') :
    s.tokens.length ≤ s'.tokens.length := by
  induction fuel generalizing s with
  | zero => exact length_tokens_le_of_leaveBlocks done
  | succ fuel ih =>
      rw [run] at done
      rw [← tokens_skipGap (s.cursor.rest.length + 1) s]
      simp only at done
      split at done
      · exact length_tokens_le_of_leaveBlocks done
      · obtain ⟨next, tokenEq, done⟩ := bind_eq_ok_iff.mp done
        have closed := length_tokens_le_closeBlocks
          (skipGap (s.cursor.rest.length + 1) s).cursor.column
          (skipGap (s.cursor.rest.length + 1) s)
        have pushed := length_tokens_lt_of_token tokenEq
        have later := ih done
        omega

end Lexer

/-- The lexer at the start of a text. -/
def Lexer.start (text : List Char) : Lexer := { cursor := ⟨text, 0, 0, 0⟩ }

theorem Lexer.start_atStart (text : List Char) : (start text).AtStart := ⟨rfl, rfl⟩

theorem tokens_of_allowed {text : List Char} (allowed : ∀ c ∈ text, isAllowed c) :
    tokens text =
      (Lexer.run (text.length + 1) (Lexer.start text)).map fun s => s.tokens.reverse := by
  rw [tokens, List.all_eq_true.mpr allowed]
  rfl

theorem tokens_of_not_allowed {text : List Char} (notAllowed : ¬∀ c ∈ text, isAllowed c) :
    tokens text = .error .characterNotAllowed := by
  rw [tokens, Bool.eq_false_iff.mpr fun all => notAllowed (List.all_eq_true.mp all)]
  rfl

/-- A text has no tokens exactly if it is blank. -/
theorem tokens_eq_nil_iff {text : List Char} : tokens text = .ok [] ↔ IsBlankText text := by
  have passed := Lexer.skipGap_rest_eq_nil_iff (Lexer.start_atStart text) rfl
    (Nat.lt_succ_self text.length)
  have noTokens : (Lexer.skipGap (text.length + 1) (Lexer.start text)).tokens = [] :=
    Lexer.tokens_skipGap _ _
  by_cases allAllowed : ∀ c ∈ text, isAllowed c
  · rw [IsBlankText, and_iff_right allAllowed, tokens_of_allowed allAllowed]
    refine Iff.trans ?_ passed
    constructor
    · intro done
      obtain ⟨s, ran, noToken⟩ := map_eq_ok_iff.mp done
      rw [Lexer.run] at ran
      simp only at ran
      split at ran
      · assumption
      · obtain ⟨next, tokenEq, ran⟩ := bind_eq_ok_iff.mp ran
        have pushed := Lexer.length_tokens_lt_of_token tokenEq
        have kept := Lexer.length_tokens_le_of_run ran
        rw [List.reverse_eq_nil_iff.mp noToken] at kept
        rw [List.length_nil] at kept
        omega
    · intro atEnd
      rcases Lexer.exists_skipGap_eq ((Lexer.start text).cursor.rest.length + 1)
        (Lexer.start text) with ⟨c, allowed, gap⟩
      rw [Lexer.run_eq_finish atEnd, gap]
      rfl
  · rw [tokens_of_not_allowed allAllowed]
    constructor
    · intro done
      cases done
    · intro blank
      exact absurd blank.1 allAllowed

/-! ## Documents -/

/-- Documents that have been read are kept. -/
theorem prefix_of_documentsOf {fuel : Nat} {first : Bool} {ts : List Token} {acc nodes : List Node}
    (done : documentsOf fuel first ts acc = .ok nodes) : acc.reverse <+: nodes := by
  induction fuel generalizing first ts acc with
  | zero =>
      cases done
      exact List.prefix_rfl
  | succ fuel ih =>
      rw [documentsOf] at done
      split at done
      · cases done
        exact List.prefix_rfl
      · obtain ⟨⟨node, rest⟩, -, done⟩ := bind_eq_ok_iff.mp done
        have longer := ih done
        rw [List.reverse_cons] at longer
        exact (List.prefix_append _ _).trans longer

/-- The first token gives a document or a fault. -/
theorem ne_nil_of_documentsOf {fuel : Nat} {t : Token} {ts : List Token} {nodes : List Node}
    (done : documentsOf (fuel + 1) true (t :: ts) [] = .ok nodes) : nodes ≠ [] := by
  rintro rfl
  obtain ⟨⟨node, rest⟩, -, done⟩ := bind_eq_ok_iff.mp done
  have kept := prefix_of_documentsOf done
  simp at kept

/-- A text has no document exactly if it is blank. -/
theorem documents_eq_nil_iff {text : List Char} : documents text = .ok [] ↔ IsBlankText text := by
  rw [← tokens_eq_nil_iff]
  constructor
  · intro done
    obtain ⟨ts, tokensEq, done⟩ := bind_eq_ok_iff.mp done
    rcases ts with _ | ⟨t, ts⟩
    · exact tokensEq
    · exact absurd rfl (ne_nil_of_documentsOf done)
  · intro tokensEq
    rw [documents, tokensEq]
    rfl

end PolicyScan.Yaml
