import PolicyScan.Proofs.Json.Number

/-!
# Where a number ends

A number is read from a text of its own.  What follows the text does not matter as long
as the number ends there (`exists_text_elsewhere`), so that a number which is read in one
place is read in every other.
-/

namespace PolicyScan.Json

/-! ## Digits and exponents -/

theorem digits_fst_append {s other : List Char} (ends : EndsDigits other) :
    digits ((digits s).1 ++ other) = ((digits s).1, other) :=
  digits_append (fun _ => isDigit_of_mem_digits) ends

/-- The digits of an exponent are the same before another rest.  Where one goes beyond,
what follows it does not matter. -/
theorem exists_exponentDigits {n m : Nat} {beyond : Bool} {s rest : List Char}
    (read : exponentDigits n s = (m, beyond, rest)) :
    ∃ ds, s = ds ++ rest ∧ ∀ other, (beyond = false → EndsDigits other) →
      exponentDigits n (ds ++ other) = (m, beyond, other) := by
  induction s generalizing n with
  | nil =>
      cases read
      refine ⟨[], rfl, fun other ends => ?_⟩
      cases other with
      | nil => rfl
      | cons c other => simp [exponentDigits, ends rfl c other rfl]
  | cons c s ih =>
      simp only [exponentDigits] at read
      split at read
      · next digit =>
          split at read
          · next fits =>
              obtain ⟨ds, rfl, elsewhere⟩ := ih read
              refine ⟨c :: ds, rfl, fun other ends => ?_⟩
              rw [List.cons_append, exponentDigits, if_pos digit]
              simp only [if_pos fits]
              exact elsewhere other ends
          · next far =>
              cases read
              refine ⟨[c], rfl, fun other _ => ?_⟩
              rw [List.cons_append, exponentDigits, if_pos digit]
              simp only [if_neg far, List.nil_append]
      · next notDigit =>
          cases read
          refine ⟨[], rfl, fun other ends => ?_⟩
          cases other with
          | nil => rfl
          | cons d other => simp [exponentDigits, ends rfl d other rfl]

/-- A digit is taken into the exponent. -/
theorem exists_exponentDigits_cons {n m : Nat} {beyond : Bool} {c : Char} {s rest : List Char}
    (digit : isDigit c) (read : exponentDigits n (c :: s) = (m, beyond, rest)) :
    ∃ ds, s = ds ++ rest ∧ ∀ other, (beyond = false → EndsDigits other) →
      exponentDigits n (c :: (ds ++ other)) = (m, beyond, other) := by
  rw [exponentDigits, if_pos digit] at read
  simp only [exponentDigits, if_pos digit]
  dsimp only at read
  split at read
  · next fits =>
      simp only [if_pos fits]
      exact exists_exponentDigits read
  · next far =>
      cases read
      exact ⟨[], rfl, fun other _ => by simp only [if_neg far, List.nil_append]⟩

theorem exists_exponentSign {c : Char} {s tail : List Char} {down : Bool} (digit : isDigit c)
    (signed : exponentSign s = (down, c :: tail)) :
    ∃ sign, s = sign ++ c :: tail ∧
      ∀ other, exponentSign (sign ++ c :: other) = (down, c :: other) := by
  unfold exponentSign at signed
  split at signed
  · cases signed
    exact ⟨['+'], rfl, fun _ => rfl⟩
  · cases signed
    exact ⟨['-'], rfl, fun _ => rfl⟩
  · next notPlus notMinus =>
      cases signed
      refine ⟨[], rfl, fun other => ?_⟩
      rw [List.nil_append, exponentSign]
      · rintro rest equal
        cases equal
        exact notPlus tail rfl
      · rintro rest equal
        cases equal
        exact notMinus tail rfl

theorem finish_eq_ok {negative : Bool} {significand : Nat} {e : Int} {s rest : List Char}
    {n : Number} (done : finish negative significand e s = .ok (n, rest)) :
    s = rest ∧ ∀ other, finish negative significand e other = .ok (n, other) := by
  unfold finish at done
  split at done
  · next x found =>
      cases done
      exact ⟨rfl, fun other => by rw [finish, found]⟩
  · cases done

theorem exists_withExponent {negative : Bool} {significand : Nat} {base : Int}
    {s rest : List Char} {n : Number}
    (done : withExponent negative significand base s = .ok (n, rest)) :
    ∃ text, s = text ++ rest ∧ ∀ other, EndsDigits other →
      withExponent negative significand base (text ++ other) = .ok (n, other) := by
  rcases signEq : exponentSign s with ⟨down, unsigned⟩
  simp only [withExponent, signEq] at done
  split at done
  · contradiction
  · next c tail =>
      split at done
      · contradiction
      · next digit =>
          simp only [Bool.not_eq_true', Bool.not_eq_false] at digit
          obtain ⟨sign, rfl, signed⟩ := exists_exponentSign digit signEq
          split at done
          · next m left read =>
              obtain ⟨ds, rfl, elsewhere⟩ := exists_exponentDigits_cons digit read
              obtain ⟨rfl, finished⟩ := finish_eq_ok done
              refine ⟨sign ++ c :: ds, by simp, fun other ends => ?_⟩
              rw [List.append_assoc, List.cons_append]
              simp only [withExponent, signed, digit, elsewhere other fun _ => ends]
              simpa using finished other
          · next m left read =>
              obtain ⟨ds, rfl, elsewhere⟩ := exists_exponentDigits_cons digit read
              split at done
              · contradiction
              · next small =>
                  obtain ⟨rfl, finished⟩ := finish_eq_ok done
                  refine ⟨sign ++ c :: (ds ++ (digits left).1), ?_, fun other ends => ?_⟩
                  · simp [digits_fst_append_snd]
                  · rw [List.append_assoc, List.cons_append, List.append_assoc]
                    simp only [withExponent, signed, digit, digits_fst_append ends,
                      elsewhere ((digits left).1 ++ other) (by simp)]
                    simp only [if_neg small]
                    simpa using finished other
/-! ## Fractions -/

/-- The text begins a fraction or an exponent. -/
theorem startsFraction_iff {s : List Char} :
    startsFraction s ↔ ∃ c rest, s = c :: rest ∧ (c = '.' ∨ c = 'e' ∨ c = 'E') := by
  constructor
  · intro starts
    unfold startsFraction at starts
    split at starts
    · exact ⟨_, _, rfl, .inl rfl⟩
    · exact ⟨_, _, rfl, .inr (.inl rfl)⟩
    · exact ⟨_, _, rfl, .inr (.inr rfl)⟩
    · contradiction
  · rintro ⟨_, _, rfl, rfl | rfl | rfl⟩ <;> rfl

theorem startsFraction_append {text other : List Char} (starts : startsFraction text) :
    startsFraction (text ++ other) := by
  obtain ⟨c, rest, rfl, isStart⟩ := startsFraction_iff.mp starts
  exact startsFraction_iff.mpr ⟨c, rest ++ other, rfl, isStart⟩

theorem EndsNumber.not_startsFraction {s : List Char} (ends : EndsNumber s) :
    startsFraction s = false := by
  rw [Bool.eq_false_iff, ne_eq, startsFraction_iff]
  rintro ⟨c, rest, rfl, isStart⟩
  obtain ⟨-, notPoint, notE, notUpperE⟩ := ends c rest rfl
  rcases isStart with rfl | rfl | rfl <;> contradiction

theorem endsDigits_of_startsFraction {text other : List Char} (starts : startsFraction text) :
    EndsDigits (text ++ other) := by
  obtain ⟨c, more, rfl, isStart⟩ := startsFraction_iff.mp starts
  intro d others equal
  cases equal
  rcases isStart with rfl | rfl | rfl <;> simp [isDigit]

/-- What follows the digits of a number: an exponent, or nothing of it. -/
def exponential (negative : Bool) (significand : Nat) (base : Int) : List Char → Read Number
  | 'e' :: s => withExponent negative significand base s
  | 'E' :: s => withExponent negative significand base s
  | s => finish negative significand base s

theorem exponential_of_not_startsFraction {negative : Bool} {significand : Nat} {base : Int}
    {s : List Char} (notStarts : startsFraction s = false) :
    exponential negative significand base s = finish negative significand base s := by
  unfold exponential
  split
  · simp [startsFraction] at notStarts
  · simp [startsFraction] at notStarts
  · rfl

theorem exists_exponential {negative : Bool} {significand : Nat} {base : Int} {s rest : List Char}
    {n : Number} (done : exponential negative significand base s = .ok (n, rest)) :
    ∃ text, s = text ++ rest ∧
      (text = [] ∧ (∀ tail, s ≠ 'e' :: tail) ∧ (∀ tail, s ≠ 'E' :: tail) ∨ startsFraction text) ∧
      ∀ other, EndsNumber other →
        exponential negative significand base (text ++ other) = .ok (n, other) := by
  unfold exponential at done
  split at done
  · obtain ⟨text, rfl, elsewhere⟩ := exists_withExponent done
    exact ⟨'e' :: text, rfl, .inr rfl, fun other ends => elsewhere other ends.endsDigits⟩
  · obtain ⟨text, rfl, elsewhere⟩ := exists_withExponent done
    exact ⟨'E' :: text, rfl, .inr rfl, fun other ends => elsewhere other ends.endsDigits⟩
  · next notE notUpperE =>
    obtain ⟨rfl, finished⟩ := finish_eq_ok done
    refine ⟨[], rfl, .inl ⟨rfl, notE, notUpperE⟩, fun other ends => ?_⟩
    rw [List.nil_append, exponential_of_not_startsFraction ends.not_startsFraction]
    exact finished other

theorem fractional_point {negative : Bool} {significand dropped : Nat} {s ds rest : List Char}
    (parted : digits s = (ds, rest)) (nonempty : ds ≠ []) :
    fractional negative significand dropped ('.' :: s) =
      exponential negative (absorb significand 0 ds).1
        ((dropped : Int) - (absorb significand 0 ds).2) rest := by
  obtain ⟨d, ds, rfl⟩ := List.exists_cons_of_ne_nil nonempty
  simp only [fractional, parted]
  split
  · rfl
  · rfl
  · next notE notUpperE =>
      rw [exponential]
      · exact notE
      · exact notUpperE

theorem fractional_of_ne_point {negative : Bool} {significand dropped : Nat} {s : List Char}
    (notPoint : ∀ rest, s ≠ '.' :: rest) :
    fractional negative significand dropped s = exponential negative significand dropped s := by
  unfold fractional
  split
  · exact absurd rfl (notPoint _)
  · rfl
  · rfl
  · next notE notUpperE =>
      rw [exponential]
      · exact notE
      · exact notUpperE

/-- A point is read with digits behind it only. -/
theorem digits_ne_nil_of_fractional {negative : Bool} {significand dropped : Nat}
    {s rest : List Char} {n : Number}
    (done : fractional negative significand dropped ('.' :: s) = .ok (n, rest)) :
    (digits s).1 ≠ [] := by
  intro empty
  rcases digitsEq : digits s with ⟨ds, left⟩
  rw [digitsEq] at empty
  simp only [fractional, digitsEq, empty] at done
  split at done <;> contradiction

theorem exists_fractional {negative : Bool} {significand dropped : Nat} {s rest : List Char}
    {n : Number} (done : fractional negative significand dropped s = .ok (n, rest)) :
    ∃ text, s = text ++ rest ∧ (text = [] ∧ startsFraction s = false ∨ startsFraction text) ∧
      ∀ other, EndsNumber other →
        fractional negative significand dropped (text ++ other) = .ok (n, other) := by
  by_cases pointed : ∃ tail, s = '.' :: tail
  · obtain ⟨tail, rfl⟩ := pointed
    have nonempty := digits_ne_nil_of_fractional done
    have parted : digits tail = ((digits tail).1, (digits tail).2) := rfl
    rw [fractional_point parted nonempty] at done
    obtain ⟨text, leftEq, start, elsewhere⟩ := exists_exponential done
    refine ⟨'.' :: ((digits tail).1 ++ text), ?_, .inr rfl, fun other ends => ?_⟩
    · rw [List.cons_append, List.append_assoc, ← leftEq, digits_fst_append_snd]
    · have endsText : EndsDigits (text ++ other) := by
        rcases start with ⟨rfl, -⟩ | start
        · exact ends.endsDigits
        · exact endsDigits_of_startsFraction start
      rw [List.cons_append, List.append_assoc,
        fractional_point (digits_fst_append endsText) nonempty]
      exact elsewhere other ends
  · have notPoint : ∀ tail, s ≠ '.' :: tail := fun tail equal => pointed ⟨tail, equal⟩
    rw [fractional_of_ne_point notPoint] at done
    obtain ⟨text, rfl, start, elsewhere⟩ := exists_exponential done
    rcases start with ⟨rfl, notE, notUpperE⟩ | start
    · refine ⟨[], rfl, .inl ⟨rfl, ?_⟩, fun other ends => ?_⟩
      · rw [Bool.eq_false_iff, ne_eq, startsFraction_iff]
        rintro ⟨_, tail, equal, rfl | rfl | rfl⟩
        · exact notPoint tail equal
        · exact notE tail equal
        · exact notUpperE tail equal
      · have again := elsewhere other ends
        rw [List.nil_append] at again ⊢
        rw [fractional_of_ne_point]
        · exact again
        · rintro tail rfl
          exact (ends '.' tail rfl).2.1 rfl
    · refine ⟨text, rfl, .inr start, fun other ends => ?_⟩
      rw [fractional_of_ne_point]
      · exact elsewhere other ends
      · obtain ⟨c, more, rfl, -⟩ := startsFraction_iff.mp start
        rintro tail equal
        cases equal
        exact notPoint _ rfl

/-! ## Whole numbers and others -/

/-- What follows whole digits is the same before another rest. -/
theorem exists_afterWhole {negative : Bool} {ds s rest : List Char} {n : Number}
    (done : number.afterWhole negative ds s = .ok (n, rest)) :
    ∃ text, s = text ++ rest ∧ ∀ other, EndsNumber other →
      EndsDigits (text ++ other) ∧ number.afterWhole negative ds (text ++ other) = .ok (n, other) := by
  unfold number.afterWhole at done
  dsimp only at done
  split at done
  · next inFraction =>
      obtain ⟨text, rfl, start, elsewhere⟩ := exists_fractional done
      refine ⟨text, rfl, fun other ends => ?_⟩
      unfold number.afterWhole
      dsimp only
      rcases start with ⟨rfl, notStarts⟩ | starts
      · rw [notStarts, Bool.false_or] at inFraction
        rw [if_pos (by rw [inFraction, Bool.or_true])]
        exact ⟨ends.endsDigits, elsewhere other ends⟩
      · rw [if_pos (by rw [startsFraction_append starts, Bool.true_or])]
        exact ⟨endsDigits_of_startsFraction starts, elsewhere other ends⟩
  · next notInFraction =>
      rw [Bool.or_eq_true, not_or] at notInFraction
      -- No branch takes anything of what follows the digits.
      have kept : s = rest ∧ ∀ other, EndsNumber other →
          number.afterWhole negative ds other = .ok (n, other) := by
        have elsewhere {other : List Char} (ends : EndsNumber other) :
            ¬(startsFraction other || decide (ds.length - (absorb 0 0 ds).2 > 0)) := by
          rw [ends.not_startsFraction, Bool.false_or]
          exact notInFraction.2
        unfold number.afterWhole
        dsimp only
        split at done
        · next isZero =>
            obtain ⟨rfl, finished⟩ := finish_eq_ok done
            refine ⟨rfl, fun other ends => ?_⟩
            rw [if_neg (elsewhere ends), if_pos isZero]
            exact finished other
        · next notZero =>
            split at done
            · next found =>
                cases done
                refine ⟨rfl, fun other ends => ?_⟩
                rw [if_neg (elsewhere ends), if_neg notZero]
            · next notFound =>
                obtain ⟨rfl, finished⟩ := finish_eq_ok done
                refine ⟨rfl, fun other ends => ?_⟩
                rw [if_neg (elsewhere ends), if_neg notZero]
                exact finished other
      obtain ⟨rfl, elsewhere⟩ := kept
      exact ⟨[], rfl, fun other ends => ⟨ends.endsDigits, elsewhere other ends⟩⟩

theorem exists_number {negative : Bool} {s rest : List Char} {n : Number}
    (done : number negative s = .ok (n, rest)) :
    ∃ c text, isDigit c ∧ s = c :: (text ++ rest) ∧ ∀ other, EndsNumber other →
      number negative (c :: (text ++ other)) = .ok (n, other) := by
  obtain ⟨ds, tail, rfl, whole, done⟩ := exists_wholeDigits done
  obtain ⟨text, rfl, elsewhere⟩ := exists_afterWhole done
  obtain ⟨c, ds, rfl⟩ := List.exists_cons_of_ne_nil whole.ne_nil
  refine ⟨c, ds ++ text, whole.isDigit_of_mem c List.mem_cons_self, ?_, fun other ends => ?_⟩
  · rw [List.append_assoc, List.cons_append]
  · obtain ⟨endsDigits, again⟩ := elsewhere other ends
    rw [List.append_assoc, ← List.cons_append, number_eq_afterWhole whole endsDigits]
    exact again

/-- A number is read from a text of its own, whatever follows it that ends a number. -/
theorem exists_text_elsewhere {s rest : List Char} {n : Number}
    (done : readNumber s = .ok (n, rest)) :
    ∃ c text, (c = '-' ∨ isDigit c) ∧ s = c :: (text ++ rest) ∧ ∀ other, EndsNumber other →
      readNumber (c :: (text ++ other)) = .ok (n, other) := by
  unfold readNumber at done
  split at done
  · obtain ⟨c, text, -, rfl, elsewhere⟩ := exists_number done
    exact ⟨'-', c :: text, .inl rfl, rfl, elsewhere⟩
  · obtain ⟨c, text, digit, rfl, elsewhere⟩ := exists_number done
    refine ⟨c, text, .inr digit, rfl, fun other ends => ?_⟩
    rw [readNumber_of_isDigit digit]
    exact elsewhere other ends

end PolicyScan.Json
