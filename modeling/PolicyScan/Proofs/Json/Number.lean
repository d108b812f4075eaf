import Mathlib.Data.List.Basic
import Mathlib.Data.List.TakeDrop
import Mathlib.Data.List.TakeWhile
import PolicyScan.Json.Reader

/-!
# Whole numbers in JSON text

A whole number is written as digits without a needless zero in front, after a
minus sign if it is negative; minus zero is not whole.  `IntText` says so of a
text.  The text of every whole number has this form (`intText_toString`), a
reader that finds it reads the number (`readNumber_append`), and finds a whole
number nowhere else (`exists_text_of_readNumber`).
-/

namespace PolicyScan.Json

/-- Digits without a needless zero in front. -/
structure WholeDigits (ds : List Char) : Prop where
  ne_nil : ds ≠ []
  isDigit_of_mem : ∀ c ∈ ds, isDigit c
  eq_of_head : ds.head? = some '0' → ds = ['0']

/-- The text is that of a whole number. -/
inductive IntText : List Char → Int → Prop where
  | unsigned {ds : List Char} (whole : WholeDigits ds) : IntText ds (decimalValue ds)
  | negative {ds : List Char} (whole : WholeDigits ds) (ne_zero : decimalValue ds ≠ 0) :
    IntText ('-' :: ds) (-(decimalValue ds : Int))

/-- A text does not go on with what could belong to a whole number before it. -/
def EndsNumber (s : List Char) : Prop :=
  ∀ c rest, s = c :: rest → ¬isDigit c ∧ c ≠ '.' ∧ c ≠ 'e' ∧ c ≠ 'E'

/-- A text does not start with a digit. -/
def EndsDigits (s : List Char) : Prop := ∀ c rest, s = c :: rest → ¬isDigit c

theorem EndsNumber.endsDigits {s : List Char} (ends : EndsNumber s) : EndsDigits s :=
  fun c rest equal => (ends c rest equal).1

/-- A number with its sign. -/
def readNumber : List Char → Read Number
  | '-' :: s => number true s
  | s => number false s

/-! ## Digits -/

theorem isDigit_eq_isDigit (c : Char) : isDigit c = c.isDigit := rfl

theorem decimalValue_eq_ofDigitChars (ds : List Char) :
    decimalValue ds = Nat.ofDigitChars 10 ds 0 := by
  simp only [decimalValue, Nat.ofDigitChars_eq_foldl, Nat.mul_comm 10]
  rfl

/-- Digits at the front of a text are taken up to the first other character. -/
theorem digits_append {ds rest : List Char} (all : ∀ c ∈ ds, isDigit c)
    (ends : EndsDigits rest) : digits (ds ++ rest) = (ds, rest) := by
  rw [digits, List.span_eq_takeWhile_dropWhile]
  have taken : rest.takeWhile isDigit = [] := by
    cases rest with
    | nil => rfl
    | cons c tail => exact List.takeWhile_cons_of_neg (ends c tail rfl)
  have left : rest.dropWhile isDigit = rest := by
    cases rest with
    | nil => rfl
    | cons c tail => exact List.dropWhile_cons_of_neg (ends c tail rfl)
  rw [List.takeWhile_append_of_pos all, List.dropWhile_append_of_pos all, taken, left,
    List.append_nil]

/-- The digits at the front and what follows make up the text. -/
theorem digits_fst_append_snd (s : List Char) : (digits s).1 ++ (digits s).2 = s := by
  rw [digits, List.span_eq_takeWhile_dropWhile]
  exact List.takeWhile_append_dropWhile

theorem isDigit_of_mem_digits {s : List Char} {c : Char} (member : c ∈ (digits s).1) :
    isDigit c := by
  rw [digits, List.span_eq_takeWhile_dropWhile] at member
  exact List.mem_takeWhile_imp member

theorem le_foldl_digits (ds : List Char) (n : Nat) :
    n ≤ ds.foldl (fun n d => n * 10 + (d.toNat - 48)) n := by
  induction ds generalizing n with
  | nil => exact Nat.le_refl n
  | cons d ds ih => exact Nat.le_trans (by omega) (ih (n * 10 + (d.toNat - 48)))

/-- Digits of a number that fits 64 bits are all absorbed. -/
theorem absorb_of_lt (ds : List Char) (n taken : Nat)
    (fits : ds.foldl (fun n d => n * 10 + (d.toNat - 48)) n < 0x10000000000000000) :
    absorb n taken ds =
      (ds.foldl (fun n d => n * 10 + (d.toNat - 48)) n, taken + ds.length) := by
  induction ds generalizing n taken with
  | nil => rfl
  | cons d ds ih =>
      have first : n * 10 + (d.toNat - 48) < 0x10000000000000000 :=
        Nat.lt_of_le_of_lt (le_foldl_digits ds _) fits
      rw [absorb, if_pos first, ih _ _ fits, List.foldl_cons, List.length_cons]
      simp only [Prod.mk.injEq, true_and]
      omega

theorem absorb_snd_le (ds : List Char) (n taken : Nat) :
    (absorb n taken ds).2 ≤ taken + ds.length := by
  induction ds generalizing n taken with
  | nil => exact Nat.le_refl _
  | cons d ds ih =>
      rw [absorb]
      split
      · have := ih (n * 10 + (d.toNat - 48)) (taken + 1)
        rw [List.length_cons]
        omega
      · exact Nat.le_add_right _ _

/-- If no digit is dropped, the number is that of all digits. -/
theorem absorb_fst_of_snd (ds : List Char) (n taken : Nat)
    (all : (absorb n taken ds).2 = taken + ds.length) :
    (absorb n taken ds).1 = ds.foldl (fun n d => n * 10 + (d.toNat - 48)) n := by
  induction ds generalizing n taken with
  | nil => rfl
  | cons d ds ih =>
      rw [absorb] at all ⊢
      split at all
      · rename_i first
        rw [if_pos first, List.foldl_cons]
        refine ih _ _ ?_
        rw [all, List.length_cons]
        omega
      · simp at all

/-! ## Numbers -/

theorem readNumber_of_isDigit {c : Char} (digit : isDigit c) (s : List Char) :
    readNumber (c :: s) = number false (c :: s) := by
  rw [readNumber]
  rintro rest equal
  rw [(List.cons.inj equal).1] at digit
  contradiction

/-- The whole digits of a number and what follows them, as the reader parts
them. -/
theorem number_eq_afterWhole {ds rest : List Char} (whole : WholeDigits ds)
    (ends : EndsDigits rest) (negative : Bool) :
    number negative (ds ++ rest) = number.afterWhole negative ds rest := by
  have parted : digits (ds ++ rest) = (ds, rest) := digits_append whole.isDigit_of_mem ends
  rcases ds with _ | ⟨c, tail⟩
  · exact absurd rfl whole.ne_nil
  · have isDigit_c := whole.isDigit_of_mem c List.mem_cons_self
    by_cases zero : c = '0'
    · subst zero
      have alone : tail = [] := by simpa using whole.eq_of_head rfl
      subst alone
      rcases rest with _ | ⟨d, rest⟩
      · rfl
      · have notDigit := ends d rest rfl
        simp [number, notDigit]
    · rw [List.cons_append] at parted ⊢
      rw [number]
      · rw [if_pos isDigit_c, parted]
      · intro d rest equal
        contradiction

/-- Digits that fit 64 bits and are the whole number are kept as such. -/
theorem afterWhole_of_fits {ds rest : List Char} (ends : EndsNumber rest)
    (fits : decimalValue ds < 0x10000000000000000) (negative : Bool) {value : Int}
    (valueEq : (if negative then -(decimalValue ds : Int) else decimalValue ds) = value)
    (ne_zero : negative → decimalValue ds ≠ 0) (inRange : Number.InRange value) :
    number.afterWhole negative ds rest = .ok (.int value inRange, rest) := by
  have absorbed : absorb 0 0 ds = (decimalValue ds, ds.length) := by
    simpa [decimalValue] using absorb_of_lt ds 0 0 fits
  have signed : (negative && decide (decimalValue ds = 0)) = false := by
    cases negative <;> simp_all
  rcases rest with _ | ⟨c, tail⟩
  · simp [number.afterWhole, startsFraction, absorbed, valueEq, signed,
      Number.ofInt?_eq_some inRange]
  · obtain ⟨-, notPoint, notE, notUpperE⟩ := ends c tail rfl
    simp [number.afterWhole, startsFraction, absorbed, valueEq, signed,
      Number.ofInt?_eq_some inRange, notPoint, notE, notUpperE]

/-- The reader takes the text of a whole number for the number. -/
theorem readNumber_append {text rest : List Char} {value : Int} (written : IntText text value)
    (inRange : Number.InRange value) (ends : EndsNumber rest) :
    readNumber (text ++ rest) = .ok (.int value inRange, rest) := by
  cases written with
  | unsigned whole =>
      have fits : decimalValue text < 0x10000000000000000 := by
        have := inRange.2
        omega
      have unsigned : readNumber (text ++ rest) = number false (text ++ rest) := by
        obtain ⟨c, tail, rfl⟩ := List.exists_cons_of_ne_nil whole.ne_nil
        exact readNumber_of_isDigit (whole.isDigit_of_mem c List.mem_cons_self) _
      rw [unsigned, number_eq_afterWhole whole ends.endsDigits]
      exact afterWhole_of_fits ends fits false rfl (by simp) inRange
  | @negative ds whole ne_zero =>
      have fits : decimalValue ds < 0x10000000000000000 := by
        have := inRange.1
        omega
      rw [List.cons_append, readNumber, number_eq_afterWhole whole ends.endsDigits]
      exact afterWhole_of_fits ends fits true rfl (fun _ => ne_zero) inRange

/-! ## The text of a whole number -/

theorem head?_toDigits_ne_zero {n : Nat} (pos : 0 < n) :
    (Nat.toDigits 10 n).head? ≠ some '0' := by
  induction n using Nat.strongRecOn with
  | ind n ih =>
      by_cases small : n < 10
      · rw [Nat.toDigits_of_lt_base small, List.head?_cons]
        intro equal
        have digit : 48 + n = 48 :=
          (Nat.toNat_digitChar_of_lt_ten small).symm.trans
            (congrArg Char.toNat (Option.some.inj equal))
        omega
      · rw [Nat.toDigits_of_base_le (by omega) (by omega),
          List.head?_append_of_ne_nil _ Nat.toDigits_ne_nil]
        exact ih (n / 10) (by omega) (by omega)

theorem wholeDigits_toDigits (n : Nat) : WholeDigits (Nat.toDigits 10 n) where
  ne_nil := Nat.toDigits_ne_nil
  isDigit_of_mem := by
    intro c member
    rw [isDigit_eq_isDigit]
    exact Nat.isDigit_of_mem_toDigits (by omega) (by omega) member
  eq_of_head := by
    intro head
    rcases Nat.eq_zero_or_pos n with rfl | pos
    · rfl
    · exact absurd head (head?_toDigits_ne_zero pos)

theorem decimalValue_toDigits (n : Nat) : decimalValue (Nat.toDigits 10 n) = n := by
  rw [decimalValue_eq_ofDigitChars, Nat.ofDigitChars_ten_toDigits]

/-- The text of a whole number is one. -/
theorem intText_toString (value : Int) : IntText (toString value).toList value := by
  rw [Int.toString_eq_repr, Int.repr_eq_if]
  split
  · rename_i nonneg
    have written := IntText.unsigned (wholeDigits_toDigits value.toNat)
    rw [decimalValue_toDigits, Int.toNat_of_nonneg nonneg] at written
    rw [Nat.toList_repr]
    exact written
  · have written := IntText.negative (wholeDigits_toDigits (-value).toNat) (by
      rw [decimalValue_toDigits]
      omega)
    rw [decimalValue_toDigits, Int.toNat_of_nonneg (by omega), Int.neg_neg] at written
    rw [String.toList_append, Nat.toList_repr]
    exact written

/-! ## Texts that are read as numbers -/

theorem digits_snd_suffix (s : List Char) : (digits s).2 <:+ s :=
  ⟨(digits s).1, digits_fst_append_snd s⟩

theorem exponentSign_suffix (s : List Char) : (exponentSign s).2 <:+ s := by
  unfold exponentSign
  split <;> simp

theorem exponentDigits_suffix (n : Nat) (s : List Char) : (exponentDigits n s).2.2 <:+ s := by
  induction s generalizing n with
  | nil => simp [exponentDigits]
  | cons c s ih =>
      simp only [exponentDigits]
      split
      · split
        · exact (ih _).trans (List.suffix_cons c s)
        · exact List.suffix_cons c s
      · exact List.suffix_rfl

/-- The number is no whole one, and what is left comes at the end of the text. -/
def IsFloatBefore (s : List Char) (result : Number × List Char) : Prop :=
  (∃ x, result.1 = .float x) ∧ result.2 <:+ s

theorem isFloatBefore_of_finish {negative : Bool} {significand : Nat} {e : Int}
    {s rest : List Char} {result : Number × List Char} (suffix : rest <:+ s)
    (done : finish negative significand e rest = .ok result) : IsFloatBefore s result := by
  unfold finish at done
  split at done
  · cases done
    exact ⟨⟨_, rfl⟩, suffix⟩
  · contradiction

theorem isFloatBefore_of_withExponent {negative : Bool} {significand : Nat} {base : Int}
    {s : List Char} {result : Number × List Char}
    (done : withExponent negative significand base s = .ok result) :
    IsFloatBefore s result := by
  have signed := exponentSign_suffix s
  rcases signEq : exponentSign s with ⟨down, unsigned⟩
  rw [signEq] at signed
  have suffix := (exponentDigits_suffix 0 unsigned).trans signed
  simp only [withExponent, signEq] at done
  split at done
  · contradiction
  · rename_i c tail
    split at done
    · contradiction
    · split at done
      · rename_i digitsEq
        rw [digitsEq] at suffix
        exact isFloatBefore_of_finish suffix done
      · rename_i digitsEq
        rw [digitsEq] at suffix
        split at done
        · contradiction
        · exact isFloatBefore_of_finish ((digits_snd_suffix _).trans suffix) done

theorem isFloatBefore_of_fractional {negative : Bool} {significand dropped : Nat}
    {s : List Char} {result : Number × List Char}
    (done : fractional negative significand dropped s = .ok result) :
    IsFloatBefore s result := by
  have step {c : Char} {tail : List Char} (done : IsFloatBefore tail result) :
      IsFloatBefore (c :: tail) result := ⟨done.1, done.2.trans (List.suffix_cons c tail)⟩
  unfold fractional at done
  split at done
  · rename_i s
    have suffix := digits_snd_suffix s
    rcases digitsEq : digits s with ⟨ds, rest⟩
    rw [digitsEq] at suffix
    simp only [digitsEq] at done
    have inside : IsFloatBefore rest result → IsFloatBefore ('.' :: s) result :=
      fun isFloat => step ⟨isFloat.1, isFloat.2.trans suffix⟩
    split at done
    · contradiction
    · contradiction
    · split at done
      · exact inside (step (isFloatBefore_of_withExponent done))
      · exact inside (step (isFloatBefore_of_withExponent done))
      · exact inside (isFloatBefore_of_finish List.suffix_rfl done)
  · exact step (isFloatBefore_of_withExponent done)
  · exact step (isFloatBefore_of_withExponent done)
  · exact isFloatBefore_of_finish List.suffix_rfl done

/-- A number keeps what follows its whole digits or leaves an end of it.  It is
whole only if no digit was dropped and no fraction follows. -/
theorem afterWhole_cases {ds rest : List Char} {negative : Bool} {result : Number × List Char}
    (done : number.afterWhole negative ds rest = .ok result) :
    IsFloatBefore rest result ∨
      result.2 = rest ∧ (negative → decimalValue ds ≠ 0) ∧
        ∃ value inRange, result.1 = .int value inRange ∧
          (if negative then -(decimalValue ds : Int) else decimalValue ds) = value := by
  have length := absorb_snd_le ds 0 0
  have sum := absorb_fst_of_snd ds 0 0
  rcases absorbed : absorb 0 0 ds with ⟨significand, taken⟩
  rw [absorbed] at length sum
  simp only [number.afterWhole, absorbed] at done
  split at done
  · exact .inl (isFloatBefore_of_fractional done)
  · rename_i kept
    have significandEq : significand = decimalValue ds := by
      refine sum ?_
      simp only [Bool.or_eq_true, decide_eq_true_eq, not_or] at kept
      simp only at length ⊢
      omega
    subst significandEq
    split at done
    · exact .inl (isFloatBefore_of_finish List.suffix_rfl done)
    · rename_i signed
      split at done
      · rename_i n found
        cases done
        refine .inr ⟨rfl, ?_, ?_⟩
        · rintro rfl zero
          simp [zero] at signed
        · obtain ⟨inRange, rfl⟩ := Number.eq_int_of_ofInt? found
          exact ⟨_, inRange, rfl, rfl⟩
      · exact .inl (isFloatBefore_of_finish List.suffix_rfl done)

/-- A number that is read starts with whole digits. -/
theorem exists_wholeDigits {negative : Bool} {s : List Char} {result : Number × List Char}
    (done : number negative s = .ok result) :
    ∃ ds rest, s = ds ++ rest ∧ WholeDigits ds ∧
      number.afterWhole negative ds rest = .ok result := by
  unfold number at done
  split at done
  · contradiction
  · rename_i d rest
    split at done
    · contradiction
    · exact ⟨['0'], d :: rest, rfl, ⟨by simp, by simp [isDigit], fun _ => rfl⟩, done⟩
  · rename_i c tail notZero
    split at done
    · rename_i digit
      have parted := digits_fst_append_snd (c :: tail)
      have first : (digits (c :: tail)).1.head? = some c := by
        simp [digits, List.span_eq_takeWhile_dropWhile, digit]
      refine ⟨_, _, parted.symm, ⟨?_, fun _ => isDigit_of_mem_digits, ?_⟩, done⟩
      · intro empty
        simp [empty] at first
      · intro head
        obtain rfl : c = '0' := Option.some.inj (first.symm.trans head)
        rcases tail with _ | ⟨d, rest⟩
        · rfl
        · exact absurd rfl (notZero d rest rfl)
    · contradiction

/-- A whole number is read from its text, and any other number from some
text. -/
theorem exists_text_of_readNumber {s rest : List Char} {n : Number}
    (done : readNumber s = .ok (n, rest)) :
    ∃ text, s = text ++ rest ∧ ∀ value inRange, n = .int value inRange → IntText text value := by
  have step {negative : Bool} {s : List Char} (done : number negative s = .ok (n, rest)) :
      ∃ text, s = text ++ rest ∧ ∀ value inRange, n = .int value inRange →
        WholeDigits text ∧ (negative → decimalValue text ≠ 0) ∧
          (if negative then -(decimalValue text : Int) else decimalValue text) = value := by
    obtain ⟨ds, tail, rfl, whole, done⟩ := exists_wholeDigits done
    rcases afterWhole_cases done with
      ⟨⟨x, rfl⟩, middle, rfl⟩ | ⟨rfl, ne_zero, value, inRange, nEq, valueEq⟩
    · exact ⟨ds ++ middle, by simp, by simp⟩
    · subst nEq
      refine ⟨ds, rfl, ?_⟩
      rintro _ _ equal
      cases equal
      exact ⟨whole, ne_zero, valueEq⟩
  unfold readNumber at done
  split at done
  · obtain ⟨text, rfl, isInt⟩ := step done
    refine ⟨'-' :: text, rfl, fun value inRange equal => ?_⟩
    obtain ⟨whole, ne_zero, rfl⟩ := isInt value inRange equal
    exact .negative whole (ne_zero rfl)
  · obtain ⟨text, rfl, isInt⟩ := step done
    refine ⟨text, rfl, fun value inRange equal => ?_⟩
    obtain ⟨whole, -, rfl⟩ := isInt value inRange equal
    exact .unsigned whole

end PolicyScan.Json
