import Mathlib.Data.List.TakeWhile
import PolicyScan.Yaml.Cursor

/-!
# Moving through a YAML text

Where a cursor stands after it has passed over characters: what is left of the
text, and how far the index and the column have gone on.
-/

namespace PolicyScan.Yaml

/-- What holds of all characters of a text is decided by going through the text, not
through all characters there are. -/
instance (priority := high) decidableForallMem (text : List Char) (p : Char → Prop)
    [DecidablePred p] : Decidable (∀ c ∈ text, p c) :=
  List.decidableBAll p text

theorem isBreak_iff {c : Char} :
    isBreak c ↔ c = '\n' ∨ c = '\r' ∨ c = '\x85' ∨ c = '\u2028' ∨ c = '\u2029' := by
  simp only [isBreak, Bool.or_eq_true, decide_eq_true_eq, or_assoc]

theorem not_isBlank_of_isBreak {c : Char} (ends : isBreak c) : ¬isBlank c := by
  rcases isBreak_iff.mp ends with rfl | rfl | rfl | rfl | rfl <;> decide

/-- The text after the line end at its front. -/
def afterBreak : List Char → List Char
  | '\r' :: '\n' :: rest => rest
  | _ :: rest => rest
  | [] => []

theorem afterBreak_cons_suffix (c : Char) (rest : List Char) :
    afterBreak (c :: rest) <:+ rest := by
  unfold afterBreak
  split
  · rename_i equal
    cases equal
    exact List.suffix_cons _ _
  · rename_i equal
    cases equal
    exact List.suffix_rfl
  · contradiction

theorem afterBreak_of_head?_ne {c : Char} {s : List Char}
    (single : c = '\r' → s.head? ≠ some '\n') : afterBreak (c :: s) = s := by
  unfold afterBreak
  split
  · rename_i equal
    cases equal
    exact absurd rfl (single rfl)
  · rename_i equal
    exact (List.cons.inj equal).2.symm
  · contradiction

namespace Cursor

/-- The place after `n` characters that end no line. -/
def advance (n : Nat) (c : Cursor) : Cursor :=
  ⟨c.rest.drop n, c.index + n, c.line, c.column + n⟩

theorem next_rest (c : Cursor) : c.next.rest = c.rest.tail := by
  rcases c with ⟨rest, index, line, column⟩
  cases rest <;> rfl

theorem next_of_cons {c : Cursor} {d : Char} {rest : List Char} (restEq : c.rest = d :: rest) :
    c.next = ⟨rest, c.index + 1, c.line, c.column + 1⟩ := by
  rw [next, restEq]

theorem forward_eq_advance {n : Nat} {c : Cursor} (enough : n ≤ c.rest.length) :
    c.forward n = c.advance n := by
  induction n generalizing c with
  | zero => rfl
  | succ n ih =>
      rcases restEq : c.rest with _ | ⟨d, rest⟩
      · rw [restEq] at enough
        contradiction
      · have nextEq := next_of_cons restEq
        rw [restEq] at enough
        rw [forward, nextEq, ih (by simpa using enough)]
        simp only [advance, restEq, List.drop_succ_cons, Cursor.mk.injEq, true_and]
        omega

theorem forward_rest (n : Nat) (c : Cursor) : (c.forward n).rest = c.rest.drop n := by
  induction n generalizing c with
  | zero => rfl
  | succ n ih =>
      rw [forward, ih, next_rest, List.drop_tail]

theorem skipWhile_eq_advance (p : Char → Bool) (c : Cursor) :
    c.skipWhile p = c.advance (c.rest.takeWhile p).length :=
  forward_eq_advance (List.takeWhile_prefix p).length_le

theorem skipWhile_rest (p : Char → Bool) (c : Cursor) :
    (c.skipWhile p).rest = c.rest.dropWhile p := by
  have parted := List.takeWhile_append_dropWhile (p := p) (l := c.rest)
  calc
    (c.skipWhile p).rest = c.rest.drop (c.rest.takeWhile p).length := by
      rw [skipWhile_eq_advance]
      rfl
    _ = (c.rest.takeWhile p ++ c.rest.dropWhile p).drop (c.rest.takeWhile p).length := by
      rw [parted]
    _ = c.rest.dropWhile p := List.drop_left

theorem takeBreak_rest (c : Cursor) : c.takeBreak.2.rest = afterBreak c.rest := by
  unfold takeBreak
  split
  · rename_i restEq
    rw [restEq]
    rfl
  · rename_i d rest notBoth restEq
    rw [restEq]
    refine (afterBreak_of_head?_ne fun isReturn feed => ?_).symm
    rcases List.head?_eq_some_iff.mp feed with ⟨later, rfl⟩
    exact notBoth later isReturn rfl
  · rename_i restEq
    rw [restEq]
    rfl

theorem takeBreak_column {c : Cursor} (notEnd : c.rest ≠ []) : c.takeBreak.2.column = 0 := by
  unfold takeBreak
  split
  · rfl
  · rfl
  · contradiction

/-- A line end of one character. -/
theorem takeBreak_of_ne {c : Cursor} {d : Char} {rest : List Char} (restEq : c.rest = d :: rest)
    (notReturn : d ≠ '\r') :
    c.takeBreak =
      ([if d = '\u2028' ∨ d = '\u2029' then d else '\n'], ⟨rest, c.index + 1, c.line + 1, 0⟩) := by
  unfold takeBreak
  split
  · rename_i equal
    rw [restEq] at equal
    exact absurd (List.cons.inj equal).1 notReturn
  · rename_i equal
    rw [restEq] at equal
    cases equal
    rfl
  · rename_i equal
    rw [restEq] at equal
    contradiction

/-! ## Text that is passed over -/

/-- One place comes after the text `s` from another: it counts the characters,
and is on the same line, as many columns further, only if none of them ends a
line. -/
structure Passed (s : List Char) (c c' : Cursor) : Prop where
  rest : c.rest = s ++ c'.rest
  index : c'.index = c.index + s.length
  line_le : c.line ≤ c'.line
  line_eq_iff : c'.line = c.line ↔ ∀ d ∈ s, isBreak d = false
  column : (∀ d ∈ s, isBreak d = false) → c'.column = c.column + s.length

namespace Passed

variable {s t : List Char} {c c' c'' : Cursor}

theorem trans (first : Passed s c c') (second : Passed t c' c'') : Passed (s ++ t) c c'' where
  rest := by rw [first.rest, second.rest, List.append_assoc]
  index := by rw [second.index, first.index, List.length_append, Nat.add_assoc]
  line_le := first.line_le.trans second.line_le
  line_eq_iff := by
    have firstLe := first.line_le
    have secondLe := second.line_le
    rw [List.forall_mem_append, ← first.line_eq_iff, ← second.line_eq_iff]
    omega
  column := by
    intro inside
    rw [List.forall_mem_append] at inside
    rw [second.column inside.2, first.column inside.1, List.length_append, Nat.add_assoc]

theorem next {d : Char} {rest : List Char} (restEq : c.rest = d :: rest)
    (inside : isBreak d = false) : Passed [d] c c.next := by
  rw [next_of_cons restEq]
  exact ⟨restEq, rfl, Nat.le_refl _, by simp [inside], fun _ => rfl⟩

theorem advance {n : Nat} (enough : n ≤ c.rest.length)
    (inside : ∀ d ∈ c.rest.take n, isBreak d = false) :
    Passed (c.rest.take n) c (c.advance n) where
  rest := (List.take_append_drop n c.rest).symm
  index := by rw [List.length_take, Nat.min_eq_left enough, Cursor.advance]
  line_le := Nat.le_refl _
  line_eq_iff := iff_of_true rfl inside
  column := by
    intro _
    rw [List.length_take, Nat.min_eq_left enough, Cursor.advance]

theorem forward {rest : List Char} (restEq : c.rest = s ++ rest)
    (inside : ∀ d ∈ s, isBreak d = false) : Passed s c (c.forward s.length) := by
  have enough : s.length ≤ c.rest.length := by
    rw [restEq, List.length_append]
    exact Nat.le_add_right _ _
  have taken : c.rest.take s.length = s := by rw [restEq, List.take_left]
  rw [forward_eq_advance enough]
  have passed := advance enough (by rwa [taken])
  rwa [taken] at passed

theorem skipWhile {p : Char → Bool} (inside : ∀ d, p d → isBreak d = false) :
    Passed (c.rest.takeWhile p) c (c.skipWhile p) := by
  apply forward List.takeWhile_append_dropWhile.symm
  exact fun d member => inside d (List.mem_takeWhile_imp member)

theorem takeBreak_of_ne {d : Char} {rest : List Char} (restEq : c.rest = d :: rest)
    (ends : isBreak d) (notReturn : d ≠ '\r') : Passed [d] c c.takeBreak.2 := by
  rw [Cursor.takeBreak_of_ne restEq notReturn]
  exact ⟨restEq, rfl, Nat.le_succ _, by simp [ends], by simp [ends]⟩

theorem takeBreak {d : Char} {rest : List Char} (restEq : c.rest = d :: rest)
    (ends : isBreak d) :
    ∃ s, s ≠ [] ∧ (∀ e ∈ s, isBreak e) ∧ Passed s c c.takeBreak.2 := by
  rcases c with ⟨text, index, line, column⟩
  simp only at restEq
  subst restEq
  unfold Cursor.takeBreak
  split
  · rename_i equal
    simp only at equal
    rw [equal]
    refine ⟨['\r', '\n'], by simp, by decide, rfl, rfl, Nat.le_succ _, ?_, ?_⟩
    · simp [isBreak]
    · simp [isBreak]
  · rename_i equal
    cases equal
    exact ⟨[d], by simp, by simpa using ends, rfl, rfl, Nat.le_succ _, by simp [ends],
      by simp [ends]⟩
  · contradiction

end Passed

end Cursor
end PolicyScan.Yaml
