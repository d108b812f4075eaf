import PolicyScan.Proofs.Outcome
import PolicyScan.Text.Utf8

/-!
# UTF-8 both ways

A character is written as one sequence of bytes (`Sequence`), and reading finds
a character exactly where its sequence stands.  So bytes are decoded to a text
exactly if the text is encoded to them (`decode?_eq_some_iff`), and lossy
decoding changes nothing about such bytes (`decodeLossy_encode`).
-/

namespace PolicyScan.Utf8

/-! ## The bytes of one character -/

/-- The range of the bytes that continue a sequence. -/
def Continues (b : UInt8) : Prop := 0x80 ≤ b.toNat ∧ b.toNat ≤ 0xBF

theorem isContinuation_iff {b : UInt8} : isContinuation b ↔ Continues b := by
  simp [isContinuation, Continues, UInt8.le_iff_toNat_le]

theorem secondOfThree_iff {a b : UInt8} : secondOfThree a b ↔
    Continues b ∧ (a.toNat = 0xE0 → 0xA0 ≤ b.toNat) ∧ (a.toNat = 0xED → b.toNat ≤ 0x9F) := by
  simp only [secondOfThree, ← UInt8.toNat_inj, isContinuation, UInt8.le_iff_toNat_le, Continues]
  split <;> [skip; split] <;> simp_all <;> omega

theorem secondOfFour_iff {a b : UInt8} : secondOfFour a b ↔
    Continues b ∧ (a.toNat = 0xF0 → 0x90 ≤ b.toNat) ∧ (a.toNat = 0xF4 → b.toNat ≤ 0x8F) := by
  simp only [secondOfFour, ← UInt8.toNat_inj, isContinuation, UInt8.le_iff_toNat_le, Continues]
  split <;> [skip; split] <;> simp_all <;> omega

/-- The bytes of one character, with its number. -/
inductive Sequence : List UInt8 → Nat → Prop
  | one {a : UInt8} (first : a.toNat < 0x80) : Sequence [a] a.toNat
  | two {a b : UInt8} (first : 0xC2 ≤ a.toNat ∧ a.toNat ≤ 0xDF) (second : Continues b) :
      Sequence [a, b] (a.toNat % 32 * 64 + payload b)
  | three {a b c : UInt8} (first : 0xE0 ≤ a.toNat ∧ a.toNat ≤ 0xEF) (second : Continues b)
      (short : a.toNat = 0xE0 → 0xA0 ≤ b.toNat) (surrogate : a.toNat = 0xED → b.toNat ≤ 0x9F)
      (third : Continues c) :
      Sequence [a, b, c] ((a.toNat % 16 * 64 + payload b) * 64 + payload c)
  | four {a b c d : UInt8} (first : 0xF0 ≤ a.toNat ∧ a.toNat ≤ 0xF4) (second : Continues b)
      (short : a.toNat = 0xF0 → 0x90 ≤ b.toNat) (great : a.toNat = 0xF4 → b.toNat ≤ 0x8F)
      (third : Continues c) (fourth : Continues d) :
      Sequence [a, b, c, d] (((a.toNat % 8 * 64 + payload b) * 64 + payload c) * 64 + payload d)

namespace Sequence

variable {s t : List UInt8} {n : Nat}

/-- It is read as that character. -/
theorem pieces_append (sequence : Sequence s n) (rest : List UInt8) :
    pieces (s ++ rest) = some (Char.ofNat n) :: pieces rest := by
  cases sequence with
  | one first =>
      rw [List.singleton_append, pieces.eq_def]
      simp [UInt8.lt_iff_toNat_lt, first]
  | @two a b first second =>
      have notOne : ¬ a.toNat < 0x80 := by omega
      rw [List.cons_append, List.singleton_append, pieces.eq_def]
      simp [UInt8.lt_iff_toNat_lt, UInt8.le_iff_toNat_le, isContinuation_iff, *]
  | @three a b c first second short surrogate third =>
      have notOne : ¬ a.toNat < 0x80 := by omega
      have notTwo : ¬ a.toNat ≤ 0xDF := by omega
      have start : secondOfThree a b := secondOfThree_iff.mpr ⟨second, short, surrogate⟩
      rw [List.cons_append, List.cons_append, List.singleton_append, pieces.eq_def]
      simp [UInt8.lt_iff_toNat_lt, UInt8.le_iff_toNat_le, isContinuation_iff, *]
  | @four a b c d first second short great third fourth =>
      have notOne : ¬ a.toNat < 0x80 := by omega
      have notTwo : ¬ a.toNat ≤ 0xDF := by omega
      have notThree : ¬ a.toNat ≤ 0xEF := by omega
      have start : secondOfFour a b := secondOfFour_iff.mpr ⟨second, short, great⟩
      rw [List.cons_append, List.cons_append, List.cons_append, List.singleton_append,
        pieces.eq_def]
      simp [UInt8.lt_iff_toNat_lt, UInt8.le_iff_toNat_le, isContinuation_iff, *]

/-- How long a sequence is tells in which range its number lies. -/
theorem range (sequence : Sequence s n) :
    s.length = 1 ∧ n < 0x80 ∨ s.length = 2 ∧ 0x80 ≤ n ∧ n < 0x800 ∨
      s.length = 3 ∧ (0x800 ≤ n ∧ n < 0xD800 ∨ 0xE000 ≤ n ∧ n < 0x10000) ∨
      s.length = 4 ∧ 0x10000 ≤ n ∧ n < 0x110000 := by
  cases sequence with
  | one first => exact .inl ⟨rfl, first⟩
  | two first second =>
      rw [Continues] at second
      refine .inr (.inl ⟨rfl, ?_⟩)
      rw [payload]
      omega
  | three first second short surrogate third =>
      rw [Continues] at second third
      refine .inr (.inr (.inl ⟨rfl, ?_⟩))
      rw [payload, payload]
      omega
  | four first second short great third fourth =>
      rw [Continues] at second third fourth
      refine .inr (.inr (.inr ⟨rfl, ?_⟩))
      rw [payload, payload, payload]
      omega

theorem isValidChar (sequence : Sequence s n) : n.isValidChar := by
  have range := sequence.range
  rw [Nat.isValidChar]
  omega

/-- A character has only one sequence. -/
theorem unique (first : Sequence s n) (second : Sequence t n) : s = t := by
  have sameLength : s.length = t.length := by
    have firstRange := first.range
    have secondRange := second.range
    omega
  revert second
  generalize numberEq : n = m
  intro second
  cases first <;> cases second <;> cases sameLength <;>
    simp only [Continues, payload, List.cons.injEq, ← UInt8.toNat_inj, and_true] at * <;> omega

theorem encodeChar (c : Char) : Sequence (String.utf8EncodeChar c) c.toNat := by
  have valid : c.val.toNat < 0xD800 ∨ 0xDFFF < c.val.toNat ∧ c.val.toNat < 0x110000 := c.valid
  have byte (k : Nat) (small : k < 256) : (UInt8.ofNat k).toNat = k :=
    UInt8.toNat_ofNat_of_lt' small
  change Sequence _ c.val.toNat
  unfold String.utf8EncodeChar
  generalize c.val.toNat = v at valid ⊢
  dsimp only
  split
  · have first := byte v (by omega)
    have sequence := @one (UInt8.ofNat v) (by omega)
    rwa [first] at sequence
  split
  · have first := byte (v / 64 % 0x20 + 0xC0) (by omega)
    have second := byte (v % 0x40 + 0x80) (by omega)
    have sequence := @two (UInt8.ofNat (v / 64 % 0x20 + 0xC0)) (UInt8.ofNat (v % 0x40 + 0x80))
      (by omega) (by rw [Continues]; omega)
    have number : (v / 64 % 0x20 + 0xC0) % 32 * 64 + (v % 0x40 + 0x80) % 64 = v := by omega
    rwa [payload, first, second, number] at sequence
  split
  · have first := byte (v / 4096 % 0x10 + 0xE0) (by omega)
    have second := byte (v / 64 % 0x40 + 0x80) (by omega)
    have third := byte (v % 0x40 + 0x80) (by omega)
    have sequence := @three (UInt8.ofNat (v / 4096 % 0x10 + 0xE0))
      (UInt8.ofNat (v / 64 % 0x40 + 0x80)) (UInt8.ofNat (v % 0x40 + 0x80))
      (by omega) (by rw [Continues]; omega) (by omega) (by omega) (by rw [Continues]; omega)
    have number : ((v / 4096 % 0x10 + 0xE0) % 16 * 64 + (v / 64 % 0x40 + 0x80) % 64) * 64 +
        (v % 0x40 + 0x80) % 64 = v := by omega
    rwa [payload, payload, first, second, third, number] at sequence
  · have first := byte (v / 262144 % 0x08 + 0xF0) (by omega)
    have second := byte (v / 4096 % 0x40 + 0x80) (by omega)
    have third := byte (v / 64 % 0x40 + 0x80) (by omega)
    have fourth := byte (v % 0x40 + 0x80) (by omega)
    have sequence := @four (UInt8.ofNat (v / 262144 % 0x08 + 0xF0))
      (UInt8.ofNat (v / 4096 % 0x40 + 0x80)) (UInt8.ofNat (v / 64 % 0x40 + 0x80))
      (UInt8.ofNat (v % 0x40 + 0x80)) (by omega) (by rw [Continues]; omega) (by omega) (by omega)
      (by rw [Continues]; omega) (by rw [Continues]; omega)
    have number : (((v / 262144 % 0x08 + 0xF0) % 8 * 64 + (v / 4096 % 0x40 + 0x80) % 64) * 64 +
        (v / 64 % 0x40 + 0x80) % 64) * 64 + (v % 0x40 + 0x80) % 64 = v := by omega
    rwa [payload, payload, payload, first, second, third, fourth, number] at sequence

/-- A sequence is what its character is encoded to. -/
theorem eq_encodeChar (sequence : Sequence s n) : s = String.utf8EncodeChar (Char.ofNat n) := by
  have encoded := encodeChar (Char.ofNat n)
  have number : (Char.ofNat n).toNat = n := by
    rw [Char.ofNat, dif_pos sequence.isValidChar]
    rfl
  rw [number] at encoded
  exact sequence.unique encoded

end Sequence

/-! ## Reading and writing texts -/

/-- What a character is encoded to is read as that character. -/
theorem pieces_encodeChar_append (c : Char) (rest : List UInt8) :
    pieces (String.utf8EncodeChar c ++ rest) = some c :: pieces rest := by
  rw [(Sequence.encodeChar c).pieces_append, Char.ofNat_toNat]

theorem encode_append (s t : String) : encode (s ++ t) = encode s ++ encode t := by
  rw [encode, String.toList_append, List.flatMap_append]
  rfl

theorem pieces_encode (text : String) : pieces (encode text) = text.toList.map some := by
  rw [encode]
  induction text.toList with
  | nil => rfl
  | cons c rest ih => rw [List.flatMap_cons, pieces_encodeChar_append, ih, List.map_cons]

/-- The bytes of a text are decoded to it. -/
@[simp]
theorem decodeLossy_encode (text : String) : decodeLossy (encode text) = text := by
  rw [decodeLossy, pieces_encode, List.map_map]
  change String.ofList (text.toList.map id) = text
  rw [List.map_id, String.ofList_toList]

/-- Where a character is read, its bytes stand in front. -/
theorem exists_sequence {bytes : List UInt8} {c : Char} {more : List (Option Char)}
    (read : pieces bytes = some c :: more) :
    ∃ s n rest, Sequence s n ∧ c = Char.ofNat n ∧ bytes = s ++ rest ∧ pieces rest = more := by
  have done {s : List UInt8} {n : Nat} {rest : List UInt8} (sequence : Sequence s n)
      (read : some (Char.ofNat n) :: pieces rest = some c :: more) :
      ∃ t m others, Sequence t m ∧ c = Char.ofNat m ∧ s ++ rest = t ++ others ∧
        pieces others = more := by
    obtain ⟨charEq, restEq⟩ := List.cons.inj read
    exact ⟨s, n, rest, sequence, (Option.some.inj charEq).symm, rfl, restEq⟩
  revert read
  fun_cases pieces bytes with
  | case2 a s first => exact fun read => done (.one first) read
  | case3 a notOne first b s second =>
      rw [Bool.and_eq_true, decide_eq_true_iff, decide_eq_true_iff] at first
      exact fun read => done (.two first (isContinuation_iff.mp second)) read
  | case6 a notOne notTwo first b second c s third =>
      rw [Bool.and_eq_true, decide_eq_true_iff, decide_eq_true_iff] at first
      obtain ⟨continues, short, surrogate⟩ := secondOfThree_iff.mp second
      exact fun read =>
        done (.three first continues short surrogate (isContinuation_iff.mp third)) read
  | case11 a notOne notTwo notThree first b second c third d s fourth =>
      rw [Bool.and_eq_true, decide_eq_true_iff, decide_eq_true_iff] at first
      obtain ⟨continues, short, great⟩ := secondOfFour_iff.mp second
      exact fun read => done (.four first continues short great (isContinuation_iff.mp third)
        (isContinuation_iff.mp fourth)) read
  | _ => simp

theorem eq_flatMap_of_pieces {bytes : List UInt8} {chars : List Char}
    (read : pieces bytes = chars.map some) : bytes = chars.flatMap String.utf8EncodeChar := by
  induction chars generalizing bytes with
  | nil =>
      revert read
      fun_cases pieces bytes with
      | case1 => exact fun _ => rfl
      | _ => simp
  | cons c chars ih =>
      obtain ⟨s, n, rest, sequence, rfl, rfl, restEq⟩ := exists_sequence read
      rw [List.flatMap_cons, ← sequence.eq_encodeChar, ← ih restEq]

/-- Bytes are decoded to a text exactly if it is encoded to them. -/
theorem decode?_eq_some_iff {bytes : List UInt8} {text : String} :
    decode? bytes = some text ↔ bytes = encode text := by
  have all {list : List (Option Char)} {chars : List Char} :
      list.mapM id = some chars ↔ list = chars.map some := by
    rw [mapM_eq_some_iff, ← List.forall₂_eq_eq_eq, List.forall₂_map_right_iff]
    rfl
  rw [decode?, Option.map_eq_some_iff]
  constructor
  · rintro ⟨chars, read, rfl⟩
    rw [encode, String.toList_ofList]
    exact eq_flatMap_of_pieces (all.mp read)
  · rintro rfl
    exact ⟨text.toList, all.mpr (pieces_encode text), String.ofList_toList⟩

end PolicyScan.Utf8
