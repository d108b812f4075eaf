import Mathlib.Data.List.TakeDrop
import PolicyScan.Hcl.Body.Reader
import PolicyScan.Proofs.Json.Canonical

/-!
# Blocks with many labels

A block may have any number of labels, and its value is an object inside of one
object for its identifier and one for each label.  So the value of a text may
be nested as deep as one likes, though its blocks are not.
-/

namespace PolicyScan.Hcl

/-- The labels of a block and its empty body. -/
def labelsText : Nat → List Char
  | 0 => " \x7b\x7d\n".toList
  | n + 1 => ' ' :: 'a' :: labelsText n

/-- A block with an empty body and `n` labels. -/
def blockText (n : Nat) : String := String.ofList ('a' :: labelsText n)

/-- An object inside of `n` objects. -/
def nested : Nat → Json
  | 0 => .obj []
  | n + 1 => .obj [("a", nested n)]

theorem nested_depth (n : Nat) : (nested n).depth = n + 1 := by
  induction n with
  | zero => rfl
  | succ n ih => simp [nested, Json.depth, Json.depthFields, ih]

theorem nested_allInts (n : Nat) : (nested n).AllInts := by
  induction n with
  | zero => trivial
  | succ n ih => exact ⟨ih, trivial⟩

/-! ## Reading the block -/

theorem startsWord_a : startsWord 'a' = true := by decide

theorem continuesWord_space : continuesWord ' ' = false := by decide

theorem word_a_cons (rest : List Char) : word ('a' :: ' ' :: rest) = .ok ("a", ' ' :: rest) := by
  rw [word, if_pos startsWord_a]
  simp [List.span_eq_takeWhile_dropWhile, continuesWord_space]

theorem word_a (n : Nat) : word ('a' :: labelsText n) = .ok ("a", labelsText n) := by
  cases n with
  | zero => exact word_a_cons _
  | succ n => exact word_a_cons _

theorem skipGap_a (lines : Bool) (rest : List Char) :
    skipGap lines ('a' :: rest) = 'a' :: rest := by
  simp [skipGap, skipGapWithin]

theorem skipGap_space_a (rest : List Char) :
    skipGap false (' ' :: 'a' :: rest) = 'a' :: rest := by
  simp [skipGap, skipGapWithin]

theorem skipGap_brace : skipGap false " \x7b\x7d\n".toList = ['\x7b', '\x7d', '\n'] := by
  simp [skipGap, skipGapWithin]

theorem labels_a {s : List Char} {n : Nat} (start : skipGap false s = 'a' :: labelsText n)
    (fuel : Nat) (acc : List String) :
    labels (fuel + 1) s acc = labels fuel (labelsText n) ("a" :: acc) := by
  have read : label ('a' :: labelsText n) = .ok ("a", labelsText n) := word_a n
  rw [labels, start]
  simp [read, bind, Except.bind]

theorem labels_brace {s rest : List Char} (start : skipGap false s = '\x7b' :: rest) (fuel : Nat)
    (acc : List String) : labels (fuel + 1) s acc = .ok (acc.reverse, rest) := by
  rw [labels, start]
  rfl

theorem labels_labelsText (n fuel : Nat) (acc : List String) (enough : n < fuel) :
    labels fuel (labelsText n) acc =
      .ok (acc.reverse ++ List.replicate n "a", ['\x7d', '\n']) := by
  induction n generalizing fuel acc with
  | zero =>
      rcases fuel with _ | fuel
      · contradiction
      · rw [labelsText, labels_brace skipGap_brace]
        simp
  | succ n ih =>
      rcases fuel with _ | fuel
      · contradiction
      · rw [labelsText, labels_a (skipGap_space_a _), ih fuel ("a" :: acc) (by omega)]
        simp [List.replicate_succ]

theorem length_labelsText (n : Nat) : n < (labelsText n).length := by
  induction n with
  | zero => decide
  | succ n ih =>
      simp only [labelsText, List.length_cons]
      omega

theorem blockBody_empty (expr : ExprReader)
    (items : List Char → Except Fault (List Item × List Char)) :
    blockBody expr items ['\x7d', '\n'] = .ok ([], ['\n']) := by
  rfl

theorem bodyItems_nil (expr : ExprReader)
    (body : List Char → Except Fault (List Item × List Char)) (fuel : Nat) (acc : List Item) :
    bodyItems expr body (fuel + 1) [] acc = .ok (acc.reverse, []) := rfl

/-- One block is read, and then the items after it. -/
theorem bodyItems_block {expr : ExprReader}
    {body : List Char → Except Fault (List Item × List Char)} {fuel n : Nat} {c : Char}
    {s labelled after rest : List Char} {names : List String} {inner : List Item}
    {acc : List Item} (afterWord : skipGap false (labelsText n) = c :: s) (notAttribute : c ≠ '=')
    (labelsRead : labels ((c :: s).length + 1) (c :: s) [] = .ok (names, labelled))
    (bodyRead : body labelled = .ok (inner, after)) (ended : lineEnd? after = some rest) :
    bodyItems expr body (fuel + 1) ('a' :: labelsText n) acc =
      bodyItems expr body fuel rest (.block "a" names inner :: acc) := by
  rw [bodyItems, skipGap_a]
  simp [word_a, afterWord, bind, Except.bind]
  split
  · rename_i equal
    exact absurd (List.cons.inj equal).1 notAttribute
  · simp only [List.length_cons] at labelsRead
    simp [labelsRead, bodyRead, ended, pure, Except.pure]

/-- The block is read, and nothing comes after it. -/
theorem bodyItems_labelsText (expr : ExprReader)
    {body : List Char → Except Fault (List Item × List Char)}
    (empty : body ['\x7d', '\n'] = .ok ([], ['\n'])) (fuel n : Nat) :
    bodyItems expr body (fuel + 2) ('a' :: labelsText n) [] =
      .ok ([.block "a" (List.replicate n "a") []], []) := by
  have ended : lineEnd? ['\n'] = some [] := by
    simp [lineEnd?, skipGap, skipGapWithin]
  cases n with
  | zero =>
      have afterWord : skipGap false (labelsText 0) = ['\x7b', '\x7d', '\n'] := skipGap_brace
      have atBrace : skipGap false ['\x7b', '\x7d', '\n'] = ['\x7b', '\x7d', '\n'] := by
        simp [skipGap, skipGapWithin]
      rw [bodyItems_block afterWord (by decide) (labels_brace atBrace _ []) empty
        ended,
        bodyItems_nil]
      rfl
  | succ n =>
      have afterWord : skipGap false (labelsText (n + 1)) = 'a' :: labelsText n :=
        skipGap_space_a _
      have enough := length_labelsText n
      have labelsRead := labels_a (skipGap_a false (labelsText n)) ('a' :: labelsText n).length []
      rw [labels_labelsText n _ _ (by rw [List.length_cons]; omega)] at labelsRead
      rw [bodyItems_block afterWord (by decide) labelsRead empty ended,
        bodyItems_nil]
      rfl

theorem bodyWithin_succ (depth : Nat) (s : List Char) :
    bodyWithin (depth + 1) s =
      bodyItems (exprWithin (depth + 1)) (blockBody (exprWithin depth) (bodyWithin depth))
        (s.length + 1) s [] := rfl

theorem bodyWithin_blockText (depth n : Nat) :
    bodyWithin (depth + 1) (blockText n).toList =
      .ok ([.block "a" (List.replicate n "a") []], []) := by
  rw [blockText, String.toList_ofList, bodyWithin_succ, List.length_cons]
  exact bodyItems_labelsText _ (blockBody_empty _ _) (labelsText n).length n

/-! ## The value of the block -/

theorem addBlock_replicate (n : Nat) :
    ((Slot.addBlock (.ok (.obj [])) (List.replicate n "a") none).toJson) = .ok (nested n) := by
  induction n with
  | zero => rfl
  | succ n ih =>
      rw [List.replicate_succ, Slot.addBlock, Slot.toJson, Slot.fieldsOf, ih]
      · rfl
      · simp

theorem bodyToJson_block (n : Nat) :
    bodyToJson [.block "a" (List.replicate n "a") []] = .ok (nested (n + 1)) := by
  have object : (Slot.fieldsOf (slotsOf [] [])).map Json.obj = .ok (.obj []) := rfl
  rw [bodyToJson, slotsOf, slotsOf, addItem, object, Slot.updateAt, Slot.fieldsOf,
    addBlock_replicate]
  rfl

/-- A block with `n` labels is accepted, and its value nested `n + 2` deep. -/
theorem value_blockText (n : Nat) : value (blockText n) = .ok (nested (n + 1)) := by
  rw [value, show nestingLimit = 63 + 1 from rfl, bodyWithin_blockText]
  exact bodyToJson_block n

end PolicyScan.Hcl
