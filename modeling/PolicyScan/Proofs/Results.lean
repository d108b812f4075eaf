import Mathlib.Algebra.BigOperators.Group.List.Basic
import Mathlib.Algebra.GroupWithZero.Nat
import Mathlib.Data.List.Nodup
import PolicyScan.Results

/-!
# Results in order

Documents are put in order one after the other, each behind those of the same position
(`inOrder_isStable`).  The order matters neither for which documents there are nor for
the number of their violations, and there is only one (`IsStable.unique`).
-/

namespace PolicyScan.Results

/-- The documents by position, those of equal positions as they were. -/
structure IsStable (scanned order : List Scanned) : Prop where
  perm : order.Perm scanned
  ascending : order.Pairwise fun s t => s.position ≤ t.position
  filter_eq : ∀ position : Nat,
    order.filter (·.position = position) = scanned.filter (·.position = position)

variable {s : Scanned} {scanned order : List Scanned}

/-! ## One document more -/

theorem insertByPosition_perm (s : Scanned) (order : List Scanned) :
    (insertByPosition s order).Perm (s :: order) := by
  induction order with
  | nil => exact .refl _
  | cons t order ih =>
      rw [insertByPosition]
      split
      · exact .refl _
      · exact (ih.cons t).trans (.swap s t order)

theorem insertByPosition_ascending (ascending : order.Pairwise fun s t => s.position ≤ t.position) :
    (insertByPosition s order).Pairwise fun s t => s.position ≤ t.position := by
  induction order with
  | nil => exact List.pairwise_singleton _ s
  | cons t order ih =>
      rw [List.pairwise_cons] at ascending
      rw [insertByPosition]
      split
      · next before =>
          rw [List.pairwise_cons, List.pairwise_cons, List.forall_mem_cons]
          refine ⟨⟨Nat.le_of_lt before, ?_⟩, ascending⟩
          intro later member
          exact Nat.le_trans (Nat.le_of_lt before) (ascending.1 later member)
      · next behind =>
          rw [List.pairwise_cons]
          constructor
          · intro later member
            rcases List.mem_cons.mp ((insertByPosition_perm s order).mem_iff.mp member) with
              rfl | member
            · exact Nat.le_of_not_lt behind
            · exact ascending.1 later member
          · exact ih ascending.2

/-- The new document comes last among those of its position. -/
theorem filter_insertByPosition (ascending : order.Pairwise fun s t => s.position ≤ t.position)
    (position : Nat) :
    (insertByPosition s order).filter (·.position = position) =
      order.filter (·.position = position) ++ [s].filter (·.position = position) := by
  induction order with
  | nil => rfl
  | cons t order ih =>
      rw [List.pairwise_cons] at ascending
      rw [insertByPosition]
      split
      · next before =>
          by_cases same : s.position = position
          · have noneLeft : (t :: order).filter (·.position = position) = [] := by
              rw [List.filter_eq_nil_iff, List.forall_mem_cons]
              constructor
              · simp only [decide_eq_true_eq]
                omega
              · intro later member
                have := ascending.1 later member
                simp only [decide_eq_true_eq]
                omega
            rw [List.filter_cons_of_pos (by simpa using same), noneLeft, List.nil_append,
              List.filter_cons_of_pos (by simpa using same), List.filter_nil]
          · rw [List.filter_cons_of_neg (by simpa using same),
              List.filter_cons_of_neg (a := s) (by simpa using same), List.filter_nil,
              List.append_nil]
      · rw [List.filter_cons, List.filter_cons, ih ascending.2]
        split <;> rfl

theorem IsStable.insertByPosition (stable : IsStable scanned order) (s : Scanned) :
    IsStable (scanned ++ [s]) (insertByPosition s order) where
  perm :=
    (insertByPosition_perm s order).trans
      ((stable.perm.cons s).trans (List.perm_append_singleton s scanned).symm)
  ascending := insertByPosition_ascending stable.ascending
  filter_eq position := by
    rw [filter_insertByPosition stable.ascending, stable.filter_eq, List.filter_append]

/-! ## All documents -/

theorem inOrder_isStable (results : Results) : IsStable results.scanned results.inOrder := by
  have fold {done order : List Scanned} (stable : IsStable done order) (rest : List Scanned) :
      IsStable (done ++ rest) (rest.foldl (fun acc s => Results.insertByPosition s acc) order) := by
    induction rest generalizing done order with
    | nil => rw [List.append_nil]; exact stable
    | cons s rest ih =>
        rw [List.append_cons]
        exact ih (stable.insertByPosition s)
  exact fold ⟨.refl _, .nil, fun _ => rfl⟩ results.scanned

theorem violationCount_eq (results : Results) (threshold : Severity) :
    results.violationCount threshold =
      (results.scanned.map fun s => (s.violationsFrom threshold).length).sum := by
  rw [violationCount, List.sum_eq_foldl, List.foldl_map]

/-- The violations are counted alike in order. -/
theorem violationCount_eq_inOrder (results : Results) (threshold : Severity) :
    results.violationCount threshold =
      (results.inOrder.map fun s => (s.violationsFrom threshold).length).sum := by
  rw [violationCount_eq]
  exact ((inOrder_isStable results).perm.map _).sum_eq.symm

/-- A document has violations at or above the threshold if they are not all left out. -/
theorem violationsFrom_ne_nil_iff {s : Scanned} {threshold : Severity} :
    s.violationsFrom threshold ≠ [] ↔ ∃ v ∈ s.violations, threshold ≤ v.severity := by
  simp [Scanned.violationsFrom, List.filter_eq_nil_iff]

theorem violationCount_pos_iff {results : Results} {threshold : Severity} :
    0 < results.violationCount threshold ↔
      ∃ s ∈ results.scanned, ∃ v ∈ s.violations, threshold ≤ v.severity := by
  rw [violationCount_eq, List.sum_pos_iff_exists_pos_nat]
  simp only [List.mem_map, exists_exists_and_eq_and, List.length_pos_iff,
    violationsFrom_ne_nil_iff]

/-! ## One order only -/

section

variable {other : List Scanned}

theorem mem_iff_of_filter_eq
    (same : ∀ position : Nat,
      order.filter (·.position = position) = other.filter (·.position = position))
    (s : Scanned) : s ∈ order ↔ s ∈ other := by
  have at_position := congrArg (s ∈ ·) (same s.position)
  simpa using at_position

/-- Ascending lists are the same if they have the same documents at each position, in
the same order. -/
theorem eq_of_filter_eq (ascending : order.Pairwise fun s t => s.position ≤ t.position)
    (otherAscending : other.Pairwise fun s t => s.position ≤ t.position)
    (same : ∀ position : Nat,
      order.filter (·.position = position) = other.filter (·.position = position)) :
    order = other := by
  have mem_iff := mem_iff_of_filter_eq same
  induction order generalizing other with
  | nil =>
      exact (List.eq_nil_iff_forall_not_mem.mpr fun s member =>
        List.not_mem_nil ((mem_iff s).mpr member)).symm
  | cons s order ih =>
      cases other with
      | nil => exact absurd ((mem_iff s).mp List.mem_cons_self) List.not_mem_nil
      | cons t other =>
          rw [List.pairwise_cons] at ascending otherAscending
          have least {u v : Scanned} {list : List Scanned}
              (first : ∀ v ∈ list, u.position ≤ v.position) (member : v ∈ u :: list) :
              u.position ≤ v.position := by
            rcases List.mem_cons.mp member with rfl | later
            · exact Nat.le_refl _
            · exact first v later
          -- Both lists start with the least position that they have.
          have level : s.position = t.position :=
            Nat.le_antisymm (least ascending.1 ((mem_iff t).mpr List.mem_cons_self))
              (least otherAscending.1 ((mem_iff s).mp List.mem_cons_self))
          have heads := same s.position
          rw [List.filter_cons_of_pos (by simp), List.filter_cons_of_pos (by simp [level])] at heads
          obtain ⟨rfl, -⟩ := List.cons.inj heads
          have tails : ∀ position : Nat,
              order.filter (·.position = position) = other.filter (·.position = position) := by
            intro position
            have whole := same position
            rw [List.filter_cons, List.filter_cons] at whole
            split at whole
            · exact (List.cons.inj whole).2
            · exact whole
          rw [ih ascending.2 otherAscending.2 tails (mem_iff_of_filter_eq tails)]

/-- There is one stable order. -/
theorem IsStable.unique (stable : IsStable scanned order) (otherStable : IsStable scanned other) :
    order = other :=
  eq_of_filter_eq stable.ascending otherStable.ascending fun position => by
    rw [stable.filter_eq, otherStable.filter_eq]

/-- Ascending documents are in order as they are. -/
theorem isStable_of_ascending (ascending : scanned.Pairwise fun s t => s.position ≤ t.position) :
    IsStable scanned scanned :=
  ⟨.refl _, ascending, fun _ => rfl⟩

/-- The order only depends on which documents stand at each position, and in which
order. -/
theorem inOrder_eq_of_filter_eq {results changed : Results}
    (same : ∀ position : Nat,
      results.scanned.filter (·.position = position) =
        changed.scanned.filter (·.position = position)) :
    results.inOrder = changed.inOrder := by
  have stable := inOrder_isStable results
  have changedStable := inOrder_isStable changed
  refine eq_of_filter_eq stable.ascending changedStable.ascending fun position => ?_
  rw [stable.filter_eq, changedStable.filter_eq, same]

/-- Documents of different positions have one order. -/
theorem inOrder_eq_of_perm {results changed : Results}
    (perm : changed.scanned.Perm results.scanned)
    (different : (results.scanned.map Scanned.position).Nodup) :
    changed.inOrder = results.inOrder := by
  have stable := inOrder_isStable results
  have changedStable := inOrder_isStable changed
  refine List.Perm.eq_of_pairwise ?_ changedStable.ascending stable.ascending
    (changedStable.perm.trans (perm.trans stable.perm.symm))
  intro s t member otherMember atMost atLeast
  have member : s ∈ results.scanned := perm.mem_iff.mp (changedStable.perm.mem_iff.mp member)
  have otherMember : t ∈ results.scanned := stable.perm.mem_iff.mp otherMember
  exact List.inj_on_of_nodup_map different member otherMember (Nat.le_antisymm atMost atLeast)

/-- Neighbours of different positions may change places. -/
theorem inOrder_swap {before after : List Scanned} {s t : Scanned} {unscanned : List Unscanned}
    (different : s.position ≠ t.position) :
    inOrder ⟨before ++ s :: t :: after, unscanned⟩ =
      inOrder ⟨before ++ t :: s :: after, unscanned⟩ := by
  refine inOrder_eq_of_filter_eq fun position => ?_
  simp only [List.filter_append, List.filter_cons, decide_eq_true_eq]
  by_cases here : s.position = position
  · have elsewhere : t.position ≠ position := fun there => different (here.trans there.symm)
    simp only [if_pos here, if_neg elsewhere]
  · simp only [if_neg here]

end

end PolicyScan.Results
