import Mathlib.Data.List.Forall2

/-!
# Outcomes

When a composed reader succeeds, each of its parts does, and it fails with the
fault of one of them.
-/

namespace PolicyScan

variable {ε δ α β : Type}

theorem map_eq_ok_iff {f : α → β} {x : Except ε α} {b : β} :
    x.map f = .ok b ↔ ∃ a, x = .ok a ∧ f a = b := by
  cases x <;> simp [Except.map]

theorem map_eq_error_iff {f : α → β} {x : Except ε α} {e : ε} :
    x.map f = .error e ↔ x = .error e := by
  cases x <;> simp [Except.map]

theorem bind_eq_ok_iff {f : α → Except ε β} {x : Except ε α} {b : β} :
    x >>= f = .ok b ↔ ∃ a, x = .ok a ∧ f a = .ok b := by
  cases x <;> simp [bind, Except.bind]

theorem mapError_eq_ok_iff {f : ε → δ} {x : Except ε α} {a : α} :
    x.mapError f = .ok a ↔ x = .ok a := by
  cases x <;> simp [Except.mapError]

theorem bind_eq_error_iff {f : α → Except ε β} {x : Except ε α} {e : ε} :
    x >>= f = .error e ↔ x = .error e ∨ ∃ a, x = .ok a ∧ f a = .error e := by
  cases x <;> simp [bind, Except.bind]

theorem mapError_eq_error_iff {f : ε → δ} {x : Except ε α} {e : δ} :
    x.mapError f = .error e ↔ ∃ cause, x = .error cause ∧ f cause = e := by
  cases x <;> simp [Except.mapError]

/-- Every result of a row of readings is the result of one of them. -/
theorem exists_of_mem_mapM {f : α → Except ε β} {l : List α} {bs : List β}
    (done : l.mapM f = .ok bs) {b : β} (member : b ∈ bs) : ∃ a ∈ l, f a = .ok b := by
  induction l generalizing bs with
  | nil =>
      cases done
      contradiction
  | cons a l ih =>
      rw [List.mapM_cons] at done
      obtain ⟨first, firstEq, done⟩ := bind_eq_ok_iff.mp done
      obtain ⟨others, othersEq, done⟩ := bind_eq_ok_iff.mp done
      cases done
      rcases List.mem_cons.mp member with rfl | member
      · exact ⟨a, List.mem_cons_self, firstEq⟩
      · obtain ⟨a, found, equal⟩ := ih othersEq member
        exact ⟨a, List.mem_cons_of_mem _ found, equal⟩

/-- A row of readings gives the results of all, for any meaning of giving a result that
is kept by one reading after another. -/
theorem gives_mapM_iff {m : Type → Type} [Monad m] [LawfulMonad m]
    (gives : ∀ γ : Type, m γ → γ → Prop)
    (gives_pure : ∀ (γ : Type) (a b : γ), gives γ (pure a) b ↔ a = b)
    (gives_bind : ∀ (γ γ' : Type) (x : m γ) (f : γ → m γ') (b : γ'),
      gives γ' (x >>= f) b ↔ ∃ a, gives γ x a ∧ gives γ' (f a) b)
    {f : α → m β} {l : List α} {bs : List β} :
    gives (List β) (l.mapM f) bs ↔ List.Forall₂ (fun a b => gives β (f a) b) l bs := by
  induction l generalizing bs with
  | nil => rw [List.mapM_nil, List.forall₂_nil_left_iff, gives_pure, eq_comm]
  | cons a l ih =>
      rw [List.mapM_cons, gives_bind]
      constructor
      · rintro ⟨first, firstGiven, given⟩
        obtain ⟨others, othersGiven, given⟩ := (gives_bind _ _ _ _ _).mp given
        rw [← (gives_pure _ _ _).mp given]
        exact .cons firstGiven (ih.mp othersGiven)
      · rintro (_ | ⟨firstGiven, othersGiven⟩)
        exact ⟨_, firstGiven, (gives_bind _ _ _ _ _).mpr
          ⟨_, ih.mpr othersGiven, (gives_pure _ _ _).mpr rfl⟩⟩

/-- A row of readings succeeds with the results of all. -/
theorem mapM_eq_ok_iff {f : α → Except ε β} {l : List α} {bs : List β} :
    l.mapM f = .ok bs ↔ List.Forall₂ (fun a b => f a = .ok b) l bs :=
  gives_mapM_iff (fun _ x b => x = Except.ok b) (fun _ _ _ => iff_of_eq (Except.ok.injEq _ _))
    fun _ _ _ _ _ => bind_eq_ok_iff

/-- It fails if one of them does. -/
theorem exists_mapM_eq_error_iff {f : α → Except ε β} {l : List α} :
    (∃ e, l.mapM f = .error e) ↔ ∃ a ∈ l, ∃ e, f a = .error e := by
  induction l with
  | nil =>
      rw [List.mapM_nil]
      exact iff_of_false (fun ⟨_, failed⟩ => nomatch failed) (by simp)
  | cons a l ih =>
      rw [List.mapM_cons, List.exists_mem_cons_iff, ← ih]
      cases first : f a with
      | error e => exact iff_of_true ⟨e, rfl⟩ (.inl ⟨e, rfl⟩)
      | ok b =>
          cases others : l.mapM f with
          | error e => exact iff_of_true ⟨e, rfl⟩ (.inr ⟨e, rfl⟩)
          | ok bs => exact iff_of_false (fun ⟨_, failed⟩ => nomatch failed) (by simp)

/-- It fails with the fault of the first that does. -/
theorem mapM_eq_error_iff {f : α → Except ε β} {l : List α} {e : ε} :
    l.mapM f = .error e ↔ ∃ before a after, l = before ++ a :: after ∧
      (∀ earlier ∈ before, ∃ b, f earlier = .ok b) ∧ f a = .error e := by
  induction l with
  | nil =>
      rw [List.mapM_nil]
      refine iff_of_false (fun failed => nomatch failed) ?_
      rintro ⟨before, a, after, impossible, -⟩
      simp at impossible
  | cons first l ih =>
      rw [List.mapM_cons]
      constructor
      · intro failed
        rcases bind_eq_error_iff.mp failed with firstFails | ⟨b, firstEq, failed⟩
        · exact ⟨[], first, l, rfl, by simp, firstFails⟩
        · rcases bind_eq_error_iff.mp failed with othersFail | ⟨_, -, impossible⟩
          · obtain ⟨before, a, after, rfl, earlier, fault⟩ := ih.mp othersFail
            exact ⟨first :: before, a, after, rfl,
              List.forall_mem_cons.mpr ⟨⟨b, firstEq⟩, earlier⟩, fault⟩
          · cases impossible
      · rintro ⟨before, a, after, listEq, earlier, fault⟩
        rw [bind_eq_error_iff]
        cases before with
        | nil =>
            obtain ⟨rfl, -⟩ := List.cons.inj listEq
            exact .inl fault
        | cons second before =>
            obtain ⟨rfl, rest⟩ := List.cons.inj listEq
            obtain ⟨⟨b, firstEq⟩, earlier⟩ := List.forall_mem_cons.mp earlier
            exact .inr ⟨b, firstEq, bind_eq_error_iff.mpr
              (.inl (ih.mpr ⟨before, a, after, rest, earlier, fault⟩))⟩

/-- If it is known of which it does, the first of these decides. -/
theorem mapM_eq_of_fails {f : α → Except ε β} {fails : α → Bool} {error : α → ε} {result : α → β}
    {l : List α} (each : ∀ a ∈ l, f a = if fails a then .error (error a) else .ok (result a)) :
    l.mapM f = match l.find? fails with
      | some a => .error (error a)
      | none => .ok (l.map result) := by
  induction l with
  | nil => rfl
  | cons a l ih =>
      obtain ⟨first, others⟩ := List.forall_mem_cons.mp each
      rw [List.mapM_cons, first, ih others, List.find?_cons]
      cases fails a with
      | true => rfl
      | false => cases l.find? fails <;> rfl

/-- A row of readings that give no reason for their failure succeeds with the results of
all. -/
theorem mapM_eq_some_iff {f : α → Option β} {l : List α} {bs : List β} :
    l.mapM f = some bs ↔ List.Forall₂ (fun a b => f a = some b) l bs :=
  gives_mapM_iff (fun _ x b => x = some b) (fun _ _ _ => Option.some_inj)
    fun _ _ _ _ _ => Option.bind_eq_some_iff

end PolicyScan
