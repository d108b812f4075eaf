import Mathlib.Data.List.Infix
import PolicyScan.Arguments
import PolicyScan.Proofs.Outcome

/-!
# What accepted arguments give

Each argument is read in one of four ways (`Reads`), and what is given after it is what
was given before and what it asks for.  So of the options that the subcommand alone has
accepted arguments give just those that stand among them, before the mark that ends the
options (`ofList_gives`).
-/

namespace PolicyScan.Arguments

/-! ## What arguments ask for -/

/-- What an argument can ask for. -/
inductive Wish where
  | set (flag : Flag)
  | fill (slot : Slot) (value : String)
deriving DecidableEq

/-- The switch that is needed. -/
def Wish.switch : Wish → Switch
  | set flag => .flag flag
  | fill slot _ => .slot slot

/-- Whether a level gives what is asked for. -/
def Given.Has (g : Given) : Wish → Prop
  | .set .verbose => 0 < g.verbose
  | .set .quiet => g.quiet
  | .set .json => g.json
  | .set .isolate => g.isolate
  | .set .noFail => g.noFail
  | .set .help => False
  | .set .version => False
  | .fill .config value => g.config? = some value
  | .fill .threshold value => g.threshold?.map Severity.name = some value
  | .fill .directory value => g.directory? = some value
  | .fill .path value => g.path? = some value

namespace Given

variable {g g' : Given}

theorem once_eq_ok_iff {old : Bool} : once old g = .ok g' ↔ old = false ∧ g = g' := by
  cases old <;> simp [once]

theorem text_eq_ok_iff {old new : Option String} {value : String} :
    text old value = .ok new ↔ old = none ∧ value ≠ "" ∧ new = some value := by
  cases old <;> by_cases empty : value = "" <;> simp [text, empty, eq_comm]

/-- At first nothing is given. -/
theorem not_has_empty (wish : Wish) : ¬Has {} wish := by
  rcases wish with flag | ⟨slot, value⟩
  · cases flag <;> simp [Has]
  · cases slot <;> simp [Has]

/-- A flag that is set is given from then on. -/
theorem has_set {flag : Flag} (done : g.set flag = .ok g') (wish : Wish) :
    g'.Has wish ↔ g.Has wish ∨ .set flag = wish := by
  cases flag with
  | verbose =>
      cases done
      rcases wish with other | ⟨slot, value⟩
      · cases other with
        | verbose => exact iff_of_true (Nat.lt_min.mpr ⟨Nat.succ_pos _, by decide⟩) (.inr rfl)
        | _ => simp [Has]
      · cases slot <;> simp [Has]
  | help => contradiction
  | version => contradiction
  | _ =>
      obtain ⟨unset, rfl⟩ := once_eq_ok_iff.mp done
      rcases wish with other | ⟨slot, value⟩
      · cases other <;> simp [Has]
      · cases slot <;> simp [Has]

/-- A slot that is filled has its value from then on. -/
theorem has_fill {slot : Slot} {value : String} (done : g.fill slot value = .ok g')
    (wish : Wish) : g'.Has wish ↔ g.Has wish ∨ .fill slot value = wish := by
  cases slot with
  | threshold =>
      rw [fill] at done
      split at done
      · contradiction
      · next unfilled =>
          split at done
          · next s known =>
              cases done
              rw [Bool.not_eq_true, Option.isSome_eq_false_iff, Option.isNone_iff_eq_none]
                at unfilled
              rcases wish with flag | ⟨other, value⟩
              · cases flag <;> simp [Has]
              · cases other <;> simp [Has, unfilled, Severity.name_of_ofName? known, eq_comm]
          · contradiction
  | _ =>
      obtain ⟨new, textEq, rfl⟩ := map_eq_ok_iff.mp done
      obtain ⟨unfilled, -, rfl⟩ := text_eq_ok_iff.mp textEq
      rcases wish with flag | ⟨other, value⟩
      · cases flag <;> simp [Has]
      · cases other <;> simp [Has, unfilled, eq_comm]

end Given

/-! ## One argument -/

namespace Progress

variable {p p' : Progress}

/-- Whether something is given, its value checked or not. -/
def Has (p : Progress) (wish : Wish) : Prop :=
  p.given.Has wish ∨ ∃ slot value, p.pending = some (slot, some value) ∧ .fill slot value = wish

/-- The slot that waits for its value. -/
def awaited? (p : Progress) : Option Slot :=
  match p.pending with
  | some (slot, none) => some slot
  | _ => none

/-- Reading goes on with what was given and with some wishes granted, and with a slot
that waits for its value; none waited before. -/
structure Grants (p : Progress) (asked : Wish → Prop) (waiting : Option Slot) (p' : Progress) :
    Prop where
  had : p.awaited? = none
  waits : p'.awaited? = waiting
  has : ∀ wish, p'.Has wish ↔ p.Has wish ∨ asked wish

theorem settle_eq_ok (done : p.settle = .ok p') :
    p.awaited? = none ∧ p'.pending = none ∧ ∀ wish, p'.given.Has wish ↔ p.Has wish := by
  unfold settle at done
  split at done
  · next nothing =>
      cases done
      exact ⟨by rw [awaited?, nothing], nothing, fun wish => by simp [Has, nothing]⟩
  · contradiction
  · next slot value waiting =>
      obtain ⟨g, filled, rfl⟩ := map_eq_ok_iff.mp done
      refine ⟨by rw [awaited?, waiting], rfl, fun wish => ?_⟩
      rw [Given.has_fill filled, Has, waiting]
      simp

/-- What is given right away is granted, and nothing waits. -/
theorem grants_of_settle {g : Given} {asked : Wish → Prop} (settled : p.settle = .ok p')
    (has : ∀ wish, g.Has wish ↔ p'.given.Has wish ∨ asked wish) :
    p.Grants asked none { p' with given := g } := by
  obtain ⟨had, nothing, same⟩ := settle_eq_ok settled
  refine ⟨had, by simp [awaited?, nothing], fun wish => ?_⟩
  rw [← same, ← has]
  simp [Has, nothing]

theorem set_eq_ok {flag : Flag} (done : p.set flag = .ok p') :
    p.Grants (Wish.set flag = ·) none p' := by
  obtain ⟨settled, settledEq, done⟩ := bind_eq_ok_iff.mp done
  obtain ⟨g, setEq, done⟩ := bind_eq_ok_iff.mp done
  cases done
  exact grants_of_settle settledEq (Given.has_set setEq)

theorem attach_eq_ok {slot : Slot} {value : String} (done : p.attach slot value = .ok p') :
    p.Grants (Wish.fill slot value = ·) none p' := by
  obtain ⟨settled, settledEq, done⟩ := bind_eq_ok_iff.mp done
  obtain ⟨g, fillEq, done⟩ := bind_eq_ok_iff.mp done
  cases done
  exact grants_of_settle settledEq (Given.has_fill fillEq)

theorem await_eq_ok {slot : Slot} {value? : Option String}
    (done : p.await slot value? = .ok p') :
    p.Grants (fun wish => ∃ value, value? = some value ∧ .fill slot value = wish)
      (if value?.isSome then none else some slot) p' := by
  obtain ⟨settled, settledEq, done⟩ := bind_eq_ok_iff.mp done
  cases done
  obtain ⟨had, -, same⟩ := settle_eq_ok settledEq
  cases value? with
  | none => exact ⟨had, rfl, fun wish => by simp [Has, same]⟩
  | some value => exact ⟨had, rfl, fun wish => by simp [Has, same]⟩

end Progress

/-! ## Options of the subcommand -/

/-- The name of a switch that the subcommand alone has. -/
def Switch.ownName? : Switch → Option String
  | .flag .json => some "json"
  | .flag .isolate => some "isolate-failures"
  | .flag .noFail => some "no-fail"
  | .slot .threshold => some "severity-threshold"
  | .slot .directory => some "cache-dir"
  | _ => none

section Own

variable {switch : Switch} {name : String}

theorem long?_inner_eq_some_iff (own : switch.ownName? = some name) (other : String) :
    Level.inner.long? other = some switch ↔ other = name := by
  constructor
  · intro found
    unfold Level.long? at found
    split at found <;> cases found <;> simp_all [Switch.ownName?]
  · rintro rfl
    unfold Switch.ownName? at own
    split at own <;> cases own <;> rfl

theorem long?_outer_eq_none (own : switch.ownName? = some name) :
    Level.outer.long? name = none := by
  unfold Switch.ownName? at own
  split at own <;> cases own <;> rfl

theorem short?_ne_some (own : switch.ownName? = some name) (level : Level) (c : Char) :
    level.short? c ≠ some switch := by
  intro found
  unfold Level.short? at found
  split at found <;> cases found <;> simp_all [Switch.ownName?]

theorem not_mem_of_ownName? (own : switch.ownName? = some name) : '=' ∉ name.toList := by
  unfold Switch.ownName? at own
  split at own <;> cases own <;> decide

end Own

theorem span_append {name : List Char} (noEquals : '=' ∉ name) (rest : List Char) :
    (name ++ rest).span (· ≠ '=') =
      (name ++ rest.takeWhile (· ≠ '='), rest.dropWhile (· ≠ '=')) := by
  have all : ∀ c ∈ name, decide (c ≠ '=') = true := by
    intro c member
    rw [decide_eq_true_iff]
    rintro rfl
    exact noEquals member
  rw [List.span_eq_takeWhile_dropWhile, List.takeWhile_append_of_pos all,
    List.dropWhile_append_of_pos all]

theorem splitAtEquals_of_not_mem {s : List Char} (noEquals : '=' ∉ s) :
    splitAtEquals s = (String.ofList s, none) := by
  have spanned := span_append noEquals []
  rw [List.append_nil] at spanned
  rw [splitAtEquals, spanned]
  simp

theorem splitAtEquals_append {name : List Char} (noEquals : '=' ∉ name) (value : List Char) :
    splitAtEquals (name ++ '=' :: value) = (String.ofList name, some (String.ofList value)) := by
  rw [splitAtEquals, span_append noEquals]
  simp

theorem splitAtEquals_eq_iff {s : List Char} {name : String} {value? : Option String} :
    splitAtEquals s = (name, value?) ↔
      '=' ∉ name.toList ∧ s = name.toList ++ value?.elim [] fun value => '=' :: value.toList := by
  constructor
  · intro parts
    by_cases equals : '=' ∈ s
    · obtain ⟨before, after, rfl, noEquals⟩ := List.eq_append_cons_of_mem equals
      rw [splitAtEquals_append noEquals] at parts
      cases parts
      simp [noEquals]
    · rw [splitAtEquals_of_not_mem equals] at parts
      cases parts
      simp [equals]
  · rintro ⟨noEquals, rfl⟩
    cases value? with
    | none =>
        rw [Option.elim_none, List.append_nil, splitAtEquals_of_not_mem noEquals,
          String.ofList_toList]
    | some value =>
        rw [Option.elim_some, splitAtEquals_append noEquals, String.ofList_toList,
          String.ofList_toList]

namespace Wish

/-- The long argument that asks for something, given the name of its switch. -/
def spelled (name : String) : Wish → String
  | set _ => "--" ++ name
  | fill _ value => "--" ++ name ++ "=" ++ value

/-- Some argument asks for it, or an argument and its value behind it do. -/
def In (name : String) (options : List String) (wish : Wish) : Prop :=
  wish.spelled name ∈ options ∨
    ∃ slot value, wish = .fill slot value ∧ ["--" ++ name, value] <:+: options

/-- The value that is waited for comes next. -/
def Next (awaited? : Option Slot) (options : List String) (wish : Wish) : Prop :=
  ∃ slot value, wish = .fill slot value ∧ awaited? = some slot ∧ options.head? = some value

variable {name : String} {options : List String} {wish : Wish}

theorem not_in_nil : ¬wish.In name [] := by
  simp [In]

theorem in_cons_iff {arg : String} :
    wish.In name (arg :: options) ↔ arg = wish.spelled name ∨
      (∃ slot value, wish = .fill slot value ∧ arg = "--" ++ name ∧ options.head? = some value) ∨
        wish.In name options := by
  have next (value : String) : [value] <+: options ↔ options.head? = some value := by
    cases options with
    | nil => simp
    | cons option rest =>
        rw [List.cons_prefix_cons, List.head?_cons, Option.some.injEq, eq_comm]
        exact and_iff_left (List.nil_prefix)
  have pair (value : String) : ["--" ++ name, value] <:+: arg :: options ↔
      arg = "--" ++ name ∧ options.head? = some value ∨ ["--" ++ name, value] <:+: options := by
    rw [List.infix_cons_iff, List.cons_prefix_cons, next, @eq_comm _ arg]
  simp only [In, List.mem_cons, pair]
  rw [@eq_comm _ arg]
  constructor
  · rintro ((here | later) | ⟨slot, value, isFill, here | later⟩)
    · exact .inl here.symm
    · exact .inr (.inr (.inl later))
    · exact .inr (.inl ⟨slot, value, isFill, here⟩)
    · exact .inr (.inr (.inr ⟨slot, value, isFill, later⟩))
  · rintro (here | ⟨slot, value, isFill, here⟩ | later | ⟨slot, value, isFill, later⟩)
    · exact .inl (.inl here.symm)
    · exact .inr ⟨slot, value, isFill, .inl here⟩
    · exact .inl (.inr later)
    · exact .inr ⟨slot, value, isFill, .inr later⟩

/-- Arguments that ask for something else do not matter in front. -/
theorem in_append_iff {before : List String}
    (other : ∀ arg ∈ before, arg ≠ wish.spelled name ∧ arg ≠ "--" ++ name) :
    wish.In name (before ++ options) ↔ wish.In name options := by
  induction before with
  | nil => rfl
  | cons arg before ih =>
      rw [List.forall_mem_cons] at other
      rw [List.cons_append, in_cons_iff, ih other.2]
      simp [other.1]

end Wish

section Long

variable {arg name : String} {s : List Char} {p p' : Progress} {wish : Wish}

theorem eq_long_iff (argEq : arg.toList = '-' :: '-' :: s) (noEquals : '=' ∉ name.toList) :
    arg = "--" ++ name ↔ splitAtEquals s = (name, none) := by
  rw [splitAtEquals_eq_iff, ← String.toList_inj, argEq]
  simp [noEquals]

theorem eq_attached_iff (argEq : arg.toList = '-' :: '-' :: s) (noEquals : '=' ∉ name.toList)
    (value : String) :
    arg = "--" ++ name ++ "=" ++ value ↔ splitAtEquals s = (name, some value) := by
  rw [splitAtEquals_eq_iff, ← String.toList_inj, argEq]
  simp [noEquals]

/-- A long option grants what it asks for, or lets its slot wait. -/
theorem long_eq_ok (done : long .inner p s = .ok p') (argEq : arg.toList = '-' :: '-' :: s)
    (own : wish.switch.ownName? = some name) :
    p.awaited? = none ∧ (p'.Has wish ↔ p.Has wish ∨ arg = wish.spelled name) ∧
      ∀ slot, wish.switch = .slot slot → (p'.awaited? = some slot ↔ arg = "--" ++ name) := by
  have noEquals := not_mem_of_ownName? own
  have whole := eq_long_iff argEq noEquals
  have attached := eq_attached_iff argEq noEquals
  rcases parts : splitAtEquals s with ⟨other, value?⟩
  have same {found : Switch} (foundEq : Level.inner.long? other = some found) :
      other = name ↔ found = wish.switch := by
    rw [← long?_inner_eq_some_iff own, foundEq, Option.some.injEq]
  rw [parts] at whole attached
  rw [long, parts] at done
  simp only at done
  split at done
  · contradiction
  · next flag isFlag =>
      have granted := Progress.set_eq_ok done
      refine ⟨granted.had, ?_, ?_⟩
      · rw [granted.has]
        cases wish <;> simp [Wish.spelled, whole, attached, same isFlag, Wish.switch]
      · intro slot isSlot
        simp [granted.waits, whole, same isFlag, isSlot]
  · contradiction
  · next slot value isSlot =>
      have granted := Progress.attach_eq_ok done
      refine ⟨granted.had, ?_, ?_⟩
      · rw [granted.has]
        cases wish <;> simp [Wish.spelled, whole, attached, same isSlot, Wish.switch]
      · intro other _
        simp [granted.waits, whole]
  · next slot isSlot =>
      have granted := Progress.await_eq_ok done
      refine ⟨granted.had, ?_, ?_⟩
      · rw [granted.has]
        cases wish <;> simp [Wish.spelled, whole, attached, same isSlot, Wish.switch]
      · intro other otherEq
        simp [granted.waits, whole, same isSlot, otherEq]

end Long

/-! ## A level -/

/-- A way to read one argument before the mark that ends the options. -/
inductive Reads (level : Level) (p : Progress) (arg : String) (p' : Progress) : Prop where
  | long (s : List Char) (argEq : arg.toList = '-' :: '-' :: s)
    (done : long level p s = .ok p')
  | short (c : Char) (letters : List Char) (argEq : arg.toList = '-' :: c :: letters)
    (single : c ≠ '-') (done : short level p (c :: letters) = .ok p')
  | value (slot : Slot) (plain : ∀ c s, arg.toList ≠ '-' :: c :: s)
    (waiting : p.pending = some (slot, none))
    (done : p' = { p with pending := some (slot, some arg) })
  | positional (plain : ∀ c s, arg.toList ≠ '-' :: c :: s)
    (done : positional level false p arg = .ok p')

/-- What the first argument of a level is taken for. -/
theorem readLevel_cons {level : Level} {p : Progress} {arg : String} {rest : List String}
    {result : Progress × Option (List String)}
    (done : readLevel level false p (arg :: rest) = .ok result) :
    (level = .outer ∧ arg = "test" ∧ result = (p, some rest)) ∨
      (arg = "--" ∧ readLevel level true p rest = .ok result) ∨
        arg ≠ "--" ∧ ∃ p', Reads level p arg p' ∧ readLevel level false p' rest = .ok result := by
  rw [readLevel] at done
  split at done
  · next command =>
      cases done
      simp only [Bool.and_eq_true, decide_eq_true_eq] at command
      exact .inl ⟨command.1.1, command.2, rfl⟩
  · split at done
    · contradiction
    · right
      split at done
      · next ended => exact .inl ⟨String.toList_inj.mp ended, done⟩
      · next s named argEq =>
          obtain ⟨p', read, done⟩ := bind_eq_ok_iff.mp done
          refine .inr ⟨?_, p', .long s argEq read, done⟩
          rintro rfl
          exact named (by simpa using argEq.symm)
      · next c letters _ single argEq =>
          obtain ⟨p', read, done⟩ := bind_eq_ok_iff.mp done
          refine .inr ⟨?_, p', .short c letters argEq single read, done⟩
          rintro rfl
          have dashes : ['-', '-'] = '-' :: c :: letters := argEq
          cases dashes
          exact single rfl
      · next _ _ plain =>
          have other : arg ≠ "--" := by
            rintro rfl
            exact plain '-' [] rfl
          split at done
          · next slot waiting => exact .inr ⟨other, _, .value slot plain waiting rfl, done⟩
          · obtain ⟨p', read, done⟩ := bind_eq_ok_iff.mp done
            exact .inr ⟨other, p', .positional plain read, done⟩

section Inner

variable {p p' : Progress} {arg name : String} {wish : Wish}

/-- Letters ask for nothing that the subcommand alone has. -/
theorem short_eq_ok {level : Level} {letters : List Char} (done : short level p letters = .ok p')
    (own : wish.switch.ownName? = some name) :
    (letters ≠ [] → p.awaited? = none) ∧ (p'.Has wish ↔ p.Has wish) ∧
      ∀ slot, wish.switch = .slot slot → p'.awaited? = some slot → p.awaited? = some slot := by
  induction letters generalizing p with
  | nil =>
      cases done
      simp
  | cons c rest ih =>
      have other := short?_ne_some own level c
      rw [short] at done
      split at done
      · contradiction
      · next flag isFlag =>
          obtain ⟨middle, setEq, done⟩ := bind_eq_ok_iff.mp done
          have granted := Progress.set_eq_ok setEq
          obtain ⟨-, same, awaits⟩ := ih done
          have noFlag : Wish.set flag ≠ wish := by
            rintro rfl
            exact other isFlag
          refine ⟨fun _ => granted.had, ?_, ?_⟩
          · rw [same, granted.has]
            simp [noFlag]
          · intro slot isSlot waits
            rw [granted.waits] at awaits
            exact absurd (awaits slot isSlot waits) (by simp)
      · next slot isSlot =>
          have attached {value : String} (done : p.attach slot value = .ok p') :
              (c :: rest ≠ [] → p.awaited? = none) ∧ (p'.Has wish ↔ p.Has wish) ∧
                ∀ slot, wish.switch = .slot slot → p'.awaited? = some slot →
                  p.awaited? = some slot := by
            have granted := Progress.attach_eq_ok done
            have noValue : Wish.fill slot value ≠ wish := by
              rintro rfl
              exact other isSlot
            refine ⟨fun _ => granted.had, ?_, ?_⟩
            · rw [granted.has]
              simp [noValue]
            · intro slot _ waits
              rw [granted.waits] at waits
              contradiction
          split at done
          · have granted := Progress.await_eq_ok done
            refine ⟨fun _ => granted.had, ?_, ?_⟩
            · rw [granted.has]
              simp
            · intro awaited isAwaited waits
              rw [granted.waits] at waits
              cases waits
              exact absurd (isSlot.trans (congrArg some isAwaited.symm)) other
          · exact attached done
          · exact attached done

theorem positional_eq_ok {closed : Bool} (done : positional .inner closed p arg = .ok p')
    (own : wish.switch.ownName? = some name) :
    p.awaited? = none ∧ (p'.Has wish ↔ p.Has wish) ∧ p'.awaited? = none := by
  rw [positional] at done
  split at done
  · contradiction
  · obtain ⟨waiting, awaitEq, rfl⟩ := map_eq_ok_iff.mp done
    have granted := Progress.await_eq_ok awaitEq
    have noPath : Wish.fill .path arg ≠ wish := by
      rintro rfl
      contradiction
    refine ⟨granted.had, ?_, granted.waits⟩
    exact (granted.has wish).trans (by simp [noPath])

theorem ne_of_single {c : Char} {letters : List Char} (argEq : arg.toList = '-' :: c :: letters)
    (single : c ≠ '-') (rest : String) : arg ≠ "--" ++ rest := by
  rintro rfl
  rw [String.toList_append] at argEq
  exact single (List.cons.inj (List.cons.inj argEq).2).1.symm

theorem ne_of_plain (plain : ∀ c s, arg.toList ≠ '-' :: c :: s) (rest : String) :
    arg ≠ "--" ++ rest := by
  rintro rfl
  exact plain '-' rest.toList (String.toList_append)

theorem Wish.exists_spelled_eq (wish : Wish) (name : String) :
    ∃ rest, wish.spelled name = "--" ++ rest := by
  cases wish with
  | set flag => exact ⟨name, rfl⟩
  | fill slot value =>
      refine ⟨name ++ "=" ++ value, ?_⟩
      rw [Wish.spelled, String.append_assoc, String.append_assoc, String.append_assoc]

/-- An argument of the subcommand grants what it asks for. -/
theorem Reads.grants (reads : Reads .inner p arg p') (own : wish.switch.ownName? = some name) :
    (p'.Has wish ↔ p.Has wish ∨ arg = wish.spelled name ∨ wish.Next p.awaited? [arg]) ∧
      ∀ slot, wish.switch = .slot slot → (p'.awaited? = some slot ↔ arg = "--" ++ name) := by
  obtain ⟨rest, spelledEq⟩ := wish.exists_spelled_eq name
  cases reads with
  | long s argEq done =>
      obtain ⟨free, has, awaits⟩ := long_eq_ok done argEq own
      refine ⟨?_, awaits⟩
      rw [has, free]
      simp [Wish.Next]
  | short c letters argEq single done =>
      obtain ⟨free, same, awaits⟩ := short_eq_ok done own
      have other := ne_of_single argEq single
      refine ⟨?_, fun slot isSlot => ?_⟩
      · rw [same, spelledEq, free (by simp)]
        simp [other, Wish.Next]
      · refine iff_of_false (fun waits => ?_) (other name)
        rw [free (by simp)] at awaits
        exact absurd (awaits slot isSlot waits) (by simp)
  | value slot plain waiting done =>
      subst done
      have other := ne_of_plain plain
      refine ⟨?_, fun slot _ => iff_of_false (by simp [Progress.awaited?]) (other name)⟩
      rw [spelledEq]
      cases wish <;> simp [Progress.Has, Progress.awaited?, waiting, Wish.Next, other, eq_comm]
  | positional plain done =>
      obtain ⟨free, same, none⟩ := positional_eq_ok done own
      have other := ne_of_plain plain
      refine ⟨?_, fun slot _ => iff_of_false (by simp [none]) (other name)⟩
      rw [same, spelledEq, free]
      simp [other, Wish.Next]

/-! ## Whole levels -/

/-- The arguments before the mark that ends the options. -/
def optionsOf (args : List String) : List String := args.takeWhile (· ≠ "--")

variable {args : List String} {q r : Progress} {left : Option (List String)}

/-- Behind the mark nothing is given that the subcommand alone has. -/
theorem has_of_readLevel_closed (done : readLevel .inner true p args = .ok (q, left))
    (settled : q.settle = .ok r) (own : wish.switch.ownName? = some name) :
    p.awaited? = none ∧ (r.given.Has wish ↔ p.Has wish) := by
  induction args generalizing p with
  | nil =>
      cases done
      obtain ⟨free, -, same⟩ := Progress.settle_eq_ok settled
      exact ⟨free, same wish⟩
  | cons arg args ih =>
      rw [readLevel] at done
      obtain ⟨p', read, done⟩ := bind_eq_ok_iff.mp done
      obtain ⟨free, same, -⟩ := positional_eq_ok read own
      exact ⟨free, (ih done).2.trans same⟩

/-- The arguments of the subcommand grant what the options among them ask for. -/
theorem has_of_readLevel (done : readLevel .inner false p args = .ok (q, left))
    (settled : q.settle = .ok r) (own : wish.switch.ownName? = some name) :
    r.given.Has wish ↔
      p.Has wish ∨ wish.Next p.awaited? (optionsOf args) ∨ wish.In name (optionsOf args) := by
  induction args generalizing p with
  | nil =>
      cases done
      obtain ⟨free, -, same⟩ := Progress.settle_eq_ok settled
      rw [same, free]
      simp [optionsOf, Wish.Next, Wish.not_in_nil]
  | cons arg args ih =>
      rcases readLevel_cons done with ⟨isOuter, -⟩ | ⟨rfl, closed⟩ | ⟨open', p', reads, later⟩
      · contradiction
      · obtain ⟨free, same⟩ := has_of_readLevel_closed closed settled own
        rw [same, free]
        simp [optionsOf, Wish.Next, Wish.not_in_nil]
      · obtain ⟨has, awaits⟩ := reads.grants own
        have optionsEq : optionsOf (arg :: args) = arg :: optionsOf args :=
          List.takeWhile_cons_of_pos (by simpa using open')
        have waitsNext : wish.Next p'.awaited? (optionsOf args) ↔
            ∃ slot value, wish = .fill slot value ∧ arg = "--" ++ name ∧
              (optionsOf args).head? = some value := by
          refine exists_congr fun slot => exists_congr fun value => and_congr_right fun isFill => ?_
          rw [awaits slot (by rw [isFill]; rfl)]
        have here : wish.Next p.awaited? (arg :: optionsOf args) ↔ wish.Next p.awaited? [arg] := by
          simp [Wish.Next]
        rw [ih later, has, waitsNext, optionsEq, Wish.in_cons_iff, here, or_assoc, or_assoc]
        exact or_congr_right or_left_comm

end Inner

section Outer

variable {p q : Progress} {args inner : List String}

theorem not_readLevel_outer_closed (p : Progress) (args : List String) :
    readLevel .outer true p args ≠ .ok (q, some inner) := by
  intro done
  cases args with
  | nil => cases done
  | cons arg args =>
      rw [readLevel] at done
      obtain ⟨p', read, -⟩ := bind_eq_ok_iff.mp done
      contradiction

/-- In front of the subcommand nothing asks for what the subcommand alone has. -/
theorem exists_before_of_readLevel (done : readLevel .outer false p args = .ok (q, some inner)) :
    ∃ before, args = before ++ "test" :: inner ∧ ∀ arg ∈ before, arg ≠ "--" ∧
      ∀ (wish : Wish) (name : String), wish.switch.ownName? = some name →
        arg ≠ wish.spelled name ∧ arg ≠ "--" ++ name := by
  induction args generalizing p with
  | nil => cases done
  | cons arg args ih =>
      rcases readLevel_cons done with ⟨-, rfl, result⟩ | ⟨-, closed⟩ | ⟨open', p', reads, later⟩
      · cases result
        exact ⟨[], rfl, by simp⟩
      · exact absurd closed (not_readLevel_outer_closed p args)
      · obtain ⟨before, rfl, others⟩ := ih later
        refine ⟨arg :: before, rfl, List.forall_mem_cons.mpr ⟨⟨open', ?_⟩, others⟩⟩
        intro wish name own
        obtain ⟨rest, spelledEq⟩ := wish.exists_spelled_eq name
        cases reads with
        | long s argEq done =>
            have noEquals := not_mem_of_ownName? own
            have unknown (value? : Option String) : splitAtEquals s ≠ (name, value?) := by
              intro parts
              rw [long, parts] at done
              simp only [long?_outer_eq_none own] at done
              contradiction
            constructor
            · cases wish with
              | set flag => exact fun equal => unknown _ ((eq_long_iff argEq noEquals).mp equal)
              | fill slot value =>
                  exact fun equal => unknown _ ((eq_attached_iff argEq noEquals value).mp equal)
            · exact fun equal => unknown _ ((eq_long_iff argEq noEquals).mp equal)
        | short c letters argEq single _ =>
            rw [spelledEq]
            exact ⟨ne_of_single argEq single rest, ne_of_single argEq single name⟩
        | value slot plain _ _ =>
            rw [spelledEq]
            exact ⟨ne_of_plain plain rest, ne_of_plain plain name⟩
        | positional plain _ =>
            rw [spelledEq]
            exact ⟨ne_of_plain plain rest, ne_of_plain plain name⟩

end Outer

/-! ## Accepted arguments -/

/-- Accepted arguments are those of the subcommand with what is given in front of it. -/
theorem exists_of_ofList_eq_ok {list : List String} {args : Arguments}
    (accepted : ofList list = .ok args) :
    ∃ (p q r : Progress) (inner : List String) (left : Option (List String)) (outer : Given)
      (path : String), readLevel .outer false {} list = .ok (p, some inner) ∧
        readLevel .inner false {} inner = .ok (q, left) ∧ q.settle = .ok r ∧
          args = combine outer r.given path := by
  obtain ⟨⟨p, inner?⟩, outerRead, done⟩ := bind_eq_ok_iff.mp accepted
  cases inner? with
  | none =>
      obtain ⟨settled, -, done⟩ := bind_eq_ok_iff.mp done
      contradiction
  | some inner =>
      obtain ⟨⟨q, left⟩, innerRead, done⟩ := bind_eq_ok_iff.mp done
      obtain ⟨r, settled, done⟩ := bind_eq_ok_iff.mp done
      split at done
      · contradiction
      · next path _ =>
          obtain ⟨outer, -, done⟩ := bind_eq_ok_iff.mp done
          cases done
          exact ⟨p, q, r, inner, left, outer.given, path, outerRead, innerRead, settled, rfl⟩

/-- An option has a value, behind a sign of equality or as the next argument. -/
def Takes (name value : String) (options : List String) : Prop :=
  name ++ "=" ++ value ∈ options ∨ [name, value] <:+: options

/-- What the options of the subcommand give. -/
structure Gives (options : List String) (args : Arguments) : Prop where
  json : args.json ↔ "--json" ∈ options
  isolate : args.isolate ↔ "--isolate-failures" ∈ options
  noFail : args.noFail ↔ "--no-fail" ∈ options
  directory : ∀ directory, args.directory? = some directory ↔ Takes "--cache-dir" directory options
  threshold : ∀ threshold, args.threshold? = some threshold ↔
    Takes "--severity-threshold" threshold.name options

theorem in_set_iff {name : String} {options : List String} (flag : Flag) :
    (Wish.set flag).In name options ↔ "--" ++ name ∈ options := by
  simp [Wish.In, Wish.spelled]

theorem in_fill_iff {name value : String} {options : List String} (slot : Slot) :
    (Wish.fill slot value).In name options ↔ Takes ("--" ++ name) value options := by
  simp [Wish.In, Wish.spelled, Takes]

/-- Accepted arguments give just what the options among them do. -/
theorem ofList_gives {list : List String} {args : Arguments} (accepted : ofList list = .ok args) :
    Gives (optionsOf list) args := by
  obtain ⟨p, q, r, inner, left, outer, path, outerRead, innerRead, settled, rfl⟩ :=
    exists_of_ofList_eq_ok accepted
  obtain ⟨before, rfl, others⟩ := exists_before_of_readLevel outerRead
  have optionsEq : optionsOf (before ++ "test" :: inner) =
      (before ++ ["test"]) ++ optionsOf inner := by
    have all : ∀ arg ∈ before ++ ["test"], decide (arg ≠ "--") = true := by
      rw [List.forall_mem_append, List.forall_mem_singleton]
      exact ⟨fun arg member => decide_eq_true (others arg member).1, by decide⟩
    rw [List.append_cons, optionsOf, List.takeWhile_append_of_pos all, optionsOf]
  have has (wish : Wish) {name : String} (own : wish.switch.ownName? = some name) :
      r.given.Has wish ↔ wish.In name (optionsOf (before ++ "test" :: inner)) := by
    have other : ∀ arg ∈ before ++ ["test"], arg ≠ wish.spelled name ∧ arg ≠ "--" ++ name := by
      obtain ⟨rest, spelledEq⟩ := wish.exists_spelled_eq name
      rw [List.forall_mem_append, List.forall_mem_singleton, spelledEq]
      refine ⟨fun arg member => spelledEq ▸ (others arg member).2 wish name own, ?_, ?_⟩
      · exact ne_of_plain (fun c s equal => by cases equal) rest
      · exact ne_of_plain (fun c s equal => by cases equal) name
    have nothing : ¬Progress.Has {} wish := by
      simp [Progress.Has, Given.not_has_empty]
    have noneWaits : ¬wish.Next (Progress.awaited? {}) (optionsOf inner) := by
      simp [Wish.Next, Progress.awaited?]
    rw [has_of_readLevel innerRead settled own, or_iff_right nothing, or_iff_right noneWaits,
      optionsEq, Wish.in_append_iff other]
  constructor
  · exact (has (.set .json) rfl).trans (in_set_iff .json)
  · exact (has (.set .isolate) rfl).trans (in_set_iff .isolate)
  · exact (has (.set .noFail) rfl).trans (in_set_iff .noFail)
  · intro directory
    exact (has (.fill .directory directory) rfl).trans (in_fill_iff .directory)
  · intro threshold
    have same : r.given.threshold? = some threshold ↔
        r.given.threshold?.map Severity.name = some threshold.name := by
      rw [Option.map_eq_some_iff]
      constructor
      · intro isThreshold
        exact ⟨threshold, isThreshold, rfl⟩
      · rintro ⟨other, isOther, nameEq⟩
        rw [isOther, Severity.name_injective nameEq]
    exact same.trans ((has (.fill .threshold threshold.name) rfl).trans (in_fill_iff .threshold))

end PolicyScan.Arguments
