import Mathlib.Data.List.Forall2
import PolicyScan.Proofs.Arguments

/-!
# Spellings of a choice

The same choice can be spelled in many ways: its options and flags stand in any order, those
of both levels on either side of the subcommand, by name or by letter, with values attached
or behind, and flags for more messages anywhere between.  A level that is spelled piece by
piece grants the wishes of each piece in turn (`Spelling.exists_readLevel_append`), and wishes
for different things can be granted in any order (`exists_grantAll`).  So all spellings of a
choice are accepted and give it (`ofList_spelled`); but the flags for more messages behind
the subcommand hide those in front of it.
-/

namespace PolicyScan.Arguments

/-! ## Names and letters -/

/-- The name of a switch that both levels have. -/
def Switch.commonName? : Switch → Option String
  | .flag .verbose => some "verbose"
  | .flag .quiet => some "quiet"
  | .slot .config => some "config"
  | _ => none

/-- The letter of a switch that both levels have. -/
def Switch.letter? : Switch → Option Char
  | .flag .verbose => some 'v'
  | .flag .quiet => some 'q'
  | .slot .config => some 'c'
  | _ => none

/-- The name of a switch on a level. -/
def Level.name? : Level → Switch → Option String
  | .outer, switch => switch.commonName?
  | .inner, switch => switch.commonName?.or switch.ownName?

section Names

variable {level : Level} {switch : Switch} {name : String} {c : Char}

/-- A name is that of both levels, or one of the subcommand. -/
theorem commonName?_or_ownName? (named : level.name? switch = some name) :
    switch.commonName? = some name ∨ level = .inner ∧ switch.ownName? = some name := by
  cases level with
  | outer => exact .inl named
  | inner => exact (Option.or_eq_some_iff.mp named).imp_right fun own => ⟨rfl, own.2⟩

theorem long?_of_name? (named : level.name? switch = some name) :
    level.long? name = some switch := by
  rcases commonName?_or_ownName? named with common | ⟨rfl, own⟩
  · unfold Switch.commonName? at common
    split at common <;> cases common <;> rfl
  · exact (long?_inner_eq_some_iff own name).mpr rfl

theorem not_mem_of_name? (named : level.name? switch = some name) : '=' ∉ name.toList := by
  rcases commonName?_or_ownName? named with common | ⟨-, own⟩
  · unfold Switch.commonName? at common
    split at common <;> cases common <;> decide
  · exact not_mem_of_ownName? own

theorem short?_of_letter? (lettered : switch.letter? = some c) (level : Level) :
    level.short? c = some switch := by
  unfold Switch.letter? at lettered
  split at lettered <;> cases lettered <;> rfl

theorem ne_dash_of_letter? (lettered : switch.letter? = some c) : c ≠ '-' := by
  unfold Switch.letter? at lettered
  split at lettered <;> cases lettered <;> decide

/-- What has a letter has a name on both levels. -/
theorem commonName?_isSome_of_letter? (lettered : switch.letter? = some c) :
    switch.commonName?.isSome := by
  unfold Switch.letter? at lettered
  split at lettered <;> first | rfl | contradiction

end Names

/-! ## Pieces of a level -/

/-- Whether a text can stand as a value of its own. -/
def IsFree (value : String) : Prop := value.toList.head? ≠ some '-'

instance (value : String) : Decidable (IsFree value) := inferInstanceAs (Decidable (_ ≠ _))

/-- Letters of flags. -/
def IsRow (letters : List Char) (flags : List Flag) : Prop :=
  List.Forall₂ (fun c flag => (Switch.flag flag).letter? = some c) letters flags

/-- Arguments that belong together, and what they ask for. -/
inductive Piece : Level → List String → List Wish → Prop where
  | flag {level : Level} {flag : Flag} {name : String}
    (named : level.name? (.flag flag) = some name) : Piece level ["--" ++ name] [.set flag]
  | attached {level : Level} {slot : Slot} {name : String}
    (named : level.name? (.slot slot) = some name) (value : String) :
    Piece level ["--" ++ name ++ "=" ++ value] [.fill slot value]
  | next {level : Level} {slot : Slot} {name value : String}
    (named : level.name? (.slot slot) = some name) (free : IsFree value) :
    Piece level ["--" ++ name, value] [.fill slot value]
  | letters {level : Level} {letters : List Char} {flags : List Flag}
    (row : IsRow letters flags) (any : letters ≠ []) :
    Piece level ["-" ++ String.ofList letters] (flags.map .set)
  | lettersAttached {level : Level} {letters : List Char} {flags : List Flag} {slot : Slot}
    {c : Char} (row : IsRow letters flags) (lettered : (Switch.slot slot).letter? = some c)
    (value : String) :
    Piece level ["-" ++ String.ofList (letters ++ [c]) ++ "=" ++ value]
      (flags.map .set ++ [.fill slot value])
  | lettersNext {level : Level} {letters : List Char} {flags : List Flag} {slot : Slot}
    {c : Char} {value : String} (row : IsRow letters flags)
    (lettered : (Switch.slot slot).letter? = some c) (free : IsFree value) :
    Piece level ["-" ++ String.ofList (letters ++ [c]), value]
      (flags.map .set ++ [.fill slot value])
  | path {path : String} (free : IsFree path) : Piece .inner [path] [.fill .path path]

/-- Pieces one after the other. -/
inductive Spelling (level : Level) : List String → List Wish → Prop where
  | nil : Spelling level [] []
  | cons {args rest : List String} {wishes others : List Wish} (piece : Piece level args wishes)
    (later : Spelling level rest others) : Spelling level (args ++ rest) (wishes ++ others)

/-! ## Granting wishes -/

/-- Grant a wish. -/
def Given.grant (g : Given) : Wish → Except Usage Given
  | .set flag => g.set flag
  | .fill slot value => g.fill slot value

namespace Wish

/-- Whether it is for more messages. -/
def asksMore (wish : Wish) : Bool := wish.switch = .flag .verbose

/-- Whether it can be granted to someone who has nothing. -/
def Proper : Wish → Prop
  | set flag => flag ≠ .help ∧ flag ≠ .version
  | fill .threshold value => (Severity.ofName? value).isSome
  | fill _ value => value ≠ ""

end Wish

section Grant

variable {g g' : Given} {wish : Wish} {wishes : List Wish}

theorem Given.threshold_eq_ok_iff {value : String} :
    g.fill .threshold value = .ok g' ↔
      ∃ s, g.threshold? = none ∧ Severity.ofName? value = some s ∧
        { g with threshold? := some s } = g' := by
  rw [fill]
  cases g.threshold? <;> cases Severity.ofName? value <;> simp

theorem Given.has_grant (done : g.grant wish = .ok g') (other : Wish) :
    g'.Has other ↔ g.Has other ∨ wish = other := by
  cases wish with
  | set flag => exact Given.has_set done other
  | fill slot value => exact Given.has_fill done other

theorem Given.verbose_grant (done : g.grant wish = .ok g') :
    g'.verbose = if wish.asksMore then min (g.verbose + 1) countLimit else g.verbose := by
  cases wish with
  | set flag =>
      cases flag with
      | verbose =>
          cases done
          rfl
      | help => contradiction
      | version => contradiction
      | _ =>
          obtain ⟨-, rfl⟩ := Given.once_eq_ok_iff.mp done
          rfl
  | fill slot value =>
      cases slot with
      | threshold =>
          obtain ⟨s, -, -, rfl⟩ := threshold_eq_ok_iff.mp done
          rfl
      | _ =>
          obtain ⟨new, -, rfl⟩ := map_eq_ok_iff.mp done
          rfl

/-- Only a path gives a path. -/
theorem Given.path?_grant (done : g.grant wish = .ok g') (other : wish.switch ≠ .slot .path) :
    g'.path? = g.path? := by
  refine Option.ext fun value => (has_grant done (.fill .path value)).trans (or_iff_left ?_)
  rintro rfl
  exact other rfl

/-- A wish is granted if nothing of its kind is given. -/
theorem Given.exists_grant (proper : wish.Proper)
    (unmet : wish.asksMore = false → ∀ old : Wish, old.switch = wish.switch → ¬g.Has old) :
    ∃ g', g.grant wish = .ok g' := by
  cases wish with
  | set flag =>
      cases flag with
      | verbose => exact ⟨_, rfl⟩
      | help => exact absurd rfl proper.1
      | version => exact absurd rfl proper.2
      | _ =>
          have unset := unmet rfl (.set _) rfl
          exact ⟨_, once_eq_ok_iff.mpr ⟨by simpa [Has] using unset, rfl⟩⟩
  | fill slot value =>
      have unfilled (value : String) := unmet rfl (.fill slot value) rfl
      cases slot with
      | threshold =>
          obtain ⟨s, known⟩ := Option.isSome_iff_exists.mp proper
          refine ⟨_, threshold_eq_ok_iff.mpr ⟨s, ?_, known, rfl⟩⟩
          refine Option.eq_none_iff_forall_ne_some.mpr fun old had => unfilled old.name ?_
          rw [Has, had, Option.map_some]
      | _ =>
          refine ⟨_, map_eq_ok_iff.mpr ⟨_, text_eq_ok_iff.mpr ⟨?_, proper, rfl⟩, rfl⟩⟩
          exact Option.eq_none_iff_forall_ne_some.mpr unfilled

/-- Wishes for different things are granted in any order. -/
theorem exists_grantAll (proper : ∀ wish ∈ wishes, wish.Proper)
    (once : wishes.Pairwise fun one another => one.switch = another.switch → one.asksMore)
    (unmet : ∀ wish ∈ wishes, wish.asksMore = false →
      ∀ old : Wish, old.switch = wish.switch → ¬g.Has old) :
    ∃ g', wishes.foldlM Given.grant g = .ok g' ∧
      ∀ wish, g'.Has wish ↔ g.Has wish ∨ wish ∈ wishes := by
  -- What is still to be granted stays unmet: a wish of the same kind has gone before only
  -- if it was for more messages.
  induction wishes generalizing g with
  | nil => exact ⟨g, rfl, by simp⟩
  | cons first wishes ih =>
      obtain ⟨properFirst, properOthers⟩ := List.forall_mem_cons.mp proper
      obtain ⟨unmetFirst, unmetOthers⟩ := List.forall_mem_cons.mp unmet
      obtain ⟨onceFirst, onceOthers⟩ := List.pairwise_cons.mp once
      obtain ⟨middle, grantEq⟩ := Given.exists_grant properFirst unmetFirst
      have has := Given.has_grant grantEq
      have stillUnmet : ∀ wish ∈ wishes, wish.asksMore = false →
          ∀ old : Wish, old.switch = wish.switch → ¬middle.Has old := by
        intro wish member least old kind
        rw [has]
        rintro (had | rfl)
        · exact unmetOthers wish member least old kind had
        · have more := onceFirst wish member kind
          rw [Wish.asksMore, kind] at more
          exact Bool.false_ne_true (least.symm.trans more)
      obtain ⟨g', doneEq, hasAll⟩ := ih properOthers onceOthers stillUnmet
      refine ⟨g', ?_, fun wish => ?_⟩
      · rw [List.foldlM_cons, grantEq]
        exact doneEq
      · rw [hasAll, has, List.mem_cons, or_assoc, @eq_comm _ first]

theorem verbose_of_grantAll (done : wishes.foldlM Given.grant g = .ok g')
    (bound : g.verbose ≤ Given.countLimit) :
    g'.verbose = min (g.verbose + wishes.countP Wish.asksMore) Given.countLimit := by
  induction wishes generalizing g with
  | nil =>
      cases done
      exact (Nat.min_eq_left bound).symm
  | cons first wishes ih =>
      rw [List.foldlM_cons] at done
      obtain ⟨middle, grantEq, done⟩ := bind_eq_ok_iff.mp done
      have step := Given.verbose_grant grantEq
      rw [ih done (by split at step <;> omega), step, List.countP_cons]
      split <;> omega

end Grant

/-! ## Reading pieces -/

/-- What is read so far gives this, once the pending value is checked. -/
structure Progress.StandsFor (p : Progress) (g : Given) : Prop where
  settled : p.settle = .ok { given := g, pathSeen := p.pathSeen }
  path : p.pathSeen = g.path?.isSome

section Read

variable {level : Level} {p : Progress} {g g' : Given} {rest : List String}

namespace Progress

theorem standsFor_given {seen : Bool} (path : seen = g.path?.isSome) :
    StandsFor { given := g, pathSeen := seen } g :=
  ⟨rfl, path⟩

/-- A value that is not checked yet stands for what it gives. -/
theorem standsFor_pending {slot : Slot} {value : String} {seen : Bool}
    (done : g.grant (.fill slot value) = .ok g') (path : seen = g'.path?.isSome) :
    StandsFor { given := g, pending := some (slot, some value), pathSeen := seen } g' :=
  ⟨map_eq_ok_iff.mpr ⟨g', done, rfl⟩, path⟩

theorem StandsFor.given (stands : p.StandsFor g) {wish : Wish} (done : g.grant wish = .ok g')
    (other : wish.switch ≠ .slot .path) :
    StandsFor { given := g', pathSeen := p.pathSeen } g' :=
  standsFor_given (by rw [Given.path?_grant done other, stands.path])

theorem StandsFor.pending (stands : p.StandsFor g) {slot : Slot} {value : String}
    (done : g.grant (.fill slot value) = .ok g')
    (other : (Wish.fill slot value).switch ≠ .slot .path) :
    StandsFor { given := g, pending := some (slot, some value), pathSeen := p.pathSeen } g' :=
  standsFor_pending done (by rw [Given.path?_grant done other, stands.path])

theorem StandsFor.waits_eq_false (stands : p.StandsFor g) : p.waits = false := by
  have settled := stands.settled
  unfold settle at settled
  split at settled
  · next nothing => rw [waits, nothing, Option.any_none]
  · contradiction
  · next value pending => simp [waits, pending]

theorem StandsFor.set_eq_ok (stands : p.StandsFor g) {flag : Flag}
    (done : g.set flag = .ok g') : p.set flag = .ok { given := g', pathSeen := p.pathSeen } := by
  rw [set, stands.settled]
  simp [bind, Except.bind, done, pure, Except.pure]

theorem StandsFor.attach_eq_ok (stands : p.StandsFor g) {slot : Slot} {value : String}
    (done : g.fill slot value = .ok g') :
    p.attach slot value = .ok { given := g', pathSeen := p.pathSeen } := by
  rw [attach, stands.settled]
  simp [bind, Except.bind, done, pure, Except.pure]

theorem StandsFor.await_eq_ok (stands : p.StandsFor g) (slot : Slot) (value? : Option String) :
    p.await slot value? =
      .ok { given := g, pending := some (slot, value?), pathSeen := p.pathSeen } := by
  rw [await, stands.settled]
  rfl

end Progress

/-! ### The reader on each form of argument -/

theorem IsFree.toList_ne {value : String} (free : IsFree value) (s : List Char) :
    value.toList ≠ '-' :: s :=
  fun dashed => free (congrArg List.head? dashed)

/-- What begins with a dash is no subcommand. -/
theorem ne_of_head? {arg : String} (dashed : arg.toList.head? = some '-') :
    arg ≠ "test" ∧ arg ≠ "help" := by
  constructor <;> (rintro rfl; contradiction)

theorem readLevel_long {arg : String} {name : List Char} (argEq : arg.toList = '-' :: '-' :: name)
    (any : name ≠ []) :
    readLevel level false p (arg :: rest) =
      long level p name >>= fun p' => readLevel level false p' rest := by
  obtain ⟨noTest, noHelp⟩ := ne_of_head? (congrArg List.head? argEq)
  obtain ⟨c, letters, rfl⟩ := List.exists_cons_of_ne_nil any
  rw [readLevel]
  simp [noTest, noHelp, argEq]

theorem readLevel_short {arg : String} {c : Char} {letters : List Char}
    (argEq : arg.toList = '-' :: c :: letters) (single : c ≠ '-') :
    readLevel level false p (arg :: rest) =
      short level p (c :: letters) >>= fun p' => readLevel level false p' rest := by
  obtain ⟨noTest, noHelp⟩ := ne_of_head? (congrArg List.head? argEq)
  rw [readLevel]
  simp [noTest, noHelp, argEq, single]

/-- A text that is free is the value that is waited for. -/
theorem readLevel_value {slot : Slot} {value : String} (free : IsFree value)
    (waiting : p.pending = some (slot, none)) :
    readLevel level false p (value :: rest) =
      readLevel level false { p with pending := some (slot, some value) } rest := by
  have waits : p.waits = true := by
    rw [Progress.waits, waiting]
    rfl
  rw [readLevel]
  simp only [waits, Bool.not_true, Bool.and_false, Bool.false_and, Bool.false_eq_true, if_false]
  split
  · next dashed => exact absurd dashed (free.toList_ne _)
  · next dashed => exact absurd dashed (free.toList_ne _)
  · next dashed => exact absurd dashed (free.toList_ne _)
  · rw [waiting]

/-- Otherwise it is the path. -/
theorem readLevel_path {path : String} (free : IsFree path) (ready : p.waits = false) :
    readLevel .inner false p (path :: rest) =
      positional .inner false p path >>= fun p' => readLevel .inner false p' rest := by
  rw [readLevel]
  simp only [reduceCtorEq, decide_false, Bool.false_and, Bool.false_eq_true, if_false]
  split
  · next dashed => exact absurd dashed (free.toList_ne _)
  · next dashed => exact absurd dashed (free.toList_ne _)
  · next dashed => exact absurd dashed (free.toList_ne _)
  · split
    · next waiting => simp [Progress.waits, waiting] at ready
    · rfl

section Named

variable {flag : Flag} {slot : Slot} {name : String} {c : Char}

theorem ne_nil_of_name? {switch : Switch} (named : level.name? switch = some name) :
    name.toList ≠ [] := by
  intro nothing
  obtain rfl := String.toList_eq_nil_iff.mp nothing
  have found := long?_of_name? named
  cases level <;> contradiction

theorem long_flag (named : level.name? (.flag flag) = some name) :
    long level p name.toList = p.set flag := by
  rw [long, splitAtEquals_of_not_mem (not_mem_of_name? named), String.ofList_toList]
  simp only [long?_of_name? named]

theorem long_slot (named : level.name? (.slot slot) = some name) :
    long level p name.toList = p.await slot none := by
  rw [long, splitAtEquals_of_not_mem (not_mem_of_name? named), String.ofList_toList]
  simp only [long?_of_name? named]

theorem long_attached (named : level.name? (.slot slot) = some name) (value : String) :
    long level p (name.toList ++ '=' :: value.toList) = p.attach slot value := by
  rw [long, splitAtEquals_append (not_mem_of_name? named), String.ofList_toList,
    String.ofList_toList]
  simp only [long?_of_name? named]

theorem short_slot (lettered : (Switch.slot slot).letter? = some c) :
    short level p [c] = p.await slot none := by
  rw [short, short?_of_letter? lettered]

theorem short_attached (lettered : (Switch.slot slot).letter? = some c) (value : String) :
    short level p (c :: '=' :: value.toList) = p.attach slot value := by
  rw [short, short?_of_letter? lettered]
  simp only [String.ofList_toList]

theorem ne_path_of_name? {value : String} (named : level.name? (.slot slot) = some name) :
    (Wish.fill slot value).switch ≠ .slot .path := by
  rintro ⟨⟩
  cases level <;> contradiction

theorem ne_path_of_letter? {value : String} (lettered : (Switch.slot slot).letter? = some c) :
    (Wish.fill slot value).switch ≠ .slot .path := by
  rintro ⟨⟩
  contradiction

end Named

/-! ### Pieces -/

/-- An argument that begins with letters of flags is a row of letters. -/
theorem IsRow.readLevel_eq {arg : String} {letters more : List Char} {flags : List Flag}
    (row : IsRow letters flags) (argEq : arg.toList = '-' :: (letters ++ more))
    (any : letters ++ more ≠ []) (single : more.head? ≠ some '-') :
    readLevel level false p (arg :: rest) =
      short level p (letters ++ more) >>= fun p' => readLevel level false p' rest := by
  cases row with
  | nil =>
      obtain ⟨c, others, rfl⟩ := List.exists_cons_of_ne_nil any
      exact readLevel_short argEq fun dash => single (congrArg some dash)
  | cons lettered row => exact readLevel_short argEq (ne_dash_of_letter? lettered)

/-- Letters of flags grant them, whatever letters follow. -/
theorem IsRow.exists_short_append {letters : List Char} {flags : List Flag}
    (row : IsRow letters flags) (stands : p.StandsFor g)
    (granted : (flags.map .set).foldlM Given.grant g = .ok g') :
    ∃ p', p'.StandsFor g' ∧
      ∀ more, short level p (letters ++ more) = short level p' more := by
  induction row generalizing p g with
  | nil =>
      cases granted
      exact ⟨p, stands, fun more => rfl⟩
  | @cons c flag letters flags lettered row ih =>
      rw [List.map_cons, List.foldlM_cons] at granted
      obtain ⟨middle, setEq, granted⟩ := bind_eq_ok_iff.mp granted
      have after := stands.given setEq (by simp [Wish.switch])
      obtain ⟨p', stands', later⟩ := ih after granted
      refine ⟨p', stands', fun more => ?_⟩
      rw [List.cons_append, short, short?_of_letter? lettered]
      simp only [stands.set_eq_ok setEq]
      exact later more

/-- The same if a value is filled in last. -/
theorem IsRow.exists_short_last {letters : List Char} {flags : List Flag} {last : Wish}
    (row : IsRow letters flags) (stands : p.StandsFor g)
    (granted : (flags.map Wish.set ++ [last]).foldlM Given.grant g = .ok g') :
    ∃ middle, middle.grant last = .ok g' ∧ ∃ p', p'.StandsFor middle ∧
      ∀ more, short level p (letters ++ more) = short level p' more := by
  rw [List.foldlM_append] at granted
  obtain ⟨middle, rowGranted, granted⟩ := bind_eq_ok_iff.mp granted
  exact ⟨middle, by simpa using granted, row.exists_short_append stands rowGranted⟩

/-- A piece grants what it asks for, whatever arguments follow. -/
theorem Piece.exists_readLevel_append {args : List String} {wishes : List Wish}
    (piece : Piece level args wishes) (stands : p.StandsFor g)
    (granted : wishes.foldlM Given.grant g = .ok g') :
    ∃ p', p'.StandsFor g' ∧
      ∀ rest, readLevel level false p (args ++ rest) = readLevel level false p' rest := by
  -- A value that stands behind its name, like the path, is checked only when the next piece
  -- is read, so what is read so far stands for `g'` before it has been granted.
  cases piece with
  | @flag _ flag name named =>
      have grantEq : g.grant (.set flag) = .ok g' := by simpa using granted
      refine ⟨_, stands.given grantEq (by simp [Wish.switch]), fun rest => ?_⟩
      rw [List.singleton_append, readLevel_long String.toList_append (ne_nil_of_name? named),
        long_flag named, stands.set_eq_ok grantEq]
      rfl
  | @attached _ slot name named value =>
      have grantEq : g.grant (.fill slot value) = .ok g' := by simpa using granted
      refine ⟨_, stands.given grantEq (ne_path_of_name? named), fun rest => ?_⟩
      have argEq : ("--" ++ name ++ "=" ++ value).toList =
          '-' :: '-' :: (name.toList ++ '=' :: value.toList) := by
        simp
      rw [List.singleton_append, readLevel_long argEq (by simp), long_attached named,
        stands.attach_eq_ok grantEq]
      rfl
  | @next _ slot name value named free =>
      have grantEq : g.grant (.fill slot value) = .ok g' := by simpa using granted
      refine ⟨_, stands.pending grantEq (ne_path_of_name? named), fun rest => ?_⟩
      rw [List.cons_append, List.singleton_append,
        readLevel_long String.toList_append (ne_nil_of_name? named), long_slot named,
        stands.await_eq_ok]
      exact readLevel_value free rfl
  | @letters _ letters flags row any =>
      obtain ⟨p', stands', read⟩ := row.exists_short_append stands granted
      refine ⟨p', stands', fun rest => ?_⟩
      rw [← List.append_nil letters] at any
      rw [List.singleton_append, row.readLevel_eq (by simp) any (by simp), read]
      rfl
  | @lettersAttached _ letters flags slot c row lettered value =>
      obtain ⟨middle, grantEq, p', stands', read⟩ := row.exists_short_last stands granted
      refine ⟨_, stands'.given grantEq (ne_path_of_letter? lettered), fun rest => ?_⟩
      have argEq : ("-" ++ String.ofList (letters ++ [c]) ++ "=" ++ value).toList =
          '-' :: (letters ++ c :: '=' :: value.toList) := by
        simp
      rw [List.singleton_append, row.readLevel_eq argEq (by simp)
        (by simpa using ne_dash_of_letter? lettered), read, short_attached lettered,
        stands'.attach_eq_ok grantEq]
      rfl
  | @lettersNext _ letters flags slot c value row lettered free =>
      obtain ⟨middle, grantEq, p', stands', read⟩ := row.exists_short_last stands granted
      refine ⟨_, stands'.pending grantEq (ne_path_of_letter? lettered), fun rest => ?_⟩
      have argEq : ("-" ++ String.ofList (letters ++ [c])).toList = '-' :: (letters ++ [c]) := by
        simp
      rw [List.cons_append, List.singleton_append, row.readLevel_eq argEq (by simp)
        (by simpa using ne_dash_of_letter? lettered), read, short_slot lettered,
        stands'.await_eq_ok]
      exact readLevel_value free rfl
  | @path path free =>
      have grantEq : g.grant (.fill .path path) = .ok g' := by simpa using granted
      obtain ⟨new, textEq, rfl⟩ := map_eq_ok_iff.mp grantEq
      obtain ⟨nothing, -, rfl⟩ := Given.text_eq_ok_iff.mp textEq
      refine ⟨_, Progress.standsFor_pending grantEq rfl, fun rest => ?_⟩
      have unseen : p.pathSeen = false := by rw [stands.path, nothing]; rfl
      rw [List.singleton_append, readLevel_path free stands.waits_eq_false, positional]
      simp [unseen, stands.await_eq_ok, Except.map, bind, Except.bind]

/-- A level that is spelled piece by piece grants what the pieces ask for. -/
theorem Spelling.exists_readLevel_append {args : List String} {wishes : List Wish}
    (spelling : Spelling level args wishes) (stands : p.StandsFor g)
    (granted : wishes.foldlM Given.grant g = .ok g') :
    ∃ p', p'.StandsFor g' ∧
      ∀ rest, readLevel level false p (args ++ rest) = readLevel level false p' rest := by
  induction spelling generalizing p g with
  | nil =>
      cases granted
      exact ⟨p, stands, fun rest => rfl⟩
  | cons piece later ih =>
      rw [List.foldlM_append] at granted
      obtain ⟨middle, pieceGranted, granted⟩ := bind_eq_ok_iff.mp granted
      obtain ⟨p', stands', pieceRead⟩ := piece.exists_readLevel_append stands pieceGranted
      obtain ⟨p'', stands'', read⟩ := ih stands' granted
      refine ⟨p'', stands'', fun rest => ?_⟩
      rw [List.append_assoc, pieceRead, read]

end Read

/-! ## Choices -/

/-- The wish for a flag that is on. -/
def wishOn (flag : Flag) (on : Bool) : List Wish := if on then [.set flag] else []

/-- The wish for a value that there is. -/
def wishFor (slot : Slot) (value? : Option String) : List Wish := value?.toList.map (.fill slot)

/-- What a choice asks for besides more messages. -/
def wishes (choice : Arguments) : List Wish :=
  wishFor .path (some choice.path) ++ wishOn .json choice.json ++
    wishFor .threshold (choice.threshold?.map Severity.name) ++
      wishFor .directory choice.directory? ++ wishOn .isolate choice.isolate ++
        wishOn .noFail choice.noFail ++ wishFor .config choice.config? ++ wishOn .quiet choice.quiet

/-- What a choice gives besides more messages. -/
def given (choice : Arguments) : Given where
  path? := some choice.path
  json := choice.json
  threshold? := choice.threshold?
  directory? := choice.directory?
  isolate := choice.isolate
  noFail := choice.noFail
  config? := choice.config?
  quiet := choice.quiet

/-- No text of it is empty. -/
structure IsProper (choice : Arguments) : Prop where
  path : choice.path ≠ ""
  directory : choice.directory? ≠ some ""
  config : choice.config? ≠ some ""

/-- A choice is spelled in front of the subcommand and behind it, with so many flags for more
messages on each side. -/
def Spelled (choice : Arguments) (before after : List String) (early late : Nat) : Prop :=
  ∃ asked wished, Spelling .outer before asked ∧ Spelling .inner after wished ∧
    ((asked ++ wished).filter (!·.asksMore)).Perm choice.wishes ∧
      asked.countP Wish.asksMore = early ∧ wished.countP Wish.asksMore = late

section Choice

variable {choice : Arguments} {wish : Wish}

theorem mem_wishOn_iff {flag : Flag} {on : Bool} :
    wish ∈ wishOn flag on ↔ on ∧ wish = .set flag := by
  cases on <;> simp [wishOn]

theorem mem_wishFor_iff {slot : Slot} {value? : Option String} :
    wish ∈ wishFor slot value? ↔ ∃ value, value? = some value ∧ wish = .fill slot value := by
  cases value? <;> simp [wishFor]

theorem mem_wishes_iff : wish ∈ choice.wishes ↔ choice.given.Has wish := by
  simp only [wishes, List.mem_append, mem_wishOn_iff, mem_wishFor_iff]
  rcases wish with flag | ⟨slot, value⟩
  · cases flag <;> simp [Given.Has, given]
  · cases slot with
    | path => simp [Given.Has, given, @eq_comm _ value]
    | _ => simp [Given.Has, given]

theorem proper_of_asksMore (more : wish.asksMore) : wish.Proper := by
  rcases wish with flag | ⟨slot, value⟩
  · obtain rfl := Switch.flag.inj (of_decide_eq_true more)
    exact ⟨Flag.noConfusion, Flag.noConfusion⟩
  · contradiction

theorem proper_of_mem (proper : choice.IsProper) (member : wish ∈ choice.wishes) :
    wish.Proper := by
  rw [mem_wishes_iff] at member
  rcases wish with flag | ⟨slot, value⟩
  · cases flag with
    | help => contradiction
    | version => contradiction
    | _ => exact ⟨Flag.noConfusion, Flag.noConfusion⟩
  · cases slot with
    | path =>
        obtain rfl := Option.some.inj member
        exact proper.path
    | config =>
        rintro rfl
        exact proper.config member
    | directory =>
        rintro rfl
        exact proper.directory member
    | threshold =>
        obtain ⟨s, -, rfl⟩ := Option.map_eq_some_iff.mp member
        exact Option.isSome_of_eq_some (Severity.ofName?_name s)

/-- A choice asks for one thing of each kind. -/
theorem nodup_switches : (choice.wishes.map Wish.switch).Nodup := by
  have flag (flag : Flag) (on : Bool) :
      ((wishOn flag on).map Wish.switch).Sublist [.flag flag] := by
    cases on
    · exact List.nil_sublist _
    · exact List.Sublist.refl _
  have slot (slot : Slot) (value? : Option String) :
      ((wishFor slot value?).map Wish.switch).Sublist [.slot slot] := by
    cases value?
    · exact List.nil_sublist _
    · exact List.Sublist.refl _
  have all : (choice.wishes.map Wish.switch).Sublist
      [.slot .path, .flag .json, .slot .threshold, .slot .directory, .flag .isolate,
        .flag .noFail, .slot .config, .flag .quiet] := by
    simp only [wishes, List.map_append]
    exact (((((((slot _ _).append (flag _ _)).append (slot _ _)).append (slot _ _)).append
      (flag _ _)).append (flag _ _)).append (slot _ _)).append (flag _ _)
  exact all.nodup (by decide)

section Chosen

variable {wishes : List Wish} (chosen : (wishes.filter (!·.asksMore)).Perm choice.wishes)
include chosen

/-- Wishes for a choice and for more messages are those for what the choice gives. -/
theorem mem_iff_of_chosen (least : wish.asksMore = false) :
    wish ∈ wishes ↔ choice.given.Has wish := by
  rw [← mem_wishes_iff, ← chosen.mem_iff, List.mem_filter]
  simp [least]

theorem proper_of_chosen (proper : choice.IsProper) : ∀ wish ∈ wishes, wish.Proper := by
  intro wish member
  cases least : wish.asksMore with
  | false =>
      exact proper_of_mem proper (mem_wishes_iff.mpr ((mem_iff_of_chosen chosen least).mp member))
  | true => exact proper_of_asksMore least

theorem once_of_chosen :
    wishes.Pairwise fun one another => one.switch = another.switch → one.asksMore := by
  have nodup := (chosen.map Wish.switch).nodup_iff.mpr nodup_switches
  rw [List.Nodup, List.pairwise_map, List.pairwise_filter] at nodup
  refine nodup.imp fun {one another} distinct same => ?_
  by_contra least
  have leastToo := least
  rw [Wish.asksMore, same] at leastToo
  exact distinct (by simpa using least) (by simpa [Wish.asksMore] using leastToo) same

end Chosen

/-- Two levels that give what a choice does combine to it. -/
theorem combine_eq {outer inner : Given}
    (has : ∀ wish : Wish, wish.asksMore = false →
      (outer.Has wish ∨ inner.Has wish ↔ choice.given.Has wish))
    (common : ∀ wish, outer.Has wish → wish.switch.commonName?.isSome) :
    combine outer inner choice.path =
      { choice with verbose := if inner.verbose = 0 then outer.verbose else inner.verbose } := by
  have own (wish : Wish) (least : wish.asksMore = false)
      (other : wish.switch.commonName? = none) : inner.Has wish ↔ choice.given.Has wish := by
    rw [← has wish least, or_iff_right]
    intro had
    have named := common wish had
    rw [other] at named
    contradiction
  have threshold : inner.threshold?.map Severity.name = choice.threshold?.map Severity.name :=
    Option.ext fun name => own (.fill .threshold name) rfl rfl
  have config : inner.config?.or outer.config? = choice.config? := by
    cases behind : inner.config? with
    | none =>
        refine Option.ext fun value => ?_
        have either := has (.fill .config value) rfl
        simpa [Given.Has, given, behind] using either
    | some value => exact ((has (.fill .config value) rfl).mp (.inr behind)).symm
  rw [combine, mk.injEq]
  refine ⟨rfl, ?_, ?_, ?_, ?_, ?_, config, rfl, ?_⟩
  · exact Bool.eq_iff_iff.mpr (own (.set .json) rfl rfl)
  · exact Option.map_injective (fun _ _ => Severity.name_injective) threshold
  · exact Option.ext fun value => own (.fill .directory value) rfl rfl
  · exact Bool.eq_iff_iff.mpr (own (.set .isolate) rfl rfl)
  · exact Bool.eq_iff_iff.mpr (own (.set .noFail) rfl rfl)
  · rw [Bool.eq_iff_iff, Bool.or_eq_true, or_comm]
    exact has (.set .quiet) rfl

end Choice

/-! ## Whole command lines -/

section Line

variable {level : Level} {args : List String} {wishes : List Wish}

theorem IsRow.common {letters : List Char} {flags : List Flag} (row : IsRow letters flags) :
    ∀ wish ∈ flags.map Wish.set, wish.switch.commonName?.isSome := by
  induction row with
  | nil => simp
  | cons lettered _ ih =>
      rw [List.map_cons, List.forall_mem_cons]
      exact ⟨commonName?_isSome_of_letter? lettered, ih⟩

/-- In front of the subcommand only that is asked for which both levels have. -/
theorem Piece.common (piece : Piece .outer args wishes) :
    ∀ wish ∈ wishes, wish.switch.commonName?.isSome := by
  cases piece with
  | flag named => exact List.forall_mem_singleton.mpr (Option.isSome_of_eq_some named)
  | attached named value => exact List.forall_mem_singleton.mpr (Option.isSome_of_eq_some named)
  | next named free => exact List.forall_mem_singleton.mpr (Option.isSome_of_eq_some named)
  | letters row any => exact row.common
  | lettersAttached row lettered value =>
      exact List.forall_mem_append.mpr ⟨row.common,
        List.forall_mem_singleton.mpr (commonName?_isSome_of_letter? lettered)⟩
  | lettersNext row lettered free =>
      exact List.forall_mem_append.mpr ⟨row.common,
        List.forall_mem_singleton.mpr (commonName?_isSome_of_letter? lettered)⟩

theorem Spelling.common (spelling : Spelling .outer args wishes) :
    ∀ wish ∈ wishes, wish.switch.commonName?.isSome := by
  induction spelling with
  | nil => simp
  | cons piece _ ih => exact List.forall_mem_append.mpr ⟨piece.common, ih⟩

/-- A level that is spelled is read, and gives what its pieces ask for. -/
theorem Spelling.exists_readLevel_eq (spelling : Spelling level args wishes)
    (proper : ∀ wish ∈ wishes, wish.Proper)
    (once : wishes.Pairwise fun one another => one.switch = another.switch → one.asksMore) :
    ∃ p g, p.StandsFor g ∧
      (∀ rest, readLevel level false {} (args ++ rest) = readLevel level false p rest) ∧
        (∀ wish, g.Has wish ↔ wish ∈ wishes) ∧
          g.verbose = min (wishes.countP Wish.asksMore) Given.countLimit := by
  obtain ⟨g, granted, has⟩ := exists_grantAll proper once
    fun _ _ _ old _ => Given.not_has_empty old
  obtain ⟨p, stands, read⟩ :=
    spelling.exists_readLevel_append (Progress.standsFor_given rfl) granted
  have verbose := verbose_of_grantAll granted (Nat.zero_le _)
  rw [Nat.zero_add] at verbose
  refine ⟨p, g, stands, read, fun wish => ?_, verbose⟩
  rw [has, or_iff_right (Given.not_has_empty wish)]

/-- Every spelling of a choice is accepted and gives it.  Flags for more messages behind the
subcommand count, or else those in front of it. -/
theorem ofList_spelled {choice : Arguments} {before after : List String} {early late : Nat}
    (proper : choice.IsProper) (spelled : choice.Spelled before after early late) :
    ofList (before ++ "test" :: after) =
      .ok { choice with verbose := min (if late = 0 then early else late) Given.countLimit } := by
  obtain ⟨asked, wished, outerSpelled, innerSpelled, chosen, rfl, rfl⟩ := spelled
  obtain ⟨outerProper, innerProper⟩ := List.forall_mem_append.mp (proper_of_chosen chosen proper)
  obtain ⟨outerOnce, innerOnce, -⟩ := List.pairwise_append.mp (once_of_chosen chosen)
  obtain ⟨p, outer, pStands, pRead, outerHas, outerMore⟩ :=
    outerSpelled.exists_readLevel_eq outerProper outerOnce
  obtain ⟨q, inner, qStands, qRead, innerHas, innerMore⟩ :=
    innerSpelled.exists_readLevel_eq innerProper innerOnce
  have outerRead : readLevel .outer false {} (before ++ "test" :: after) = .ok (p, some after) := by
    rw [pRead, readLevel]
    simp [pStands.waits_eq_false]
  have innerRead : readLevel .inner false {} after = .ok (q, none) := by
    rw [← List.append_nil after, qRead]
    rfl
  have has (wish : Wish) (least : wish.asksMore = false) :
      outer.Has wish ∨ inner.Has wish ↔ choice.given.Has wish := by
    rw [outerHas, innerHas, ← List.mem_append, mem_iff_of_chosen chosen least]
  have common (wish : Wish) (had : outer.Has wish) : wish.switch.commonName?.isSome :=
    outerSpelled.common wish ((outerHas wish).mp had)
  have path : inner.path? = some choice.path := by
    refine ((has (.fill .path choice.path) rfl).mpr rfl).resolve_left fun inFront => ?_
    exact Bool.false_ne_true (common _ inFront)
  have verbose : (if inner.verbose = 0 then outer.verbose else inner.verbose) =
      min (if wished.countP Wish.asksMore = 0 then asked.countP Wish.asksMore
        else wished.countP Wish.asksMore) Given.countLimit := by
    rw [outerMore, innerMore, Given.countLimit]
    split_ifs <;> omega
  rw [ofList, outerRead, ← verbose, ← combine_eq has common]
  simp [bind, Except.bind, innerRead, qStands.settled, path, pStands.settled, pure, Except.pure]

theorem ofList_spelled_mixed :
    let choice : Arguments :=
      { path := "charts", json := true, threshold? := some .high, directory? := some "rules=1",
        config? := some "test", quiet := true }
    let before := ["--verbose", "-qvc", "test"]
    let after := ["--cache-dir=rules=1", "-vv", "charts", "--severity-threshold", "high", "-v",
      "--json"]
    choice.IsProper ∧ choice.Spelled before after 2 3 ∧
      ofList (before ++ "test" :: after) = .ok { choice with verbose := 3 } := by
  intro choice before after
  have proper : choice.IsProper := ⟨by decide, by decide, by decide⟩
  have row : IsRow ['q', 'v'] [.quiet, .verbose] := .cons rfl (.cons rfl .nil)
  have moreRow : IsRow ['v', 'v'] [.verbose, .verbose] := .cons rfl (.cons rfl .nil)
  have outer : Spelling .outer before
      [.set .verbose, .set .quiet, .set .verbose, .fill .config "test"] :=
    .cons (@Piece.flag _ .verbose "verbose" rfl) <|
    .cons (@Piece.lettersNext _ _ _ .config 'c' "test" row rfl (by decide)) .nil
  have inner : Spelling .inner after
      [.fill .directory "rules=1", .set .verbose, .set .verbose, .fill .path "charts",
        .fill .threshold "high", .set .verbose, .set .json] :=
    .cons (@Piece.attached _ .directory "cache-dir" rfl "rules=1") <|
    .cons (.letters moreRow (by decide)) <|
    .cons (@Piece.path "charts" (by decide)) <|
    .cons (@Piece.next _ .threshold "severity-threshold" "high" rfl (by decide)) <|
    .cons (@Piece.letters _ ['v'] [.verbose] (.cons rfl .nil) (by decide)) <|
    .cons (@Piece.flag _ .json "json" rfl) .nil
  have spelled : choice.Spelled before after 2 3 :=
    ⟨_, _, outer, inner, by decide, rfl, rfl⟩
  exact ⟨proper, spelled, ofList_spelled proper spelled⟩

/-- Flags for more messages on both sides are not added up. -/
theorem ofList_spelled_not_sum :
    let choice : Arguments := { path := "p" }
    choice.IsProper ∧ choice.Spelled ["-v"] ["-v", "p"] 1 1 ∧
      ofList ["-v", "test", "-v", "p"] = .ok { choice with verbose := 1 } ∧
        ofList ["-v", "test", "-v", "p"] ≠
          .ok { choice with verbose := min (1 + 1) Given.countLimit } := by
  intro choice
  have more {level : Level} : Piece level ["-v"] [.set .verbose] :=
    @Piece.letters _ ['v'] [.verbose] (.cons rfl .nil) (by decide)
  have inner : Spelling .inner ["-v", "p"] [.set .verbose, .fill .path "p"] :=
    .cons more (.cons (@Piece.path "p" (by decide)) .nil)
  have read : ofList ["-v", "test", "-v", "p"] = .ok { choice with verbose := 1 } := by decide
  refine ⟨⟨by decide, by decide, by decide⟩, ?_, read, ?_⟩
  · exact ⟨_, _, .cons more .nil, inner, by decide, rfl, rfl⟩
  · rw [read]
    decide

end Line

end PolicyScan.Arguments
