import Mathlib.Data.List.TakeWhile
import PolicyScan.FileKind
import PolicyScan.Proofs.Utf8

/-!
# Names and extensions of paths

A path ends in at most one part that leads somewhere else, whatever slashes and dots
stand behind it (`getLast?_steps_eq_some_iff`), and a directory put in front changes
nothing about that part.  The path of an entry of a directory has the parts of the
directory's path and the entry's name behind them.  So the name alone decides of which
kind a file is: it must end in a dot and the name of the kind, with something in front
of the dot (`ofPath?_eq_some_iff`).
-/

namespace PolicyScan

namespace RawPath

/-! ## Parts -/

@[simp]
theorem segments_ne_nil (l : List UInt8) : segments l ≠ [] := by
  cases l with
  | nil => simp [segments]
  | cons b l =>
      rw [segments]
      split
      · simp
      · split <;> simp

theorem segments_of_not_mem {l : List UInt8} (noSlash : 0x2F ∉ l) : segments l = [l] := by
  induction l with
  | nil => rfl
  | cons b l ih =>
      rw [List.mem_cons, not_or] at noSlash
      rw [segments, if_neg (Ne.symm noSlash.1), ih noSlash.2]

theorem segments_append_slash (l m : List UInt8) :
    segments (l ++ 0x2F :: m) = segments l ++ segments m := by
  induction l with
  | nil => rfl
  | cons b l ih =>
      rw [List.cons_append, segments, segments, ih]
      split
      · rfl
      · cases parts : segments l with
        | nil => exact absurd parts (segments_ne_nil l)
        | cons part parts => rfl

/-- The parts of an entry's path are the parts of the directory's path, an empty
one at its end aside, and the name. -/
theorem segments_child {directory : RawPath} (name : Name) (nonempty : directory.bytes ≠ []) :
    ∃ parts, segments (directory.child name).bytes = parts ++ [name.bytes] ∧
      (segments directory.bytes = parts ∨ segments directory.bytes = parts ++ [[]]) := by
  have nameParts : segments name.bytes = [name.bytes] :=
    segments_of_not_mem name.valid.2.2.2.1
  rw [child]
  split
  · rename_i ending
    obtain ⟨front, bytesEq⟩ := List.getLast?_eq_some_iff.mp (ending.resolve_left nonempty)
    have childParts := segments_append_slash front name.bytes
    refine ⟨segments front, ?_, .inr ?_⟩
    · rw [bytesEq, List.append_assoc, List.singleton_append, childParts, nameParts]
    · rw [bytesEq, segments_append_slash]
      rfl
  · refine ⟨segments directory.bytes, ?_, .inl rfl⟩
    rw [segments_append_slash, nameParts]

/-- The name of an entry is one step more. -/
theorem steps_child {directory : RawPath} (name : Name) (nonempty : directory.bytes ≠ []) :
    (directory.child name).steps = directory.steps ++ [name.bytes] := by
  obtain ⟨parts, partsEq, directoryParts⟩ := segments_child name nonempty
  obtain ⟨notEmpty, notHere, -⟩ := name.valid
  rw [steps, steps, partsEq, List.filter_append,
    List.filter_cons_of_pos (by simp [notEmpty, notHere]), List.filter_nil]
  rcases directoryParts with same | slashed
  · rw [same]
  · rw [slashed, List.filter_append, List.filter_cons_of_neg (by simp), List.filter_nil,
      List.append_nil]

theorem child_ne_nil (directory : RawPath) (name : Name) : (directory.child name).bytes ≠ [] := by
  rw [child]
  split
  · exact List.append_ne_nil_of_right_ne_nil _ name.valid.1
  · exact List.append_ne_nil_of_right_ne_nil _ (List.cons_ne_nil _ _)

theorem head?_child {directory : RawPath} {name : Name} (nonempty : directory.bytes ≠ []) :
    (directory.child name).bytes.head? = directory.bytes.head? := by
  rw [child]
  split <;> exact List.head?_append_of_ne_nil _ nonempty

theorem not_mem_child {directory : RawPath} {name : Name} (noNul : 0 ∉ directory.bytes)
    (noNulName : 0 ∉ name.bytes) : 0 ∉ (directory.child name).bytes := by
  rw [child]
  split <;> simp [noNul, noNulName]

theorem length_add_le_length_child (directory : RawPath) (name : Name) :
    directory.bytes.length + name.bytes.length ≤ (directory.child name).bytes.length := by
  rw [child]
  split
  · rw [List.length_append]
  · rw [List.length_append, List.length_cons]
    omega

/-! ## Paths for a reader -/

/-- The bytes of some text. -/
def IsText (path : RawPath) : Prop := ∃ text, path.bytes = Utf8.encode text

/-- Paths that are texts look different if they differ. -/
theorem eq_of_text_eq {path other : RawPath} (isText : path.IsText) (otherIsText : other.IsText)
    (same : path.text = other.text) : path = other := by
  obtain ⟨_, pathEq⟩ := isText
  obtain ⟨_, otherEq⟩ := otherIsText
  rw [text, text, pathEq, otherEq, Utf8.decodeLossy_encode, Utf8.decodeLossy_encode] at same
  exact congrArg RawPath.mk (pathEq.trans (same ▸ otherEq.symm))

/-! ## The last part -/

/-- Slashes, and dots behind slashes.  Behind a path they stay at its place. -/
inductive Stays : List UInt8 → Prop
  | nil : Stays []
  | slash {tail : List UInt8} (more : Stays tail) : Stays (0x2F :: tail)
  | here {tail : List UInt8} (more : Stays tail) : Stays (0x2F :: 0x2E :: tail)

/-- A part that leads somewhere else. -/
def IsStep (part : List UInt8) : Prop := part ≠ [] ∧ part ≠ [0x2E] ∧ 0x2F ∉ part

/-- What a part can stand behind: nothing, or a slash. -/
def Opens (front : List UInt8) : Prop := front = [] ∨ front.getLast? = some 0x2F

/-- A path ends in a part if nothing behind it leads somewhere else. -/
def EndsIn (path : RawPath) (part : List UInt8) : Prop :=
  IsStep part ∧ ∃ front tail, Opens front ∧ Stays tail ∧ path.bytes = front ++ (part ++ tail)

/-- The part that a path ends in is its name, unless it leads upwards. -/
def HasName (path : RawPath) (name : List UInt8) : Prop :=
  path.EndsIn name ∧ name ≠ [0x2E, 0x2E]

theorem Opens.append {front more : List UInt8} (opens : Opens front) (moreOpens : Opens more) :
    Opens (front ++ more) := by
  rcases moreOpens with rfl | slash
  · rwa [List.append_nil]
  · exact .inr (by rw [List.getLast?_append, slash, Option.some_or])

/-- What a path ends in does not depend on the directory that it starts from. -/
theorem EndsIn.append {path : RawPath} {part front : List UInt8} (ends : path.EndsIn part)
    (opens : Opens front) : EndsIn ⟨front ++ path.bytes⟩ part := by
  obtain ⟨isStep, more, tail, moreOpens, stays, bytesEq⟩ := ends
  exact ⟨isStep, front ++ more, tail, opens.append moreOpens, stays, by
    rw [bytesEq, List.append_assoc]⟩

theorem IsStep.endsIn {part : List UInt8} (isStep : IsStep part) : EndsIn ⟨part⟩ part :=
  ⟨isStep, [], [], .inl rfl, .nil, (List.append_nil part).symm⟩

theorem steps_append_slash (l m : List UInt8) :
    steps ⟨l ++ 0x2F :: m⟩ = steps ⟨l⟩ ++ steps ⟨m⟩ := by
  rw [steps, segments_append_slash, List.filter_append]
  rfl

theorem IsStep.steps_eq {part : List UInt8} (isStep : IsStep part) : steps ⟨part⟩ = [part] := by
  obtain ⟨nonempty, notHere, noSlash⟩ := isStep
  rw [steps, segments_of_not_mem noSlash, List.filter_cons_of_pos (by simp [nonempty, notHere]),
    List.filter_nil]

theorem Opens.steps_append {front : List UInt8} (opens : Opens front) (l : List UInt8) :
    steps ⟨front ++ l⟩ = steps ⟨front⟩ ++ steps ⟨l⟩ := by
  rcases opens with rfl | slash
  · rfl
  · obtain ⟨before, rfl⟩ := List.getLast?_eq_some_iff.mp slash
    have frontSteps : steps ⟨before ++ [0x2F]⟩ = steps ⟨before⟩ :=
      (steps_append_slash before []).trans (List.append_nil _)
    rw [frontSteps, List.append_assoc, List.singleton_append, steps_append_slash]

theorem Stays.steps_append {tail : List UInt8} (stays : Stays tail) (l : List UInt8) :
    steps ⟨l ++ tail⟩ = steps ⟨l⟩ := by
  induction stays generalizing l with
  | nil => rw [List.append_nil]
  | slash more ih =>
      have none := ih []
      rw [List.nil_append] at none
      rw [steps_append_slash, none]
      exact List.append_nil _
  | here more ih =>
      have none := ih [0x2E]
      rw [List.singleton_append] at none
      rw [steps_append_slash, none]
      exact List.append_nil _

theorem EndsIn.getLast?_steps {path : RawPath} {part : List UInt8} (ends : path.EndsIn part) :
    path.steps.getLast? = some part := by
  obtain ⟨isStep, front, tail, opens, stays, bytesEq⟩ := ends
  obtain ⟨bytes⟩ := path
  subst bytesEq
  rw [opens.steps_append, stays.steps_append, isStep.steps_eq, List.getLast?_concat]

theorem EndsIn.unique {path : RawPath} {part other : List UInt8} (ends : path.EndsIn part)
    (otherEnds : path.EndsIn other) : part = other :=
  Option.some.inj (ends.getLast?_steps.symm.trans otherEnds.getLast?_steps)

/-- A path leads nowhere, or ends in a part. -/
theorem stays_or_endsIn (l : List UInt8) : Stays (0x2F :: l) ∨ ∃ part, EndsIn ⟨l⟩ part := by
  -- What stands before the first slash is the part to look for, if nothing behind is.
  have first {part tail : List UInt8} (noSlash : 0x2F ∉ part) (stays : Stays tail) :
      Stays (0x2F :: (part ++ tail)) ∨ ∃ last, EndsIn ⟨part ++ tail⟩ last := by
    by_cases empty : part = []
    · exact .inl (empty ▸ stays.slash)
    by_cases here : part = [0x2E]
    · exact .inl (here ▸ stays.here)
    · exact .inr ⟨part, ⟨empty, here, noSlash⟩, [], tail, .inl rfl, stays, rfl⟩
  by_cases slash : 0x2F ∈ l
  · obtain ⟨part, rest, split, noSlash⟩ := List.eq_append_cons_of_mem slash
    rw [split]
    rcases stays_or_endsIn rest with stays | ⟨last, ends⟩
    · exact first noSlash stays
    · exact .inr ⟨last, List.append_cons _ _ _ ▸ ends.append (.inr List.getLast?_concat)⟩
  · exact List.append_nil l ▸ first slash .nil
termination_by l.length
decreasing_by
  rw [split, List.length_append, List.length_cons]
  omega

theorem getLast?_steps_eq_some_iff {path : RawPath} {part : List UInt8} :
    path.steps.getLast? = some part ↔ path.EndsIn part := by
  refine ⟨fun last => ?_, EndsIn.getLast?_steps⟩
  rcases stays_or_endsIn path.bytes with stays | ⟨other, ends⟩
  · have none : path.steps = [] :=
      (steps_append_slash [] path.bytes).symm.trans (stays.steps_append [])
    rw [none] at last
    cases last
  · rw [ends.getLast?_steps] at last
    exact Option.some.inj last ▸ ends

theorem name?_eq_some_iff {path : RawPath} {name : List UInt8} :
    path.name? = some name ↔ path.HasName name := by
  rw [name?, Option.filter_eq_some_iff, getLast?_steps_eq_some_iff, HasName, decide_eq_true_iff]

/-- A path without a name leads nowhere, or upwards at its end. -/
theorem stays_or_endsIn_of_name? {path : RawPath} (unnamed : path.name? = none) :
    Stays (0x2F :: path.bytes) ∨ path.EndsIn [0x2E, 0x2E] := by
  rcases stays_or_endsIn path.bytes with stays | ⟨part, ends⟩
  · exact .inl stays
  · have upwards : part = [0x2E, 0x2E] := by
      by_contra other
      rw [name?_eq_some_iff.mpr ⟨ends, other⟩] at unnamed
      cases unnamed
    exact .inr (upwards ▸ ends)

/-- An entry's path has the name of the entry. -/
theorem hasName_child {directory : RawPath} (name : Name) (nonempty : directory.bytes ≠ []) :
    (directory.child name).HasName name.bytes := by
  refine ⟨getLast?_steps_eq_some_iff.mp ?_, name.valid.2.2.1⟩
  rw [steps_child name nonempty, List.getLast?_concat]

/-! ## Extensions -/

theorem stemAndExtension?_append_dot (stem : List UInt8) {extension : List UInt8}
    (noDot : 0x2E ∉ extension) :
    stemAndExtension? (stem ++ 0x2E :: extension) =
      if stem = [] then none else some (stem, extension) := by
  have others : ∀ b ∈ extension.reverse, decide (b ≠ 0x2E) = true := fun b member =>
    decide_eq_true (ne_of_mem_of_not_mem (List.mem_reverse.mp member) noDot)
  have reversed : (stem ++ 0x2E :: extension).reverse =
      extension.reverse ++ 0x2E :: stem.reverse := by simp
  rw [stemAndExtension?, reversed, List.dropWhile_append_of_pos others,
    List.takeWhile_append_of_pos others, List.dropWhile_cons_of_neg (by decide),
    List.takeWhile_cons_of_neg (by decide)]
  simp

theorem stemAndExtension?_of_not_mem {name : List UInt8} (noDot : 0x2E ∉ name) :
    stemAndExtension? name = none := by
  have nothing : name.reverse.dropWhile (· ≠ 0x2E) = [] := by
    rw [List.dropWhile_eq_nil_iff]
    exact fun b member =>
      decide_eq_true (ne_of_mem_of_not_mem (List.mem_reverse.mp member) noDot)
  rw [stemAndExtension?, nothing]

/-- The extension stands behind the last dot, and something in front of it. -/
theorem stemAndExtension?_eq_some_iff {name stem extension : List UInt8} :
    stemAndExtension? name = some (stem, extension) ↔
      name = stem ++ 0x2E :: extension ∧ stem ≠ [] ∧ 0x2E ∉ extension := by
  constructor
  · intro split
    by_cases dot : 0x2E ∈ name
    · obtain ⟨after, before, reversed, noDot⟩ :=
        List.eq_append_cons_of_mem (List.mem_reverse.mpr dot)
      have nameEq : name = before.reverse ++ 0x2E :: after.reverse := by
        rw [← List.reverse_reverse name, reversed]
        simp
      have noDot : 0x2E ∉ after.reverse := fun member => noDot (List.mem_reverse.mp member)
      rw [nameEq, stemAndExtension?_append_dot _ noDot] at split
      split at split
      · cases split
      · rename_i nonempty
        cases split
        exact ⟨nameEq, nonempty, noDot⟩
    · rw [stemAndExtension?_of_not_mem dot] at split
      cases split
  · rintro ⟨rfl, nonempty, noDot⟩
    rw [stemAndExtension?_append_dot stem noDot, if_neg nonempty]

theorem extension?_eq_some_iff {path : RawPath} {extension : List UInt8} :
    path.extension? = some extension ↔
      ∃ stem, path.HasName (stem ++ 0x2E :: extension) ∧ stem ≠ [] ∧ 0x2E ∉ extension := by
  rw [extension?, Option.map_eq_some_iff]
  constructor
  · rintro ⟨⟨stem, _⟩, split, rfl⟩
    obtain ⟨name, named, split⟩ := Option.bind_eq_some_iff.mp split
    obtain ⟨rfl, nonempty, noDot⟩ := stemAndExtension?_eq_some_iff.mp split
    exact ⟨stem, name?_eq_some_iff.mp named, nonempty, noDot⟩
  · rintro ⟨stem, named, nonempty, noDot⟩
    refine ⟨(stem, extension), ?_, rfl⟩
    rw [name?_eq_some_iff.mpr named]
    exact stemAndExtension?_eq_some_iff.mpr ⟨rfl, nonempty, noDot⟩

/-- A dot in front of a name begins no extension. -/
theorem extension?_of_dotFile {path : RawPath} {rest : List UInt8}
    (named : path.HasName (0x2E :: rest)) (noDot : 0x2E ∉ rest) : path.extension? = none := by
  rw [Option.eq_none_iff_forall_ne_some]
  intro extension extensionEq
  obtain ⟨stem, other, nonempty, -⟩ := extension?_eq_some_iff.mp extensionEq
  have nameEq := named.1.unique other.1
  cases stem with
  | nil => exact nonempty rfl
  | cons b front =>
      rw [List.cons_append, List.cons.injEq] at nameEq
      exact noDot (nameEq.2 ▸ List.mem_append_cons_self)

end RawPath

namespace FileKind

theorem ofName?_eq_some_iff {text : String} {kind : FileKind} :
    ofName? text = some kind ↔ text = kind.name := by
  constructor
  · intro named
    unfold ofName? at named
    split at named <;> cases named <;> rfl
  · rintro rfl
    exact ofName?_name kind

theorem encode_dot_append (text : String) :
    Utf8.encode ("." ++ text) = 0x2E :: Utf8.encode text :=
  Utf8.encode_append "." text

/-- The kind of a file is told by the end of its name. -/
theorem ofPath?_eq_some_iff {path : RawPath} {kind : FileKind} :
    ofPath? path = some kind ↔
      ∃ stem, path.HasName (stem ++ Utf8.encode ("." ++ kind.name)) ∧ stem ≠ [] := by
  have noDot : 0x2E ∉ Utf8.encode kind.name := by cases kind <;> decide
  rw [encode_dot_append, ofPath?, Option.bind_eq_some_iff]
  constructor
  · rintro ⟨text, decoded, known⟩
    obtain ⟨extension, extensionEq, decoded⟩ := Option.bind_eq_some_iff.mp decoded
    obtain ⟨stem, named, nonempty, -⟩ := RawPath.extension?_eq_some_iff.mp extensionEq
    rw [Utf8.decode?_eq_some_iff.mp decoded, ofName?_eq_some_iff.mp known] at named
    exact ⟨stem, named, nonempty⟩
  · rintro ⟨stem, named, nonempty⟩
    have extensionEq := RawPath.extension?_eq_some_iff.mpr ⟨stem, named, nonempty, noDot⟩
    exact ⟨kind.name, Option.bind_eq_some_iff.mpr
      ⟨_, extensionEq, Utf8.decode?_eq_some_iff.mpr rfl⟩, ofName?_name kind⟩

/-- The kind of an entry is told by the end of its name. -/
theorem ofPath?_child_eq_some_iff {directory : RawPath} {name : Name} {kind : FileKind}
    (nonempty : directory.bytes ≠ []) :
    ofPath? (directory.child name) = some kind ↔
      ∃ stem, stem ≠ [] ∧ name.bytes = stem ++ Utf8.encode ("." ++ kind.name) := by
  have entryNamed := RawPath.hasName_child name nonempty
  rw [ofPath?_eq_some_iff]
  constructor
  · rintro ⟨stem, named, stemNonempty⟩
    exact ⟨stem, stemNonempty, entryNamed.1.unique named.1⟩
  · rintro ⟨stem, stemNonempty, nameEq⟩
    exact ⟨stem, nameEq ▸ entryNamed, stemNonempty⟩

end FileKind
end PolicyScan
