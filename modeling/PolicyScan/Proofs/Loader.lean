import Mathlib.Data.List.Flatten
import Mathlib.Data.List.Perm.Subperm
import PolicyScan.Loader
import PolicyScan.Proofs.FileStore

/-!
# What is loaded from a directory

A walk finds the files of an accepted kind below a directory that are reached
through directories alone, not too deep, under names that do not start with a
dot (`mem_found_iff`).  It finds each once and in the order of the names on the
way (`found_sorted`).  What is loaded are these files (`load_eq`), unless the path
of one is too long to be read; a directory whose path is too long is skipped.
-/

namespace PolicyScan

/-- The path to which names lead from a path, one below the other. -/
def RawPath.descend (path : RawPath) (names : List Name) : RawPath := names.foldl child path

/-- A regular file below a directory, with the names that lead to it through
directories alone. -/
inductive FileStore.FileBelow (store : FileStore) : Location → List Name → List UInt8 → Prop
  | entry {directory : Location} {name : Name} {bytes : List UInt8}
      (file : store.item? (name :: directory) = some (.file bytes)) :
      FileBelow store directory [name] bytes
  | deeper {directory : Location} {name : Name} {names : List Name} {bytes : List UInt8}
      (inner : store.item? (name :: directory) = some .directory)
      (below : FileBelow store (name :: directory) names bytes) :
      FileBelow store directory (name :: names) bytes

theorem FileStore.FileBelow.ne_nil {store : FileStore} {directory : Location} {names : List Name}
    {bytes : List UInt8} (below : store.FileBelow directory names bytes) : names ≠ [] := by
  cases below <;> exact List.cons_ne_nil _ _

theorem FileStore.FileBelow.length_le {store : FileStore} {deepest : Nat}
    (shallow : ∀ (place : Location) (item : Item), store.item? place = some item →
      place.length ≤ deepest) {directory : Location} {names : List Name} {bytes : List UInt8}
    (below : store.FileBelow directory names bytes) :
    names.length + directory.length ≤ deepest := by
  induction below with
  | entry file =>
      have bound := shallow _ _ file
      rw [List.length_cons] at bound
      rw [List.length_singleton]
      omega
  | deeper inner below ih =>
      rw [List.length_cons] at ih ⊢
      omega

namespace Loader

/-- A text with a dot in front. -/
def StartsWithDot (name : Name) : Prop := ∃ rest, name.bytes = Utf8.encode ("." ++ rest)

/-- A name with the extension of a kind and something in front of it. -/
def HasKind (name : Name) (kind : FileKind) : Prop :=
  ∃ stem, stem ≠ [] ∧ name.bytes = stem ++ Utf8.encode ("." ++ kind.name)

/-- A file of an accepted kind, with the names that lead to it from a directory. -/
structure Found where
  names : List Name
  kind : FileKind
  bytes : List UInt8

namespace Found

/-- The bytes of the names. -/
def components (f : Found) : List (List UInt8) := f.names.map Name.bytes

/-- The same file seen from the directory above. -/
def under (name : Name) (f : Found) : Found := { f with names := name :: f.names }

/-- Its path, where the directory has the given one. -/
def pathFrom (path : RawPath) (f : Found) : RawPath := path.descend f.names

/-- It as a file to be parsed. -/
def file (path : RawPath) (f : Found) : SourceFile :=
  ⟨f.pathFrom path, f.kind, Utf8.decodeLossy f.bytes⟩

end Found

/-- A file that is to be loaded from a directory: a regular file that is reached
through directories alone, not too deep, of an accepted kind, with no name on the
way that starts with a dot, in a directory that can be opened. -/
structure Eligible (store : FileStore) (path : RawPath) (directory : Location) (depth : Nat)
    (f : Found) : Prop where
  below : store.FileBelow directory f.names f.bytes
  depth : f.names.length ≤ depth
  visible : ∀ name ∈ f.names, ¬StartsWithDot name
  kind : ∃ last, f.names.getLast? = some last ∧ HasKind last f.kind
  reached : ¬(path.descend f.names.dropLast).isTooLong

/-- The files that are found in an entry of a directory, where `inside` has those
of a directory that the entry is. -/
def foundAt (store : FileStore) (directory : Location) (path : RawPath) (name : Name)
    (inside : List Found) : List Found :=
  if isHidden name then []
  else match store.item? (name :: directory) with
    | some .directory => inside.map (.under name)
    | some (.file bytes) =>
      (FileKind.ofPath? (path.child name)).toList.map fun kind => ⟨[name], kind, bytes⟩
    | _ => []

/-- The files that a walk finds. -/
def found (store : FileStore) : Nat → Location → RawPath → List Found
  | 0, _, _ => []
  | depth + 1, directory, path =>
    if path.isTooLong then []
    else (store.names directory).flatMap fun name =>
      foundAt store directory path name (found store depth (name :: directory) (path.child name))

theorem found_succ (store : FileStore) (depth : Nat) (directory : Location) (path : RawPath) :
    found store (depth + 1) directory path =
      if path.isTooLong then []
      else (store.names directory).flatMap fun name =>
        foundAt store directory path name
          (found store depth (name :: directory) (path.child name)) :=
  rfl

variable {store : FileStore} {path : RawPath} {directory : Location} {depth : Nat}

/-! ## Paths that are too long -/

theorem isTooLong_child (long : path.isTooLong) (name : Name) : (path.child name).isTooLong := by
  have longer := path.length_add_le_length_child name
  rw [RawPath.isTooLong, decide_eq_true_iff] at long ⊢
  omega

theorem isTooLong_descend (long : path.isTooLong) (names : List Name) :
    (path.descend names).isTooLong := by
  induction names generalizing path with
  | nil => exact long
  | cons name names ih => exact ih (isTooLong_child long name)

theorem not_isTooLong_of_directory? (opened : store.directory? path = some directory) :
    ¬path.isTooLong := by
  have located := FileStore.directory?_eq_some_iff.mp opened
  exact (FileStore.locate_eq_ok_iff.mp located).2.1

/-- A file below a directory is read by its path, unless this is too long. -/
theorem read_descend {names : List Name} {bytes : List UInt8}
    (opened : store.directory? path = some directory)
    (below : store.FileBelow directory names bytes)
    (reached : ¬(path.descend names.dropLast).isTooLong) :
    store.read (path.descend names) =
      if (path.descend names).isTooLong then .error .nameTooLong else .ok bytes := by
  induction below generalizing path with
  | @entry directory name bytes file =>
      exact FileStore.read_child opened file
  | @deeper directory name names bytes inner below ih =>
      rw [List.dropLast_cons_of_ne_nil below.ne_nil] at reached
      have short : ¬(path.child name).isTooLong := fun long => reached (isTooLong_descend long _)
      refine ih ?_ reached
      rw [FileStore.directory?_child opened inner, if_neg short]

/-! ## Which files are found -/

theorem isHidden_iff {name : Name} : isHidden name ↔ StartsWithDot name := by
  rw [isHidden, Option.any_eq_true, StartsWithDot]
  constructor
  · rintro ⟨text, decoded, dotted⟩
    obtain ⟨rest, charsEq⟩ := List.head?_eq_some_iff.mp (of_decide_eq_true dotted)
    have textEq : text = "." ++ String.ofList rest := by
      rw [← String.toList_inj, charsEq]
      simp
    exact ⟨String.ofList rest, textEq ▸ Utf8.decode?_eq_some_iff.mp decoded⟩
  · rintro ⟨rest, bytesEq⟩
    refine ⟨"." ++ rest, Utf8.decode?_eq_some_iff.mpr bytesEq, ?_⟩
    simp

/-- A file is found in an entry that is not passed over, if this is a directory in
which it is found, or is the file itself. -/
theorem mem_foundAt_iff {name : Name} {inside : List Found} {f : Found} :
    f ∈ foundAt store directory path name inside ↔ ¬isHidden name ∧
      ((store.item? (name :: directory) = some .directory ∧ ∃ g ∈ inside, f = g.under name) ∨
        ∃ kind bytes, store.item? (name :: directory) = some (.file bytes) ∧
          FileKind.ofPath? (path.child name) = some kind ∧ f = ⟨[name], kind, bytes⟩) := by
  rw [foundAt]
  split
  · rename_i hidden
    simp [hidden]
  rename_i visible
  split
  · rename_i inner
    simp [inner, visible, eq_comm]
  · rename_i bytes file
    simp [file, visible, eq_comm]
  · rename_i notDirectory notFile
    refine iff_of_false List.not_mem_nil ?_
    rintro ⟨-, ⟨inner, -⟩ | ⟨_, bytes, file, -⟩⟩
    · exact notDirectory inner
    · exact notFile bytes file

theorem mem_found_succ_iff {f : Found} :
    f ∈ found store (depth + 1) directory path ↔ ¬path.isTooLong ∧
      ∃ name, f ∈ foundAt store directory path name
        (found store depth (name :: directory) (path.child name)) := by
  rw [found_succ]
  split
  · rename_i long
    simp [long]
  rename_i short
  rw [List.mem_flatMap]
  constructor
  · rintro ⟨name, -, member⟩
    exact ⟨short, name, member⟩
  · rintro ⟨-, name, member⟩
    refine ⟨name, FileStore.mem_names_iff.mpr ?_, member⟩
    rcases (mem_foundAt_iff.mp member).2 with ⟨inner, -⟩ | ⟨_, _, file, -⟩
    · exact ⟨_, inner⟩
    · exact ⟨_, file⟩

theorem eligible_under_iff {name : Name} {f : Found} (nonempty : f.names ≠ []) :
    Eligible store path directory (depth + 1) (f.under name) ↔
      ¬StartsWithDot name ∧ store.item? (name :: directory) = some .directory ∧
        Eligible store (path.child name) (name :: directory) depth f := by
  obtain ⟨names, kind, bytes⟩ := f
  have upper : (name :: names).dropLast = name :: names.dropLast :=
    List.dropLast_cons_of_ne_nil nonempty
  have last : (name :: names).getLast? = names.getLast? := List.getLast?_cons_of_ne_nil nonempty
  constructor
  · rintro ⟨below, deep, visible, kind, reached⟩
    simp only [Found.under, upper, last] at reached kind
    obtain ⟨notDot, visible⟩ := List.forall_mem_cons.mp visible
    cases below with
    | entry => exact absurd rfl nonempty
    | deeper inner below =>
        exact ⟨notDot, inner, below, Nat.le_of_succ_le_succ deep, visible, kind, reached⟩
  · rintro ⟨notDot, inner, below, deep, visible, kind, reached⟩
    refine ⟨.deeper inner below, Nat.succ_le_succ deep, ?_, ?_, ?_⟩
    · exact List.forall_mem_cons.mpr ⟨notDot, visible⟩
    · simpa only [Found.under, last] using kind
    · change ¬(path.descend (name :: names).dropLast).isTooLong
      rw [upper]
      exact reached

theorem eligible_entry_iff {name : Name} {kind : FileKind} {bytes : List UInt8} :
    Eligible store path directory (depth + 1) ⟨[name], kind, bytes⟩ ↔
      ¬StartsWithDot name ∧ store.item? (name :: directory) = some (.file bytes) ∧
        HasKind name kind ∧ ¬path.isTooLong := by
  constructor
  · rintro ⟨below, -, visible, ⟨last, lastEq, hasKind⟩, reached⟩
    cases lastEq
    refine ⟨visible name (List.mem_singleton_self name), ?_, hasKind, reached⟩
    cases below with
    | entry file => exact file
    | deeper inner below => exact absurd rfl below.ne_nil
  · rintro ⟨notDot, file, hasKind, reached⟩
    refine ⟨.entry file, Nat.succ_le_succ (Nat.zero_le depth), ?_, ⟨name, rfl, hasKind⟩, reached⟩
    exact List.forall_mem_singleton.mpr notDot

/-- A walk finds the files that are to be loaded. -/
theorem mem_found_iff {f : Found} (nonempty : path.bytes ≠ []) :
    f ∈ found store depth directory path ↔ Eligible store path directory depth f := by
  induction depth generalizing path directory f with
  | zero =>
      refine iff_of_false List.not_mem_nil fun eligible => ?_
      exact eligible.below.ne_nil (List.eq_nil_of_length_eq_zero (Nat.le_zero.mp eligible.depth))
  | succ depth ih =>
      rw [mem_found_succ_iff]
      constructor
      · rintro ⟨short, name, member⟩
        obtain ⟨visible, ⟨inner, g, inside, rfl⟩ | ⟨kind, bytes, file, kindEq, rfl⟩⟩ :=
          mem_foundAt_iff.mp member
        · have eligible := (ih (RawPath.child_ne_nil path name)).mp inside
          exact (eligible_under_iff eligible.below.ne_nil).mpr
            ⟨mt isHidden_iff.mpr visible, inner, eligible⟩
        · exact eligible_entry_iff.mpr ⟨mt isHidden_iff.mpr visible, file,
            (FileKind.ofPath?_child_eq_some_iff nonempty).mp kindEq, short⟩
      · intro eligible
        obtain ⟨names, kind, bytes⟩ := f
        cases eligible.below with
        | @entry _ name _ file =>
            obtain ⟨notDot, -, hasKind, short⟩ := eligible_entry_iff.mp eligible
            exact ⟨short, name, mem_foundAt_iff.mpr ⟨mt isHidden_iff.mp notDot, .inr ⟨kind, bytes,
              file, (FileKind.ofPath?_child_eq_some_iff nonempty).mpr hasKind, rfl⟩⟩⟩
        | @deeper _ name names _ inner below =>
            obtain ⟨notDot, -, eligible⟩ :=
              (eligible_under_iff (f := ⟨names, kind, bytes⟩) below.ne_nil).mp eligible
            have short : ¬path.isTooLong := fun long =>
              eligible.reached (isTooLong_descend (isTooLong_child long name) _)
            exact ⟨short, name, mem_foundAt_iff.mpr ⟨mt isHidden_iff.mp notDot, .inl ⟨inner,
              ⟨names, kind, bytes⟩, (ih (RawPath.child_ne_nil path name)).mpr eligible, rfl⟩⟩⟩

/-! ## In which order -/

/-- What is found in an entry has its name first. -/
theorem exists_cons_of_mem_foundAt {name : Name} {inside : List Found} {f : Found}
    (member : f ∈ foundAt store directory path name inside) :
    ∃ others, f.components = name.bytes :: others := by
  rcases (mem_foundAt_iff.mp member).2 with ⟨-, g, -, rfl⟩ | ⟨kind, bytes, -, -, rfl⟩
  · exact ⟨g.components, rfl⟩
  · exact ⟨[], rfl⟩

theorem foundAt_sorted {name : Name} {inside : List Found}
    (sorted : inside.Pairwise fun f g => f.components < g.components) :
    (foundAt store directory path name inside).Pairwise fun f g =>
      f.components < g.components := by
  rw [foundAt]
  split
  · exact .nil
  split
  · refine List.pairwise_map.mpr (sorted.imp fun before => ?_)
    exact List.cons_lt_cons_self.mpr before
  · cases FileKind.ofPath? (path.child name) with
    | none => exact .nil
    | some kind => exact List.pairwise_singleton _ _
  · exact .nil

/-- The files are found in the order of the names that lead to them. -/
theorem found_sorted (store : FileStore) (depth : Nat) (directory : Location) (path : RawPath) :
    (found store depth directory path).Pairwise fun f g => f.components < g.components := by
  induction depth generalizing directory path with
  | zero => exact .nil
  | succ depth ih =>
      rw [found_succ]
      split
      · exact .nil
      refine List.pairwise_flatMap.mpr ⟨fun name _ => foundAt_sorted (ih _ _), ?_⟩
      refine (FileStore.names_sorted store directory).imp fun before f inFirst g inSecond => ?_
      obtain ⟨_, firstEq⟩ := exists_cons_of_mem_foundAt inFirst
      obtain ⟨_, secondEq⟩ := exists_cons_of_mem_foundAt inSecond
      rw [firstEq, secondEq]
      exact List.cons_lt_cons_iff.mpr (.inl before)

theorem foundAt_sublist {name : Name} {inside more : List Found} (sublist : inside.Sublist more) :
    (foundAt store directory path name inside).Sublist
      (foundAt store directory path name more) := by
  rw [foundAt, foundAt]
  split
  · exact .refl _
  split
  · exact sublist.map _
  · exact .refl _
  · exact .refl _

/-- A deeper walk finds the same files in the same order, and others between them. -/
theorem found_sublist_succ (store : FileStore) (depth : Nat) (directory : Location)
    (path : RawPath) :
    (found store depth directory path).Sublist (found store (depth + 1) directory path) := by
  induction depth generalizing directory path with
  | zero => exact List.nil_sublist _
  | succ depth ih =>
      rw [found_succ, found_succ]
      split
      · exact .refl _
      · exact List.Sublist.flatMap_right _ fun name _ => foundAt_sublist (ih _ _)

theorem found_sublist {other : Nat} (deeper : depth ≤ other) (directory : Location)
    (path : RawPath) :
    (found store depth directory path).Sublist (found store other directory path) := by
  induction deeper with
  | refl => exact .refl _
  | step _ ih => exact ih.trans (found_sublist_succ store _ directory path)

/-- Beyond some depth nothing more is found, as there is nothing deeper. -/
theorem exists_deepest (store : FileStore) (directory : Location) {path : RawPath}
    (nonempty : path.bytes ≠ []) :
    ∃ deepest, ∀ depth, deepest ≤ depth →
      found store depth directory path = found store deepest directory path := by
  obtain ⟨deepest, shallow⟩ := store.exists_length_le
  refine ⟨deepest, fun depth deeper => ?_⟩
  have subset : found store depth directory path ⊆ found store deepest directory path := by
    intro f member
    have eligible := (mem_found_iff nonempty).mp member
    have bound := eligible.below.length_le shallow
    exact (mem_found_iff nonempty).mpr { eligible with depth := by omega }
  have distinct : (found store depth directory path).Nodup := by
    refine (found_sorted store depth directory path).imp fun {f g} before same => ?_
    exact List.lt_irrefl g.components (same ▸ before)
  exact ((found_sublist deeper directory path).eq_of_length_le
    (List.subperm_of_subset distinct subset).length_le).symm

/-! ## What is loaded -/

theorem walk_of_none (notOpened : store.directory? path = none) : walk store depth path = [] := by
  cases depth with
  | zero => rfl
  | succ depth => rw [walk, notOpened]

theorem found_of_isTooLong (long : path.isTooLong) : found store depth directory path = [] := by
  cases depth with
  | zero => rfl
  | succ depth => rw [found_succ, if_pos long]

/-- The walk lists the files that are found. -/
theorem walk_eq (opened : store.directory? path = some directory) :
    walk store depth path =
      (found store depth directory path).map fun f => (f.pathFrom path, f.kind) := by
  induction depth generalizing path directory with
  | zero => rfl
  | succ depth ih =>
      rw [walk, opened, found_succ, if_neg (not_isTooLong_of_directory? opened), List.map_flatMap]
      refine congrArg (fun entry => List.flatMap entry (store.names directory)) ?_
      funext name
      rw [foundAt]
      split
      · rfl
      cases standing : store.item? (name :: directory) with
      | none => rfl
      | some item =>
          cases item with
          | directory =>
              change walk store depth (path.child name) =
                ((found store depth (name :: directory) (path.child name)).map
                  (Found.under name)).map _
              have entered := FileStore.directory?_child opened standing
              rw [List.map_map]
              cases long : (path.child name).isTooLong with
              | true =>
                  rw [long, if_pos rfl] at entered
                  rw [walk_of_none entered, found_of_isTooLong long]
                  rfl
              | false =>
                  rw [long, if_neg Bool.false_ne_true] at entered
                  exact ih entered
          | file bytes =>
              change (FileKind.ofPath? (path.child name)).toList.map _ =
                ((FileKind.ofPath? (path.child name)).toList.map _).map _
              rw [List.map_map]
              rfl
          | link target => rfl

/-- A file that is found is loaded, unless its path is too long. -/
theorem loadFile_eq {f : Found} (opened : store.directory? path = some directory)
    (eligible : Eligible store path directory depth f) :
    loadFile store (f.pathFrom path) f.kind =
      if (f.pathFrom path).isTooLong then .error (.unreadable (f.pathFrom path) .nameTooLong)
      else .ok (f.file path) := by
  rw [loadFile, Found.pathFrom, read_descend opened eligible.below eligible.reached]
  cases (path.descend f.names).isTooLong <;> rfl

theorem load_eq (opened : store.directory? path = some directory) :
    load store path depth =
      match (found store depth directory path).find? fun f => (f.pathFrom path).isTooLong with
      | some f => .error (.unreadable (f.pathFrom path) .nameTooLong)
      | none =>
        if found store depth directory path = [] then .error (.noFiles path)
        else .ok ((found store depth directory path).map (Found.file path)) := by
  have nonempty := FileStore.ne_nil_of_directory? opened
  have loaded := mapM_eq_of_fails fun f (member : f ∈ found store depth directory path) =>
    loadFile_eq opened ((mem_found_iff nonempty).mp member)
  rw [load, opened]
  dsimp only
  rw [walk_eq opened, List.mapM_map]
  change ((found store depth directory path).mapM fun f =>
    loadFile store (f.pathFrom path) f.kind) >>= _ = _
  rw [loaded]
  cases (found store depth directory path).find? fun f => (f.pathFrom path).isTooLong with
  | some f => rfl
  | none => cases found store depth directory path <;> rfl

theorem load_eq_noFiles_iff (opened : store.directory? path = some directory) :
    load store path depth = .error (.noFiles path) ↔
      ∀ f, ¬Eligible store path directory depth f := by
  have nonempty := FileStore.ne_nil_of_directory? opened
  have none_iff : found store depth directory path = [] ↔
      ∀ f, ¬Eligible store path directory depth f := by
    rw [List.eq_nil_iff_forall_not_mem]
    exact forall_congr' fun f => not_congr (mem_found_iff nonempty)
  rw [← none_iff, load_eq opened]
  split
  · rename_i f isFirst
    refine iff_of_false (by simp) fun empty => ?_
    rw [empty] at isFirst
    cases isFirst
  · split
    · rename_i empty
      exact iff_of_true rfl empty
    · rename_i notEmpty
      exact iff_of_false (by simp) notEmpty

/-! ## Each file once -/

theorem steps_descend (nonempty : path.bytes ≠ []) (names : List Name) :
    (path.descend names).steps = path.steps ++ names.map Name.bytes := by
  induction names generalizing path with
  | nil => exact (List.append_nil _).symm
  | cons name names ih =>
      calc
        ((path.child name).descend names).steps
            = (path.child name).steps ++ names.map Name.bytes := ih (path.child_ne_nil name)
        _ = path.steps ++ (name :: names).map Name.bytes := by
          rw [RawPath.steps_child name nonempty, List.append_assoc, List.singleton_append,
            List.map_cons]

/-- No two of the files that are loaded have paths with the same parts. -/
theorem nodup_steps_of_load {files : List SourceFile} (loaded : load store path depth = .ok files) :
    (files.map fun file => file.rawPath.steps).Nodup := by
  cases opened : store.directory? path with
  | none =>
      rw [load, opened] at loaded
      dsimp only at loaded
      cases kindEq : FileKind.ofPath? path with
      | none =>
          rw [kindEq] at loaded
          cases loaded
      | some kind =>
          rw [kindEq] at loaded
          obtain ⟨file, -, rfl⟩ := map_eq_ok_iff.mp loaded
          exact List.pairwise_singleton _ _
  | some directory =>
      rw [load_eq opened] at loaded
      split at loaded
      · cases loaded
      split at loaded
      · cases loaded
      cases loaded
      rw [List.map_map]
      refine List.pairwise_map.mpr ((found_sorted store depth directory path).imp ?_)
      intro f g before same
      have stepsOf (f : Found) : (f.file path).rawPath.steps = path.steps ++ f.components :=
        steps_descend (FileStore.ne_nil_of_directory? opened) f.names
      have components := List.append_cancel_left ((stepsOf f).symm.trans (same.trans (stepsOf g)))
      exact List.lt_irrefl g.components (components ▸ before)

/-- What is loaded from a directory, walked to a depth, if `files` are found. -/
structure Loads (store : FileStore) (path : RawPath) (directory : Location) (depth : Nat)
    (files : List Found) : Prop where
  mem_iff : ∀ f, f ∈ files ↔ Eligible store path directory depth f
  /-- Each file is found once, in the order of the names that lead to it. -/
  sorted : files.Pairwise fun f g => f.components < g.components
  load_eq : load store path depth =
    match files.find? fun f => (f.pathFrom path).isTooLong with
    | some f => .error (.unreadable (f.pathFrom path) .nameTooLong)
    | none => if files = [] then .error (.noFiles path) else .ok (files.map (Found.file path))
  noFiles_iff : load store path depth = .error (.noFiles path) ↔
    ∀ f, ¬Eligible store path directory depth f
  unchanged : ∀ f ∈ files, ∀ text, f.bytes = Utf8.encode text → (f.file path).content = text

/-- From a directory the files are loaded that lie there, are no links, are not too
deep, not hidden and of an accepted kind.  A deeper walk finds the same and more, up
to a depth that depends on the directory. -/
theorem load_exact (store : FileStore) {path : RawPath} {directory : Location}
    (opened : store.directory? path = some directory) :
    ∃ files : Nat → List Found,
      (∀ depth, Loads store path directory depth (files depth)) ∧
      (∀ depth other, depth ≤ other → (files depth).Sublist (files other)) ∧
      ∃ deepest, ∀ depth, deepest ≤ depth → files depth = files deepest := by
  have nonempty := FileStore.ne_nil_of_directory? opened
  refine ⟨fun depth => found store depth directory path, fun depth => ?_,
    fun depth other deeper => found_sublist deeper directory path,
    exists_deepest store directory nonempty⟩
  exact {
    mem_iff := fun f => mem_found_iff nonempty
    sorted := found_sorted store depth directory path
    load_eq := load_eq opened
    noFiles_iff := load_eq_noFiles_iff opened
    unchanged := by
      rintro f - text bytesEq
      rw [Found.file, bytesEq, Utf8.decodeLossy_encode] }

/-- A directory that is reached through a link, with a directory that is named like a
file, a link, a hidden file and one that is no text. -/
def mixedTree : FileStore :=
  [("p/a/x.json", Item.file (Utf8.encode "[]")), ("p/a.tf", .file []), ("p/.h.tf", .file []),
    ("p/l.tf", .link "a.tf"), ("p/b.yaml/c.yml", .file [0xFF]), ("l", .link "p")].foldl
      (fun store (path, item) => store.insert (store.placeOf path) item) ⟨[], []⟩

/-- Two levels of it have three files. -/
theorem load_exact_mixedTree :
    mixedTree.directory? "l" = some (mixedTree.placeOf "p") ∧
      (load mixedTree "l" 2).toOption.map (·.map fun file =>
        (file.path, file.kind, file.content)) =
          some [("l/a/x.json", .json, "[]"), ("l/a.tf", .tf, ""),
            ("l/b.yaml/c.yml", .yml, "\ufffd")] ∧
      ∃ files : Nat → List Found,
        (∀ depth, Loads mixedTree "l" (mixedTree.placeOf "p") depth (files depth)) ∧
        (∀ depth other, depth ≤ other → (files depth).Sublist (files other)) ∧
        ∃ deepest, ∀ depth, deepest ≤ depth → files depth = files deepest :=
  ⟨by decide +kernel, by decide +kernel, load_exact mixedTree (by decide +kernel)⟩

/-! ## Files that are refused or found against expectation -/

/-- The working directory, spelled at length. -/
def hereSpelled (n : Nat) : RawPath := ⟨(List.replicate n [0x2E, 0x2F]).flatten ++ [0x2E]⟩

theorem length_hereSpelled (n : Nat) : (hereSpelled n).bytes.length = 2 * n + 1 := by
  rw [hereSpelled, List.length_append, List.length_flatten, List.map_replicate,
    List.sum_replicate_nat]
  change n * 2 + 1 = 2 * n + 1
  omega

theorem segments_hereSpelled (n : Nat) :
    RawPath.segments (hereSpelled n).bytes = List.replicate (n + 1) [0x2E] := by
  induction n with
  | zero => rfl
  | succ n ih =>
      have parts := RawPath.segments_append_slash [0x2E] (hereSpelled n).bytes
      rw [ih] at parts
      exact parts

theorem follow_replicate_here (store : FileStore)
    (jump : Location → RawPath → List (List UInt8) → Except ReadError (Location × Item))
    (place : Location) (n : Nat) :
    store.follow jump place .directory (List.replicate n [0x2E]) = .ok (place, .directory) := by
  induction n with
  | zero => rfl
  | succ n ih =>
      rw [List.replicate_succ, FileStore.follow, if_pos (.inr rfl)]
      exact ih

theorem directory?_hereSpelled (store : FileStore) {n : Nat} (short : n ≤ 2047) :
    store.directory? (hereSpelled n) = some store.start := by
  rw [FileStore.directory?_eq_some_iff, FileStore.locate_eq_ok_iff]
  refine ⟨?_, ?_, ?_⟩
  · simp [hereSpelled]
  · rw [RawPath.isTooLong, decide_eq_true_iff, length_hereSpelled, FileStore.pathLimit]
    omega
  · have nonempty : (hereSpelled n).bytes ≠ [] := by simp [hereSpelled]
    have relative : (hereSpelled n).bytes.head? ≠ some 0x2F := by
      cases n <;> simp [hereSpelled, List.replicate_succ]
    rw [FileStore.followLinks, if_neg nonempty, List.append_nil, segments_hereSpelled,
      follow_replicate_here, FileStore.origin, if_neg relative]

/-- A name of a file, and a directory with this file alone. -/
def mainName : Name := ⟨Utf8.encode "main.tf", by decide⟩

def mainOnly : FileStore := ⟨[([mainName], .file [])], []⟩

/-- A directory with one file, whose name starts with a dot and is no text. -/
def undecodable : FileStore := ⟨[([⟨[0x2E, 0xFF, 0x2E, 0x74, 0x66], by decide⟩], .file [])], []⟩

theorem found_mainOnly {path : RawPath} (nonempty : path.bytes ≠ []) (short : ¬path.isTooLong) :
    found mainOnly 6 [] path = [⟨[mainName], .tf, []⟩] := by
  have kindEq : FileKind.ofPath? (path.child mainName) = some .tf :=
    (FileKind.ofPath?_child_eq_some_iff nonempty).mpr
      ⟨Utf8.encode "main", by decide, by decide +kernel⟩
  have namesEq : mainOnly.names [] = [mainName] := rfl
  have visible : ¬isHidden mainName := by decide +kernel
  have file : mainOnly.item? [mainName] = some (.file []) := by decide +kernel
  rw [found_succ, if_neg short, namesEq, List.flatMap_singleton, foundAt, if_neg visible, file]
  dsimp only
  rw [kindEq]
  rfl

/-- It is refused if its path is too long. -/
theorem load_mainOnly_of_isTooLong {path : RawPath}
    (opened : mainOnly.directory? path = some []) (long : (path.child mainName).isTooLong) :
    Eligible mainOnly path [] 6 ⟨[mainName], .tf, []⟩ ∧
      load mainOnly path 6 = .error (.unreadable (path.child mainName) .nameTooLong) := by
  have nonempty := FileStore.ne_nil_of_directory? opened
  have foundEq := found_mainOnly nonempty (not_isTooLong_of_directory? opened)
  constructor
  · rw [← mem_found_iff nonempty, foundEq]
    exact List.mem_singleton_self _
  · rw [load_eq opened, foundEq, List.find?_cons_of_pos (by exact long)]
    rfl

/-- A file that is to be loaded is refused if its path is too long, and a name that
starts with a dot is not hidden if it is no text. -/
theorem load_longPath_and_undecodable :
    (mainOnly.directory? (hereSpelled 2044) = some [] ∧
      Eligible mainOnly (hereSpelled 2044) [] 6 ⟨[mainName], .tf, []⟩ ∧
      load mainOnly (hereSpelled 2044) 6 =
        .error (.unreadable ((hereSpelled 2044).child mainName) .nameTooLong)) ∧
    load undecodable "." 1 =
      .ok [⟨⟨[0x2E, 0x2F, 0x2E, 0xFF, 0x2E, 0x74, 0x66]⟩, .tf, ""⟩] := by
  have opened : mainOnly.directory? (hereSpelled 2044) = some [] :=
    directory?_hereSpelled mainOnly (by omega)
  have long : ((hereSpelled 2044).child mainName).isTooLong := by
    have longer := (hereSpelled 2044).length_add_le_length_child mainName
    have nameLength : mainName.bytes.length = 7 := rfl
    rw [length_hereSpelled, nameLength] at longer
    rw [RawPath.isTooLong, decide_eq_true_iff, FileStore.pathLimit]
    omega
  exact ⟨⟨opened, load_mainOnly_of_isTooLong opened long⟩, by decide +kernel⟩

end Loader
end PolicyScan
