import PolicyScan.Document
import PolicyScan.Proofs.Path

/-!
# Kinds and names

The name of a file alone tells its kind (`ofPath?_toldByName`): what stands behind
the last dot must be the name of the kind, and something must stand in front of it.
So a directory gives its kind to nothing below it, and a file keeps its kind when
the directory of its path is another.
-/

namespace PolicyScan

namespace RawPath

theorem HasName.append {path : RawPath} {name front : List UInt8} (named : path.HasName name)
    (opens : Opens front) : HasName ⟨front ++ path.bytes⟩ name :=
  ⟨named.1.append opens, named.2⟩

theorem opens_encode {text : String} (slash : text.toList.getLast? = some '/') :
    Opens (Utf8.encode text) := by
  obtain ⟨before, textEq⟩ := List.getLast?_eq_some_iff.mp slash
  refine .inr ?_
  rw [Utf8.encode, textEq, List.flatMap_append, List.getLast?_append]
  rfl

/-- A path below another stands behind some directory, or behind nothing. -/
theorem exists_join_eq (base below : String) :
    ∃ front, Opens front ∧ Utf8.encode (Path.join base below) = front ++ Utf8.encode below := by
  rw [Path.join]
  split
  · exact ⟨[], .inl rfl, rfl⟩
  split
  · rename_i opens
    refine ⟨Utf8.encode base, ?_, Utf8.encode_append base below⟩
    rcases opens with rfl | slash
    · exact .inl rfl
    · exact opens_encode slash
  · refine ⟨Utf8.encode (base ++ "/"), ?_, Utf8.encode_append (base ++ "/") below⟩
    rw [Utf8.encode_append]
    exact .inr List.getLast?_concat

end RawPath

namespace FileKind

open RawPath

/-- The kind of the file at a path is told by the name that the path has. -/
structure ToldByName (path : RawPath) : Prop where
  /-- A file has a kind just if the last dot of its name stands behind something and in
  front of the name of the kind. -/
  exact : ∀ kind, ofPath? path = some kind ↔ ∃ name stem extension, path.HasName name ∧
    name = stem ++ 0x2E :: extension ∧ 0x2E ∉ extension ∧ stem ≠ [] ∧
      extension = Utf8.encode kind.name
  /-- A path has one name, unless it leads nowhere, or upwards at its end. -/
  named : (∃! name, path.HasName name) ∨
    (Stays (0x2F :: path.bytes) ∨ path.EndsIn [0x2E, 0x2E]) ∧ ofPath? path = none
  /-- Nothing else in the path matters. -/
  alone : ∀ name other, path.HasName name → other.HasName name → ofPath? other = ofPath? path
  /-- An extension is read as the name of a kind is; one that is no text is not accepted. -/
  read : ∀ stem extension, path.HasName (stem ++ 0x2E :: extension) → stem ≠ [] →
    0x2E ∉ extension →
      ofPath? path = (Utf8.decode? extension).bind fun text => (ofText text).toOption
  /-- A dot in front of the name begins no extension. -/
  dotFile : ∀ rest, path.HasName (0x2E :: rest) → 0x2E ∉ rest → ofPath? path = none
  /-- A directory gives its kind to nothing that has none by itself, also one that is
  named like a file. -/
  below : ∀ directory name, path.HasName name → ofPath? ⟨name⟩ = none →
    ofPath? ⟨directory ++ 0x2F :: path.bytes⟩ = none
  /-- Behind any directory the kind is the same. -/
  behind : ∀ name front, path.HasName name → Opens front →
    ofPath? ⟨front ++ path.bytes⟩ = ofPath? path
  joined : ∀ (directory text : String) (name : List UInt8), path = text → path.HasName name →
    ofPath? (Path.join directory text) = ofPath? path

theorem toOption_ofText (text : String) : (ofText text).toOption = ofName? text := by
  rw [ofText]
  cases ofName? text <;> rfl

/-- Only the name of a path is asked for its kind. -/
theorem ofPath?_eq_of_hasName {path other : RawPath} {name : List UInt8}
    (named : path.HasName name) (otherNamed : other.HasName name) :
    ofPath? other = ofPath? path := by
  have sameName : other.name? = path.name? :=
    (name?_eq_some_iff.mpr otherNamed).trans (name?_eq_some_iff.mpr named).symm
  rw [ofPath?, ofPath?, extension?, extension?, sameName]

theorem ofPath?_of_hasName {path : RawPath} {stem extension : List UInt8}
    (named : path.HasName (stem ++ 0x2E :: extension)) (nonempty : stem ≠ [])
    (noDot : 0x2E ∉ extension) :
    ofPath? path = (Utf8.decode? extension).bind ofName? := by
  rw [ofPath?, extension?_eq_some_iff.mpr ⟨stem, named, nonempty, noDot⟩, Option.bind_some]

theorem ofPath?_of_name? {path : RawPath} (unnamed : path.name? = none) :
    ofPath? path = none := by
  rw [ofPath?, extension?, unnamed]
  rfl

/-- The kind of every file is told by its name. -/
theorem ofPath?_toldByName (path : RawPath) : ToldByName path where
  exact := by
    intro kind
    have noDot : 0x2E ∉ Utf8.encode kind.name := by cases kind <;> decide
    rw [ofPath?_eq_some_iff, encode_dot_append]
    constructor
    · rintro ⟨stem, named, nonempty⟩
      exact ⟨_, stem, _, named, rfl, noDot, nonempty, rfl⟩
    · rintro ⟨_, stem, _, named, rfl, -, nonempty, rfl⟩
      exact ⟨stem, named, nonempty⟩
  named := by
    cases nameEq : path.name? with
    | none => exact .inr ⟨stays_or_endsIn_of_name? nameEq, ofPath?_of_name? nameEq⟩
    | some name =>
        have named := name?_eq_some_iff.mp nameEq
        exact .inl ⟨name, named, fun _ other => other.1.unique named.1⟩
  alone := fun _ _ named otherNamed => ofPath?_eq_of_hasName named otherNamed
  read := by
    intro stem extension named nonempty noDot
    simp only [toOption_ofText]
    exact ofPath?_of_hasName named nonempty noDot
  dotFile := by
    intro rest named noDot
    rw [ofPath?, extension?_of_dotFile named noDot]
    rfl
  below := by
    intro directory name named noKind
    have alone : HasName ⟨name⟩ name := ⟨named.1.1.endsIn, named.2⟩
    rw [List.append_cons, ofPath?_eq_of_hasName alone (named.append (.inr List.getLast?_concat))]
    exact noKind
  behind := fun _ _ named opens => ofPath?_eq_of_hasName named (named.append opens)
  joined := by
    rintro directory text name rfl named
    obtain ⟨front, opens, joinEq⟩ := exists_join_eq directory text
    rw [joinEq]
    exact ofPath?_eq_of_hasName named (named.append opens)

/-- The dots of a name, directories that are named like files, and what stands behind. -/
example : ["./.tf", "a.tf/..", "a.tf/x", "x//a.b.yml/./"].map (fun path : String => ofPath? path) =
    [none, none, none, some .yml] := by decide +kernel

end FileKind
end PolicyScan
