import PolicyScan.Text.Utf8

/-!
# Paths

A path is a sequence of bytes whose slashes separate its parts.  Empty parts
and `.` name the place they stand at, `..` names the directory above, and any
other part is a name.  The name of a path is its last part of the other kinds,
unless that is `..`; its extension is what follows the last dot of the name, a
dot in front aside.

Bytes that are no text can stand in a path too.  A text stands for its bytes.
-/

namespace PolicyScan

/-- A path as files are found by it. -/
structure RawPath where
  bytes : List UInt8
deriving DecidableEq, Repr

/-- Bytes that can name an entry of a directory. -/
def IsName (bytes : List UInt8) : Prop :=
  bytes ≠ [] ∧ bytes ≠ [0x2E] ∧ bytes ≠ [0x2E, 0x2E] ∧ 0x2F ∉ bytes ∧ 0 ∉ bytes ∧
    bytes.length ≤ 255

instance (bytes : List UInt8) : Decidable (IsName bytes) :=
  inferInstanceAs (Decidable (_ ∧ _))

/-- The name of an entry of a directory. -/
structure Name where
  bytes : List UInt8
  valid : IsName bytes
deriving DecidableEq

/-- Bytes as a name, if they can be one. -/
def Name.ofBytes? (bytes : List UInt8) : Option Name :=
  if h : IsName bytes then some ⟨bytes, h⟩ else none

namespace RawPath

instance : Coe String RawPath := ⟨fun text => ⟨Utf8.encode text⟩⟩

/-- The path for a reader, with `U+FFFD` for what is no text. -/
def text (path : RawPath) : String := Utf8.decodeLossy path.bytes

/-- The parts between the slashes, empty ones included. -/
def segments : List UInt8 → List (List UInt8)
  | [] => [[]]
  | b :: rest =>
    if b = 0x2F then [] :: segments rest
    else match segments rest with
      | [] => [[b]]
      | part :: parts => (b :: part) :: parts

/-- The parts that lead somewhere else: all but the empty ones and `.`. -/
def steps (path : RawPath) : List (List UInt8) :=
  (segments path.bytes).filter fun part => part ≠ [] ∧ part ≠ [0x2E]

/-- The last part of the path, unless it leads upwards. -/
def name? (path : RawPath) : Option (List UInt8) :=
  path.steps.getLast?.filter (· ≠ [0x2E, 0x2E])

/-- Split a name at its last dot.  A name without a dot, or whose only dot
stands in front, has no extension. -/
def stemAndExtension? (name : List UInt8) : Option (List UInt8 × List UInt8) :=
  let after := name.reverse.takeWhile (· ≠ 0x2E)
  match name.reverse.dropWhile (· ≠ 0x2E) with
  | [] => none
  | _ :: stem => if stem = [] then none else some (stem.reverse, after.reverse)

/-- The extension of the path's name. -/
def extension? (path : RawPath) : Option (List UInt8) :=
  (path.name?.bind stemAndExtension?).map Prod.snd

/-- The path of an entry of a directory. -/
def child (directory : RawPath) (name : Name) : RawPath :=
  if directory.bytes = [] ∨ directory.bytes.getLast? = some 0x2F then
    ⟨directory.bytes ++ name.bytes⟩
  else ⟨directory.bytes ++ 0x2F :: name.bytes⟩

end RawPath

/-- A path below another; an absolute path stands for itself. -/
def Path.join (base below : String) : String :=
  if below.toList.head? = some '/' then below
  else if base = "" ∨ base.toList.getLast? = some '/' then base ++ below
  else base ++ "/" ++ below

end PolicyScan
