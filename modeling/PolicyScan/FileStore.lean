import PolicyScan.Path

/-!
# Files, directories and links

A file store holds directories, files with their bytes, and symbolic links.  A
place in it is a `Location`, the list of names that leads there from the root
with the innermost name first; places without an entry are empty, apart from
the root, which is a directory.

Reading goes through `locate`, which follows a path part by part and through
links.  A path starts at the root if it starts with a slash, and otherwise at
the working directory or, in a link, at the link's directory.  A chain of links
that does not end within `linkLimit` of them leads nowhere.
-/

namespace PolicyScan

/-- A place below the root: names with the innermost first. -/
abbrev Location := List Name

/-- What stands at a place. -/
inductive Item where
  | directory
  | file (bytes : List UInt8)
  | link (target : RawPath)
deriving DecidableEq

/-- The entries of a store.  Of two entries for one place the first counts. -/
structure FileStore where
  entries : List (Location × Item)
  /-- The place of the working directory. -/
  start : Location := []

/-- Why a file cannot be read. -/
inductive ReadError where
  | notFound
  | notADirectory
  | isADirectory
  | nameTooLong
  | nulInPath
  | notUtf8
deriving DecidableEq, Repr

/-- The reason in words. -/
def ReadError.message : ReadError → String
  | .notFound => "No such file or directory (os error 2)"
  | .notADirectory => "Not a directory (os error 20)"
  | .isADirectory => "Is a directory (os error 21)"
  | .nameTooLong => "File name too long (os error 36)"
  | .nulInPath => "file name contained an unexpected NUL byte"
  | .notUtf8 => "stream did not contain valid UTF-8"

namespace FileStore

/-- What stands at a place. -/
def item? (store : FileStore) : Location → Option Item
  | [] => some .directory
  | place => store.entries.lookup place

/-- Put an item at a place, in front of what was there. -/
def put (store : FileStore) (place : Location) (item : Item) : FileStore :=
  { store with entries := (place, item) :: store.entries }

/-- Make the directories on the way to a place where nothing stands yet. -/
def makeParents (store : FileStore) : Location → FileStore
  | [] => store
  | _ :: parent =>
    let store := store.makeParents parent
    if (store.item? parent).isSome then store else store.put parent .directory

/-- Put an item at a place together with the directories above. -/
def insert (store : FileStore) (place : Location) (item : Item) : FileStore :=
  (store.makeParents place).put place item

/-- Empty a place. -/
def erase (store : FileStore) (place : Location) : FileStore :=
  { store with entries := store.entries.filter fun entry => entry.1 ≠ place }

/-- A store that holds a working directory and nothing in it. -/
def startingAt (place : Location) : FileStore :=
  insert { entries := [], start := place } place .directory

/-- Put a name into a sorted list without repetition. -/
def insertName (name : Name) : List Name → List Name
  | [] => [name]
  | n :: rest =>
    if name.bytes < n.bytes then name :: n :: rest
    else if name = n then n :: rest
    else n :: insertName name rest

/-- The names of the entries of a directory, sorted. -/
def names (store : FileStore) (directory : Location) : List Name :=
  store.entries.foldr (fun (place, _) acc =>
    match place with
    | name :: parent => if parent = directory then insertName name acc else acc
    | [] => acc) []

/-- The greatest number of links in a chain. -/
def linkLimit : Nat := 40

/-- The greatest length of a path in bytes. -/
def pathLimit : Nat := 4095

/-- Follow the parts of a path from a place.  A part can only be followed from
a directory; `jump` follows a link found in a directory, with the parts that
remain after it. -/
def follow (store : FileStore)
    (jump : Location → RawPath → List (List UInt8) → Except ReadError (Location × Item)) :
    Location → Item → List (List UInt8) → Except ReadError (Location × Item)
  | place, item, [] => .ok (place, item)
  | place, .directory, part :: parts =>
    if part = [] ∨ part = [0x2E] then follow store jump place .directory parts
    else if part = [0x2E, 0x2E] then
      follow store jump place.tail .directory parts
    else if part.length > 255 then .error .nameTooLong
    else match Name.ofBytes? part with
      | none => .error .notFound
      | some name =>
        match store.item? (name :: place) with
        | none => .error .notFound
        | some (.link target) => jump place target parts
        | some item => follow store jump (name :: place) item parts
  | _, _, _ :: _ => .error .notADirectory

/-- Where a path starts that is followed from a directory. -/
def origin (directory : Location) (path : RawPath) : Location :=
  if path.bytes.head? = some 0x2F then [] else directory

/-- Follow a path from a directory through at most `links` links, and then
further parts. -/
def followLinks (store : FileStore) :
    Nat → Location → RawPath → List (List UInt8) → Except ReadError (Location × Item)
  | 0, _, _, _ => .error .notFound
  | links + 1, place, target, parts =>
    if target.bytes = [] then .error .notFound
    else
      follow store (followLinks store links) (origin place target) .directory
        (RawPath.segments target.bytes ++ parts)

/-- The place that a path leads to and what stands there, links followed. -/
def locate (store : FileStore) (path : RawPath) : Except ReadError (Location × Item) :=
  if 0 ∈ path.bytes then .error .nulInPath
  else if path.bytes.length > pathLimit then .error .nameTooLong
  else followLinks store (linkLimit + 1) store.start path []

/-- The bytes of the file at a path. -/
def read (store : FileStore) (path : RawPath) : Except ReadError (List UInt8) := do
  match (← store.locate path).2 with
  | .file bytes => .ok bytes
  | .directory => .error .isADirectory
  | .link _ => .error .notFound

/-- The text of the file at a path, which must be UTF-8. -/
def readText (store : FileStore) (path : String) : Except ReadError String := do
  match Utf8.decode? (← store.read path) with
  | some text => .ok text
  | none => .error .notUtf8

/-- Whether the path leads to a file. -/
def isFile (store : FileStore) (path : String) : Bool :=
  match store.locate path with
  | .ok (_, .file _) => true
  | _ => false

/-- The directory that the path leads to. -/
def directory? (store : FileStore) (path : RawPath) : Option Location :=
  match store.locate path with
  | .ok (place, .directory) => some place
  | _ => none

/-- The place that a path without links and `..` names. -/
def placeOf (store : FileStore) (path : RawPath) : Location :=
  (path.steps.filterMap Name.ofBytes?).reverse ++ origin store.start path

end FileStore
end PolicyScan
