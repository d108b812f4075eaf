import PolicyScan.FileKind
import PolicyScan.FileStore

/-!
# Loading the files to scan

A directory is walked depth first, each directory in the order of its names.
Entries whose name starts with a dot are passed over, links are not followed,
directories that cannot be opened are skipped, and only files of an accepted
kind are kept.  These are read after the walk.  A path that is no directory
must itself name a file of an accepted kind.  Bytes that are not UTF-8 are
replaced.
-/

namespace PolicyScan

/-- A file to be parsed. -/
structure SourceFile where
  rawPath : RawPath
  kind : FileKind
  content : String
deriving DecidableEq

/-- The path of a file for a reader. -/
def SourceFile.path (file : SourceFile) : String := file.rawPath.text

/-- Why there is nothing to scan. -/
inductive LoadError where
  /-- The directory holds no file of an accepted kind. -/
  | noFiles (path : RawPath)
  /-- The path names no file of an accepted kind. -/
  | notAccepted (path : RawPath)
  | unreadable (path : RawPath) (reason : ReadError)
deriving DecidableEq

/-- The error in words. -/
def LoadError.message : LoadError → String
  | .noFiles path => "No valid IaC files found in provided directory: " ++ path.text
  | .notAccepted path => "Invalid IaC file: " ++ path.text
  | .unreadable path reason => "Failed to read " ++ path.text ++ ": " ++ reason.message

namespace Loader

/-- How deep a directory is walked unless told otherwise. -/
def defaultDepth : Nat := 6

/-- Whether a name is passed over: if it is text and starts with a dot. -/
def isHidden (name : Name) : Bool :=
  (Utf8.decode? name.bytes).any fun text => text.toList.head? = some '.'

/-- The paths of the accepted files below a directory, `depth` levels deep. -/
def walk (store : FileStore) : Nat → RawPath → List (RawPath × FileKind)
  | 0, _ => []
  | depth + 1, path =>
    match store.directory? path with
    | none => []
    | some directory =>
      (store.names directory).flatMap fun name =>
        let entry := path.child name
        if isHidden name then []
        else match store.item? (name :: directory) with
          | some .directory => walk store depth entry
          | some (.file _) => (FileKind.ofPath? entry).toList.map (entry, ·)
          | _ => []

/-- The file at a path. -/
def loadFile (store : FileStore) (path : RawPath) (kind : FileKind) :
    Except LoadError SourceFile :=
  match store.read path with
  | .ok bytes => .ok ⟨path, kind, Utf8.decodeLossy bytes⟩
  | .error reason => .error (.unreadable path reason)

/-- The files to scan for a path. -/
def load (store : FileStore) (path : RawPath) (depth : Nat) :
    Except LoadError (List SourceFile) :=
  match store.directory? path with
  | some _ => do
    match ← (walk store depth path).mapM fun (path, kind) => loadFile store path kind with
    | [] => .error (.noFiles path)
    | files => .ok files
  | none =>
    match FileKind.ofPath? path with
    | none => .error (.notAccepted path)
    | some kind => (loadFile store path kind).map ([·])

end Loader
end PolicyScan
