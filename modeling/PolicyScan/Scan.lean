import PolicyScan.Document
import PolicyScan.EngineCache

/-!
# Scanning documents

A scan first builds the engines of all domains, needed or not, and then runs
every document through the engine of its domain.  A fatal scan ends with the
first document that an engine fails on; an isolated one sets such documents
aside and goes on.

A scanned document keeps its place in the batch.
-/

namespace PolicyScan

/-- A document with its violations. -/
structure Scanned where
  document : Document
  violations : List Violation
  /-- Its place in the batch. -/
  position : Nat

/-- Why a scan ends. -/
inductive ScanError where
  | build (error : Artifacts.BuildError)
  /-- An engine failed on a document of the file. -/
  | evaluation (path : String) (failure : Engine.Failure)
deriving DecidableEq

/-- The error in words. -/
def ScanError.message : ScanError → String
  | .build error => error.message
  | .evaluation path failure =>
    "Failed to run policy engine on " ++ path ++ ": " ++ failure.message

namespace Scan

open EngineCache (Source)

/-- The violations of a document. -/
def document (source : Source) (cache : EngineCache) (d : Document) :
    Except ScanError (List Violation) × EngineCache :=
  match cache.get source d.domain with
  | (.ok engine, cache) =>
    ((engine.evaluate d.value).mapError (ScanError.evaluation d.file.path), cache)
  | (.error error, cache) => (.error (.build error), cache)

/-- The violations of documents, one after the other. -/
def outcomes (source : Source) : List Document → EngineCache →
    List (Except ScanError (List Violation)) × EngineCache
  | [], cache => ([], cache)
  | d :: rest, cache =>
    let (outcome, cache) := document source cache d
    let (others, cache) := outcomes source rest cache
    (outcome :: others, cache)

/-- The documents of a batch from `position` on with their outcomes, up to the
first failure. -/
def collect (position : Nat) :
    List (Document × Except ScanError (List Violation)) → Except ScanError (List Scanned)
  | [] => .ok []
  | (d, outcome) :: rest => do
    let violations ← outcome
    return ⟨d, violations, position⟩ :: (← collect (position + 1) rest)

/-- Scan a batch whose first failure is the outcome. -/
def fatal (source : Source) (documents : List Document) (cache : EngineCache) :
    Except ScanError (List Scanned) × EngineCache :=
  match cache.warm source with
  | (.error error, cache) => (.error (.build error), cache)
  | (.ok (), cache) =>
    let (outcomes, cache) := outcomes source documents cache
    (collect 0 (documents.zip outcomes), cache)

/-- The reason for which a document is set aside. -/
def reason (d : Document) (error : ScanError) : String :=
  match d.index? with
  | some index => error.message ++ " (document " ++ toString index ++ ")"
  | none => error.message

/-- Part the documents of a batch from `position` on into scanned ones and
those that an engine failed on.  An engine that cannot be built ends the
scan. -/
def partition (position : Nat) :
    List (Document × Except ScanError (List Violation)) →
      Except ScanError (List Scanned × List Unscanned)
  | [] => .ok ([], [])
  | (d, outcome) :: rest =>
    match outcome with
    | .ok violations => do
      let (scanned, failed) ← partition (position + 1) rest
      return (⟨d, violations, position⟩ :: scanned, failed)
    | .error (.evaluation path failure) => do
      let (scanned, failed) ← partition (position + 1) rest
      return (scanned, ⟨d.file, reason d (.evaluation path failure), none⟩ :: failed)
    | .error error => .error error

/-- Scan a batch and set aside the documents that an engine fails on. -/
def isolated (source : Source) (documents : List Document) (cache : EngineCache) :
    Except ScanError (List Scanned × List Unscanned) × EngineCache :=
  match cache.warm source with
  | (.error error, cache) => (.error (.build error), cache)
  | (.ok (), cache) =>
    let (outcomes, cache) := outcomes source documents cache
    (partition 0 (documents.zip outcomes), cache)

end Scan
end PolicyScan
