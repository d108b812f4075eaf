import PolicyScan.Hcl.Body.Reader
import PolicyScan.Loader
import PolicyScan.Manifest

/-!
# Documents

Every accepted file is a row of documents, which policies are run on: a
manifest has one for each object of its stream, numbered from zero, and a
Terraform file is one document without a number.
-/

namespace PolicyScan

/-- A document of a file. -/
structure Document where
  file : SourceFile
  value : Json
  domain : Domain
  /-- Its place in the stream of a manifest. -/
  index? : Option Nat

/-- Why a file has no documents. -/
inductive ParseError where
  | manifest (refusal : Manifest.Refusal)
  | terraform (fault : Hcl.Fault)
  /-- A name that is the extension of no accepted kind. -/
  | unsupported (name : String)
deriving DecidableEq

/-- The error in words. -/
def ParseError.message : ParseError → String
  | .manifest refusal => refusal.message
  | .terraform fault => "Invalid Terraform File! " ++ fault.message
  | .unsupported name => "Invalid IaC file type: " ++ name

namespace Document

/-- The documents of a manifest. -/
def ofManifest (file : SourceFile) : Except ParseError (List Document) := do
  let values ← (Manifest.objects file.content).mapError .manifest
  return values.zipIdx.map fun (value, index) => ⟨file, value, .kubernetes, some index⟩

/-- The document of a Terraform file. -/
def ofTerraform (file : SourceFile) : Except ParseError (List Document) := do
  let value ← (Hcl.value file.content).mapError .terraform
  return [⟨file, value, .terraform, none⟩]

/-- The documents of a file. -/
def ofFile (file : SourceFile) : Except ParseError (List Document) :=
  match file.kind.domain with
  | .kubernetes => ofManifest file
  | .terraform => ofTerraform file

end Document

/-- The kind of a name, or the error of an unknown one. -/
def FileKind.ofText (name : String) : Except ParseError FileKind :=
  match FileKind.ofName? name with
  | some kind => .ok kind
  | none => .error (.unsupported name)

/-- A file that is not scanned. -/
structure Unscanned where
  file : SourceFile
  reason : String
  /-- The error of parsing it; none if a policy could not be run on it. -/
  error? : Option ParseError

/-- The outcome of parsing files. -/
structure Batch where
  documents : List Document
  failed : List Unscanned

namespace Batch

/-- The batch with a file more. -/
def add (batch : Batch) (file : SourceFile) : Except ParseError (List Document) → Batch
  | .ok documents => { batch with documents := batch.documents ++ documents }
  | .error error => { batch with failed := batch.failed ++ [⟨file, error.message, some error⟩] }

/-- The documents of files, and the files that have none. -/
def ofFiles (files : List SourceFile) : Batch :=
  files.foldl (fun batch file => batch.add file (Document.ofFile file)) ⟨[], []⟩

/-- The batch of files to scan.  When there is only one file, its error is the
outcome. -/
def parse (files : List SourceFile) : Except (SourceFile × ParseError) Batch :=
  match files with
  | [file] =>
    match Document.ofFile file with
    | .ok documents => .ok ⟨documents, []⟩
    | .error error => .error (file, error)
  | files => .ok (ofFiles files)

end Batch
end PolicyScan
