import PolicyScan.Command

/-!
# The program

The outer layer: it gathers the files, runs the command and prints what comes
out.  The names of the files that a scan may look at, policies and settings
included, come one in a line on standard input; files that cannot be read are
left out.
-/

namespace PolicyScan.Program

/-- The place of the working directory. -/
def workingPlace : IO Location := do
  let directory ← IO.currentDir
  return FileStore.placeOf { entries := [] } (toString directory)

/-- The store with the file of a name, if it can be read. -/
def addFile (store : FileStore) (name : String) : IO FileStore := do
  match ← (IO.FS.readBinFile name).toBaseIO with
  | .ok bytes => return store.insert (store.placeOf name) (.file bytes.toList)
  | .error _ => return store

/-- The store with the files that the remaining lines name. -/
partial def addFiles (input : IO.FS.Stream) (store : FileStore) : IO FileStore := do
  let line ← input.getLine
  if line.isEmpty then return store
  let name := line.trimAsciiEnd.toString
  addFiles input (← if name.isEmpty then pure store else addFile store name)

/-- Whether the report is coloured: if it is forced, or goes to a terminal and
colours are not switched off. -/
def wantsColour : IO Bool := do
  if (← IO.getEnv "CLICOLOR_FORCE").any (· ≠ "0") then return true
  if (← IO.getEnv "NO_COLOR").isSome then return false
  if (← IO.getEnv "CLICOLOR").any (· = "0") then return false
  (← IO.getStdout).isTty

end PolicyScan.Program

open PolicyScan in
/-- Scan the path that the arguments name. -/
def main (args : List String) : IO UInt32 := do
  let start ← Program.workingPlace
  let store ← Program.addFiles (← IO.getStdin) (FileStore.startingAt start)
  let (outcome, error?) :=
    Command.execute store (← IO.getEnv "HOME") (← Program.wantsColour) args
  IO.print outcome.output
  if let some error := error? then IO.eprintln ("Error: " ++ error.message)
  return outcome.code.toUInt32
