import SourceLens.Command.Outcome

/-!
# The command line

The program takes a snapshot of the files that its arguments name, runs its
command line on it, and writes the outcome.
-/

namespace SourceLens

/-- Reads what a path leads to. A file that cannot be read is left empty. -/
partial def readEntry (path : String) : IO (Option Entry) := do
  try
    let content ← IO.FS.readBinFile path
    return some (.file content)
  catch _ =>
    try
      let inside ← (← IO.FS.realPath path).readDir
      let entries ← inside.toList.mapM fun found => do
        return (found.fileName, ← readEntry (path ++ "/" ++ found.fileName))
      return some (.folder (entries.filterMap fun (name, entry) => entry.map (name, ·)))
    catch _ => return none

/-- Adds what a path leads to, if it leads to something. -/
def addPath (files : FileTree) (written : String) : IO FileTree := do
  match ← readEntry written with
  | some entry => return files.put (.ofString written) entry
  | none => return files

/-- The names of a path that the system gives. -/
def namesOf (path : String) : List String :=
  (Path.ofString path).names

/-- The files that a command line and the settings name, and the working
directory where nothing is named. -/
def snapshot (settingsFile : Path) (line : List String) : IO FileTree := do
  let here := toString (← IO.currentDir)
  let files : FileTree :=
    { root := .folder [], workingDirectory := namesOf here, refusals := .empty }
  let files := files.put (.ofString ".") (.folder [])
  let operands := line.filter fun argument => !argument.startsWith "-" && !argument.isEmpty
  let needsHere := operands.head? == some "scan" && operands.length == 1
  let named := settingsFile.text :: (if needsHere then ["."] else operands)
  named.foldlM addPath files

/-- Runs the program. -/
def runProgram (line : List String) : IO UInt32 := do
  let home := (← IO.getEnv "HOME").getD ""
  let settingsFile := Settings.fileIn
    (Settings.folder (← IO.getEnv Settings.homeVariable) (some home))
  let files ← snapshot settingsFile line
  let environment : Environment := { files, settingsFile, home := .ofString home }
  let colours ← (← IO.getStdout).isTty
  let outcome := Command.run environment colours line
  IO.print outcome.stdout
  IO.eprint outcome.stderr
  return UInt32.ofNat outcome.exitCode

end SourceLens

/-- The program. -/
def main (line : List String) : IO UInt32 :=
  SourceLens.runProgram line
