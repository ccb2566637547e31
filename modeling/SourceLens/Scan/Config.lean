import SourceLens.Files.Glob
import SourceLens.Files.Path

/-!
# What to scan
-/

namespace SourceLens

/-- The names that a scan passes over where nobody asks for others: folders of
dependencies, of build results and of tools. -/
def defaultSkipPatterns : List String := [
  "node_modules", ".git", "__pycache__", ".dart_tool",
  "build", "dist", ".next", ".venv", "venv", "env",
  ".eggs", "*.egg-info", ".idea", ".gradle", "target"]

/-- The largest size of a file, in octets, where nobody asks for another. -/
def defaultLargestFile : Nat := 2 * 1024 * 1024

/-- **What a scan is to do**: where to start, how to call the project, which
names to pass over, and which size of files is too large. -/
structure ScanConfig where
  root : Path := .ofString "."
  projectName : Option String := none
  skipPatterns : List String := defaultSkipPatterns
  largestFile : Int := defaultLargestFile
  deriving DecidableEq, Repr

namespace ScanConfig

/-- The name of the project: the one given, or that of the folder. -/
def resolvedName (config : ScanConfig) (workingDirectory : List String) : String :=
  let folder := (config.root.resolve workingDirectory).name
  let folder := if folder.isEmpty then "project" else folder
  match config.projectName with
  | some name => if name.isEmpty then folder else name
  | none => folder

/-- **A path below the root is passed over**: some part of it is selected by
some pattern. -/
def skips (config : ScanConfig) (parts : List String) : Bool :=
  parts.any fun part => config.skipPatterns.any fun pattern => globMatches pattern part

end ScanConfig

end SourceLens
