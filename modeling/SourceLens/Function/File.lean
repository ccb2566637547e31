import SourceLens.Files.Tree
import SourceLens.Function.Extraction

/-!
# The functions of a file

The language of a file is the one that its name shows. A file in no known
language has no functions, and is not read.
-/

namespace SourceLens

/-- Why the functions of a file cannot be found. -/
inductive ExtractionError where
  | unreadable (cause : FileError)
  | noOpeningBrace (cause : NoOpeningBrace)
  deriving DecidableEq, Repr

/-- **The functions of a file**, and what there is to report. -/
def Registry.extractFile (registry : Registry) (files : FileTree) (path : Path)
    (projectName : Option String) :
    Except ExtractionError (List ExtractedFunction) × List Notice :=
  match detectLanguage path.name with
  | none => (.ok [], [])
  | some language =>
    match files.readText path with
    | .error cause => (.error (.unreadable cause), [])
    | .ok text =>
      let (functions, notices) := registry.extract text (some language) (.of path projectName)
      (functions.mapError .noOpeningBrace, notices)

end SourceLens
