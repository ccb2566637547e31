import SourceLens.Files.Path
import SourceLens.Json.Value
import SourceLens.Text.Slug

/-!
# Extracted functions
-/

namespace SourceLens

/-- **A function found in a source file**: its name and code, and where it
comes from. -/
structure ExtractedFunction where
  projectName : String
  fileName : String
  language : String
  name : String
  code : String
  source : Path
  /-- The extension of files that hold such a function. -/
  extension : String
  deriving DecidableEq, Repr

namespace ExtractedFunction

/-- A file name that is safe to publish the code under: the slug of the
function's name with the extension of its language, or `.txt`. -/
def publicName (f : ExtractedFunction) : String :=
  slugify f.name Slug.defaultLimit ++ (if f.extension.isEmpty then ".txt" else f.extension)

/-- The function as a JSON object. -/
def toJson (f : ExtractedFunction) : Json :=
  .obj [
    ("project_name", .str f.projectName),
    ("file_name", .str f.fileName),
    ("language", .str f.language),
    ("function_name", .str f.name),
    ("code", .str f.code),
    ("source_path", .str f.source.text),
    ("gist_filename", .str f.publicName)]

/-- The function in a line. -/
def title (f : ExtractedFunction) : String :=
  f.name ++ " (" ++ f.fileName ++ ")"

end ExtractedFunction

end SourceLens
