import SourceLens.Files.Path
import SourceLens.Text.LowerCase

/-!
# Telling the language of a file

The extension of a file, in any case, tells its language.
-/

namespace SourceLens

/-- The extensions that are known, with the key of their language. -/
def knownExtensions : List (String × String) := [
  (".java", "java"),
  (".py", "python"),
  (".pyw", "python"),
  (".js", "javascript"),
  (".jsx", "javascript"),
  (".mjs", "javascript"),
  (".cjs", "javascript"),
  (".ts", "javascript"),
  (".tsx", "javascript"),
  (".c", "cpp"),
  (".h", "cpp"),
  (".cpp", "cpp"),
  (".cc", "cpp"),
  (".cxx", "cpp"),
  (".hpp", "cpp"),
  (".hh", "cpp"),
  (".cs", "csharp"),
  (".sql", "sql"),
  (".html", "html"),
  (".htm", "html"),
  (".css", "css")]

/-- **The language of a file name**, if its extension is known. -/
def detectLanguage (name : String) : Option String :=
  knownExtensions.lookup (lower (Path.ofString name).extension)

/-- The extensions of a language. -/
def extensionsOf (key : String) : List String :=
  (knownExtensions.filter (·.2 == key)).map (·.1)

end SourceLens
