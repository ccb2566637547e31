import SourceLens.Function.Block
import SourceLens.Function.Record
import SourceLens.Language.Detection
import SourceLens.Language.Registry
import SourceLens.Notice

/-!
# Finding functions

The functions of a text are found by the headers of its language. A header
that is only a control-flow statement in disguise is passed over. The body of
a function ends with its block, or at the next header that is not indented.
-/

namespace SourceLens

namespace Function

/-- The name of a function whose header names none. -/
def unnamed : String := "unknown"

/-- Words that a header can show in the place of a name. -/
def controlWords : List String := [
  "if", "for", "foreach", "while", "switch", "catch", "synchronized",
  "return", "new", "else", "do", "try", "throw", "sizeof", "using", "lock",
  "fixed", "when", "with", "function", "typeof", "delete", "await",
  "yield", "case", "elif"]

/-- Words that do not stand right before the name of a function that is being
declared. -/
def usingWords : List String :=
  ["new", "return", "throw", "else", "case", "await", "yield", "record"]

/-- **A header is a declaration**: what stands in the place of its name is no
control word, and the last word before it is not one that makes it a use. -/
def isDeclaration (before name : String) : Bool :=
  if controlWords.contains name then false
  else
    match (blankSeparated before.toList).getLast? with
    | some word => !usingWords.contains (String.ofList word)
    | none => true

/-- The name in a header and its offset: the first group that is not empty. -/
def nameIn (text : Text) (groupCount : Nat) (m : Match) : String × Nat :=
  let named := (List.range groupCount).findSome? fun index =>
    (m.group? (index + 1)).filter fun g => g.start < g.stop
  match named with
  | some g => ((text.slice g.start g.stop).toString, g.start)
  | none => (unnamed, m.start)

/-- The offset of the first character at or after an offset that is not a
space or a tab. The last argument bounds the characters to look at. -/
def skipIndent (text : Text) : Nat → Nat → Nat
  | offset, 0 => offset
  | offset, left + 1 =>
    match text[offset]? with
    | some c => if CharClass.isIndent c then skipIndent text (offset + 1) left else offset
    | none => offset

/-- Where the code of a function starts: after the indentation of its
header. -/
def codeStart (text : Text) (m : Match) : Nat :=
  skipIndent text m.start (text.size - m.start)

/-- A name with the code of the function. -/
structure Found where
  name : String
  code : Text
  deriving DecidableEq, Repr

/-- The functions of some headers whose bodies are blocks. The last character
of a header has to open the block. -/
def foundInBlocks (text : Text) (groupCount : Nat) :
    List Match → Except NoOpeningBrace (List Found)
  | [] => .ok []
  | m :: rest => do
    let (name, nameStart) := nameIn text groupCount m
    let start := codeStart text m
    if !isDeclaration (text.slice start nameStart).toString name then
      foundInBlocks text groupCount rest
    else
      let stop ← blockEnd text ((m.stop : Int) - 1)
      let code := text.slice start stop
      let later ← foundInBlocks text groupCount rest
      return if code.hasInk then ⟨name, code⟩ :: later else later

/-- A header starts without indentation. -/
def isTopLevel (text : Text) (m : Match) : Bool :=
  match text[m.start]? with
  | some c => !CharClass.isBlank c
  | none => true

/-- The functions of some headers whose bodies end at the next header among
`topLevel`, which are offsets in order. -/
def foundByIndent (text : Text) (groupCount : Nat) (topLevel : List Nat)
    (headers : List Match) : List Found :=
  headers.filterMap fun m =>
    let start := codeStart text m
    let stop := (topLevel.find? (start < ·)).getD text.size
    let code := text.slice start stop
    if code.hasInk then some ⟨(nameIn text groupCount m).1, code⟩ else none

/-- **The functions of a text**, in the order of their headers. -/
def find (style : BlockStyle) (header : Pattern) (text : Text) :
    Except NoOpeningBrace (List Found) :=
  let headers := header.findAll text
  match style with
  | .brace => foundInBlocks text header.groupCount headers
  | .indent =>
    let topLevel := (headers.filter (isTopLevel text)).map (·.start)
    .ok (foundByIndent text header.groupCount topLevel headers)

end Function

/-- A language whose functions cannot be found. -/
structure NoHeader where
  language : String
  deriving DecidableEq, Repr

/-- What the error says. -/
def NoHeader.message (error : NoHeader) : String :=
  "Language " ++ quoted error.language ++ " has no function pattern"

/-- The pattern of function headers of a language, which is needed to find its
functions. -/
def Rule.header (rule : Rule) : Except NoHeader Pattern :=
  match rule.functions with
  | some functions => .ok functions.header
  | none => .error ⟨rule.key⟩

/-- Where a text comes from. -/
structure SourceFile where
  path : Path
  projectName : String
  deriving DecidableEq, Repr

/-- A text from a path; without a project name of its own it belongs to the
project that its folder is called. -/
def SourceFile.of (path : Path) (projectName : Option String) : SourceFile :=
  ⟨path, match projectName with
    | some name => if name.isEmpty then path.parent.name else name
    | none => path.parent.name⟩

/-- The functions of a text in a language, with where they come from. -/
def Rule.functionsIn (rule : Rule) (text : Text) (file : SourceFile) :
    Except NoOpeningBrace (List ExtractedFunction) :=
  match rule.functions with
  | none => .ok []
  | some functions =>
    (Function.find functions.style functions.header text).map fun found =>
      found.map fun f =>
        { projectName := file.projectName
          fileName := file.path.name
          language := rule.key
          name := f.name
          code := f.code.toString
          source := file.path
          extension := rule.extension }

namespace Registry

/-- **The functions of a text**, and what there is to report. An unknown
language has none. -/
def extract (registry : Registry) (text : Text) (language : Option String) (file : SourceFile) :
    Except NoOpeningBrace (List ExtractedFunction) × List Notice :=
  match registry.get? language with
  | none => (.ok [], [.noRule language file.path])
  | some rule => (rule.functionsIn text file, [])

end Registry

end SourceLens
