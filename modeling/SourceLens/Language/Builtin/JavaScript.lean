import SourceLens.Language.Builtin.Shared

/-!
# JavaScript
-/

namespace SourceLens.Builtin.JavaScript

open Pattern

/-- The reserved words and literals. -/
def keywords : List String := [
  "async", "await", "break", "case", "catch", "class", "const",
  "continue", "debugger", "default", "delete", "do", "else", "export",
  "extends", "finally", "for", "from", "function", "if", "import",
  "in", "instanceof", "let", "new", "of", "return", "static", "super",
  "switch", "this", "throw", "try", "typeof", "var", "void", "while",
  "with", "yield", "true", "false", "null", "undefined"]

/-- The token categories. -/
def categories : List Category := [
  ⟨"comment", "comment", slashComment⟩,
  ⟨"string", "string", choice [quotedString '"', quotedString '\'', quotedString '\x60']⟩,
  ⟨"keyword", "keyword", wordOf keywords⟩,
  ⟨"number", "number", number⟩,
  ⟨"operator", "operator", operators⟩]

/-- The start of a line, with its indentation. -/
def lineIndent : Pattern :=
  concat [lineStart, (Pattern.char indent).star]

/-- A word that may stand before a declaration. -/
def optionalWord (word : String) : Pattern :=
  (concat [literal word, someGap]).opt

/-- A function declared by its name. -/
def declaration : Pattern :=
  concat [lineIndent, optionalWord "export", optionalWord "default", optionalWord "async",
    literal "function", gap, (only '*').opt, gap,
    .group 1 none dollarName, gap, parameters, gap, only '{']

/-- A function or arrow function given to a name. -/
def assignment : Pattern :=
  concat [lineIndent, optionalWord "export",
    (concat [choice [literal "const", literal "let", literal "var"], someGap]).opt,
    .group 2 none
      (concat [inside [asciiLetters, .oneOf "_$"], (inside [.word, .oneOf "$."]).star]),
    gap, choice [only ':', concat [only '=', .ahead false (oneOf "=>")]], gap,
    optionalWord "async",
    choice [
      concat [literal "function", gap, (only '*').opt, gap,
        (inside [.word, .single '$']).star, gap, parameters],
      concat [parameters, gap, literal "=>"],
      concat [dollarName, gap, literal "=>"]],
    gap, only '{']

/-- A method of a class or an object. -/
def method : Pattern :=
  concat [lineIndent, modifiers ["static", "async", "get", "set"], (only '*').opt,
    (Pattern.char indent).star, .group 3 none dollarName, gap, parameters, gap, only '{']

/-- **The header of a function**, up to its opening brace. -/
def header : Pattern :=
  choice [declaration, assignment, method]

/-- **JavaScript.** -/
def rule : Rule :=
  .ofCategories "javascript" ["JavaScript", "js", "TypeScript", "ts"] ".js" categories
    (some ⟨.brace, header⟩)

end SourceLens.Builtin.JavaScript
