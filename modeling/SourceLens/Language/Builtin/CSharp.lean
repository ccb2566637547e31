import SourceLens.Language.Builtin.Shared

/-!
# C#
-/

namespace SourceLens.Builtin.CSharp

open Pattern

/-- The reserved words and literals. -/
def keywords : List String := [
  "abstract", "as", "async", "await", "base", "bool", "break", "case",
  "catch", "char", "class", "const", "continue", "decimal", "default",
  "do", "double", "else", "enum", "false", "finally", "float", "for",
  "foreach", "if", "in", "int", "interface", "internal", "is", "long",
  "namespace", "new", "null", "object", "out", "override", "private",
  "protected", "public", "readonly", "ref", "return", "sealed",
  "static", "string", "struct", "switch", "this", "throw", "true",
  "try", "using", "var", "virtual", "void", "while"]

/-- The token categories. -/
def categories : List Category := [
  ⟨"comment", "comment", slashComment⟩,
  ⟨"string", "string",
    choice [doubledString "@\"" '"', concat [(only '$').opt, quotedString '"'],
      quotedString '\'']⟩,
  ⟨"keyword", "keyword", wordOf keywords⟩,
  ⟨"number", "number", number⟩,
  ⟨"operator", "operator", operators⟩]

/-- **The header of a method**, up to its opening brace: modifiers, the return
type, the name, type parameters, the parameters and constraints. -/
def header : Pattern :=
  concat [lineStart, (Pattern.char indent).star,
    modifiers ["public", "private", "protected", "internal", "static", "virtual", "override",
      "abstract", "sealed", "async", "extern", "unsafe", "new", "partial", "readonly"],
    (concat [(inside [.word, .oneOf "<>[],.?"]).plus, (Pattern.char indent).plus]).starLazy,
    .group 1 none name, gap,
    (concat [only '<', (noneOf ">()\x7b\x7d;").star, only '>']).opt, gap, parameters, gap,
    (concat [literal "where", someGap, (noneOf "\x7b;").star]).opt,
    only '{']

/-- **C#.** -/
def rule : Rule :=
  .ofCategories "csharp" ["C#", "cs"] ".cs" categories (some ⟨.brace, header⟩)

end SourceLens.Builtin.CSharp
