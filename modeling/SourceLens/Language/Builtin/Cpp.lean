import SourceLens.Language.Builtin.Shared

/-!
# C and C++
-/

namespace SourceLens.Builtin.Cpp

open Pattern

/-- The reserved words and literals. -/
def keywords : List String := [
  "auto", "bool", "break", "case", "catch", "char", "class", "const",
  "constexpr", "continue", "default", "delete", "do", "double",
  "else", "enum", "explicit", "extern", "false", "float", "for",
  "friend", "goto", "if", "inline", "int", "long", "namespace", "new",
  "nullptr", "operator", "private", "protected", "public", "return",
  "short", "signed", "sizeof", "static", "struct", "switch",
  "template", "this", "throw", "true", "try", "typedef", "typename",
  "union", "unsigned", "using", "virtual", "void", "volatile", "while"]

/-- The token categories. -/
def categories : List Category := [
  ⟨"comment", "comment", slashComment⟩,
  ⟨"preprocessor", "preprocessor",
    concat [lineStart, (Pattern.char indent).star, only '#', (noneOf "\n").star]⟩,
  ⟨"string", "string", choice [quotedString '"', quotedString '\'']⟩,
  ⟨"keyword", "keyword", wordOf keywords⟩,
  ⟨"number", "number", number⟩,
  ⟨"operator", "operator", operators⟩]

/-- A word that may stand after the parameters. -/
def optionalWord (word : String) : Pattern :=
  (concat [literal word, gap]).opt

/-- **The header of a function**, up to its opening brace: template
parameters, specifiers, the return type, the name with its scopes, the
parameters, and what may follow them. -/
def header : Pattern :=
  concat [lineStart, (Pattern.char indent).star,
    (concat [literal "template", gap, only '<', (noneOf ">\x7b\x7d;").star, only '>', gap]).opt,
    modifiers ["static", "inline", "virtual", "explicit", "extern", "constexpr", "friend",
      "unsigned", "signed", "const", "volatile"],
    (concat [(inside [.word, .oneOf "<>[],.:"]).plus, (oneOf "*& \t").plus]).starLazy,
    .group 1 none (concat [(concat [name, literal "::"]).star, (only '~').opt, name]),
    gap, parameters, gap,
    optionalWord "const", optionalWord "noexcept", optionalWord "override", optionalWord "final",
    (concat [literal "->", gap, (inside [.word, .oneOf ":<>*&"]).plus, gap]).opt,
    (concat [only ':', gap, (noneOf "\x7b;").star]).opt,
    only '{']

/-- **C and C++.** -/
def rule : Rule :=
  .ofCategories "cpp" ["C++", "c", "C", "cxx"] ".cpp" categories (some ⟨.brace, header⟩)

end SourceLens.Builtin.Cpp
