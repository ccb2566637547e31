import SourceLens.Language.Builtin.Shared

/-!
# Java
-/

namespace SourceLens.Builtin.Java

open Pattern

/-- The reserved words and literals. -/
def keywords : List String := [
  "abstract", "assert", "boolean", "break", "byte", "case", "catch",
  "char", "class", "const", "continue", "default", "do", "double",
  "else", "enum", "extends", "final", "finally", "float", "for",
  "goto", "if", "implements", "import", "instanceof", "int",
  "interface", "long", "native", "new", "package", "private",
  "protected", "public", "record", "return", "short", "static",
  "strictfp", "super", "switch", "synchronized", "this", "throw",
  "throws", "transient", "try", "var", "void", "volatile", "while",
  "true", "false", "null"]

/-- Types of the standard library that are shown like keywords. -/
def types : List String := ["String", "Object", "Integer", "List", "Map"]

/-- The token categories. -/
def categories : List Category := [
  ⟨"comment", "comment", slashComment⟩,
  ⟨"string", "string", choice [quotedString '"', quotedString '\'']⟩,
  ⟨"annotation", "annotation",
    concat [only '@', inside [asciiLetters, .single '_'], (inside [.word, .single '.']).star]⟩,
  ⟨"keyword", "keyword", wordOf keywords⟩,
  ⟨"type", "keyword", wordOf types⟩,
  ⟨"number", "number", number⟩,
  ⟨"operator", "operator", operators⟩]

/-- **The header of a method**, up to its opening brace: annotations,
modifiers, type parameters, the return type, the name, the parameters and the
exceptions. -/
def header : Pattern :=
  concat [lineStart, (Pattern.char indent).star,
    (concat [only '@', (inside [.word, .single '.']).plus, parameters.opt, someGap]).star,
    modifiers ["public", "protected", "private", "static", "final", "abstract",
      "synchronized", "native", "strictfp", "default"],
    (concat [only '<', (noneOf ">\x7b\x7d;").star, only '>', (Pattern.char indent).plus]).opt,
    (concat [(inside [.word, .oneOf "<>[],.?"]).plus, (Pattern.char indent).plus]).starLazy,
    .group 1 none dollarName, gap, parameters, gap,
    (concat [literal "throws", someGap, (inside [.word, .oneOf ".,", .blank]).plusLazy]).opt,
    only '{']

/-- **Java.** -/
def rule : Rule :=
  .ofCategories "java" ["Java"] ".java" categories (some ⟨.brace, header⟩)

end SourceLens.Builtin.Java
