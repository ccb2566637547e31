import SourceLens.Language.Builtin.Shared

/-!
# Python
-/

namespace SourceLens.Builtin.Python

open Pattern

/-- The reserved words, and two names that are almost reserved. -/
def keywords : List String := [
  "False", "None", "True", "and", "as", "assert", "async", "await",
  "break", "class", "continue", "def", "del", "elif", "else",
  "except", "finally", "for", "from", "global", "if", "import", "in",
  "is", "lambda", "nonlocal", "not", "or", "pass", "raise", "return",
  "try", "while", "with", "yield", "self", "cls"]

/-- Functions and types that need no import. -/
def builtins : List String := [
  "print", "len", "range", "int", "str", "float", "list", "dict",
  "set", "tuple", "bool", "isinstance", "super", "open", "enumerate"]

/-- A string between two threefold delimiters. -/
def longString (delimiter : String) : Pattern :=
  concat [literal delimiter, (Pattern.char .any).starLazy, choice [literal delimiter, textEnd]]

/-- A string with an optional kind before it, not in the middle of a word. -/
def string : Pattern :=
  concat [.behind false 1 (Pattern.char .word), (oneOf "rRbBuUfF").times 0 (some 2) true,
    choice [longString "\"\"\"", longString "'''", quotedString '"', quotedString '\'']]

/-- The token categories. -/
def categories : List Category := [
  ⟨"comment", "comment", lineComment "#"⟩,
  ⟨"string", "string", string⟩,
  ⟨"decorator", "annotation",
    concat [only '@', inside [asciiLetters, .single '_'], (inside [.word, .single '.']).star]⟩,
  ⟨"keyword", "keyword", wordOf keywords⟩,
  ⟨"builtin", "builtin", wordOf builtins⟩,
  ⟨"number", "number", number⟩,
  ⟨"operator", "operator", (oneOf "+-*/%=&|^!~<>@").plus⟩]

/-- **The header of a function**, up to its name. -/
def header : Pattern :=
  concat [lineStart, (Pattern.char indent).star,
    (concat [literal "async", (Pattern.char indent).plus]).opt,
    literal "def", (Pattern.char indent).plus, .group 1 none name]

/-- **Python.** -/
def rule : Rule :=
  .ofCategories "python" ["Python", "py"] ".py" categories (some ⟨.indent, header⟩)

end SourceLens.Builtin.Python
