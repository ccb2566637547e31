import SourceLens.Language.Rule

/-!
# Tokens that several languages share

Comments, quoted strings, numbers and operators of the languages with a syntax
like that of C. Comments and strings stop at their closing delimiter or at the
end of the text, so one that is never closed reaches to the end of the text.
-/

namespace SourceLens.Builtin

open Pattern

/-- Blanks within a line. -/
def indent : CharSet := .oneOf " \t"

/-- The rest of a line, from an opener on. -/
def lineComment (opener : String) : Pattern :=
  concat [literal opener, (noneOf "\n").star]

/-- From `/*` to the first `*/`. -/
def blockComment : Pattern :=
  concat [literal "/*", (Pattern.char .any).starLazy, choice [literal "*/", textEnd]]

/-- Line comments after `//`, and block comments. -/
def slashComment : Pattern :=
  choice [lineComment "//", blockComment]

/-- **A quoted string**: up to the next delimiter that no backslash stands
before. -/
def quotedString (delimiter : Char) : Pattern :=
  concat [only delimiter,
    (choice [outside [.single delimiter, .single '\\'],
      concat [only '\\', Pattern.char .any]]).star,
    choice [only delimiter, textEnd]]

/-- A string between delimiters that are doubled inside. -/
def doubledString (opener : String) (delimiter : Char) : Pattern :=
  concat [literal opener,
    (choice [outside [.single delimiter], concat [only delimiter, only delimiter]]).star,
    choice [only delimiter, textEnd]]

/-- The letters of ASCII. -/
def asciiLetters : CharSet := .union [.between 'A' 'Z', .between 'a' 'z']

/-- The digits of hexadecimal numbers. -/
def hexDigits : CharSet := .union [.between '0' '9', .between 'a' 'f', .between 'A' 'F']

/-- **A number**: hexadecimal, binary or decimal, with an optional fraction,
exponent and type suffix, as a whole word. -/
def number : Pattern :=
  concat [edge,
    choice [
      concat [only '0', oneOf "xX", (inside [hexDigits, .single '_']).plus],
      concat [only '0', oneOf "bB", (oneOf "01_").plus],
      concat [Pattern.char .digit, (inside [.digit, .single '_']).star,
        (concat [only '.', (Pattern.char .digit).plus]).opt,
        (concat [oneOf "eE", (oneOf "+-").opt, (Pattern.char .digit).plus]).opt]],
    (oneOf "lLfFdDuU").star, edge]

/-- **A run of operator characters**, which a slash ends where it opens a
comment. -/
def operators : Pattern :=
  (choice [oneOf "+-*%=&|^!~<>?:", concat [only '/', .ahead false (oneOf "/*")]]).plus

/-- A name that starts with a letter or an underscore. -/
def name : Pattern :=
  concat [inside [asciiLetters, .single '_'], (Pattern.char .word).star]

/-- A name in which the dollar sign counts as a letter. -/
def dollarName : Pattern :=
  concat [inside [asciiLetters, .oneOf "_$"], (inside [.word, .single '$']).star]

/-- A list in parentheses, up to the first closing one. -/
def parameters : Pattern :=
  concat [only '(', (noneOf ")").star, only ')']

/-- Any number of blanks, line breaks among them. -/
def gap : Pattern := (Pattern.char .blank).star

/-- Blanks, at least one. -/
def someGap : Pattern := (Pattern.char .blank).plus

/-- Any number of modifiers, each with blanks of its line after it. -/
def modifiers (words : List String) : Pattern :=
  (concat [choice (words.map literal), (Pattern.char indent).plus]).star

end SourceLens.Builtin
