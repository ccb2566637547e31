import SourceLens.Language.Builtin.Shared

/-!
# HTML
-/

namespace SourceLens.Builtin.Html

open Pattern

/-- The characters that continue the name of an element or an attribute. -/
def namePart : CharSet := .union [.word, .oneOf ":.-"]

/-- The token categories. -/
def categories : List Category := [
  ⟨"comment", "comment",
    concat [literal "<!--", (Pattern.char .any).starLazy, choice [literal "-->", textEnd]]⟩,
  ⟨"doctype", "keyword",
    (concat [literal "<!doctype", (noneOf ">").star, (only '>').opt]).ignoringCase⟩,
  ⟨"tag", "tag",
    choice [
      concat [only '<', (only '/').opt, Pattern.char asciiLetters, (Pattern.char namePart).star],
      concat [(only '/').opt, only '>']]⟩,
  ⟨"attribute", "attribute",
    concat [.behind true 1 (Pattern.char .blank), inside [asciiLetters, .oneOf "_:@"],
      (Pattern.char namePart).star, .ahead true (concat [gap, only '='])]⟩,
  ⟨"string", "string",
    choice [
      concat [only '"', (noneOf "\"").star, choice [only '"', textEnd]],
      concat [only '\'', (noneOf "'\n<>").star, only '\'']]⟩]

/-- **HTML**, which is only highlighted. -/
def rule : Rule :=
  .ofCategories "html" ["HTML", "htm", "xml"] ".html" categories none

end SourceLens.Builtin.Html
