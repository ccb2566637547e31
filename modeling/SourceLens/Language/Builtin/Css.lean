import SourceLens.Language.Builtin.Shared

/-!
# CSS
-/

namespace SourceLens.Builtin.Css

open Pattern

/-- The characters that continue a name. -/
def namePart : CharSet := .union [.word, .single '-']

/-- Not in the middle of a name. -/
def notInName : Pattern := .behind false 1 (Pattern.char namePart)

/-- The token categories. -/
def categories : List Category := [
  ⟨"comment", "comment", blockComment⟩,
  ⟨"string", "string", choice [quotedString '"', quotedString '\'']⟩,
  ⟨"at_rule", "keyword", concat [only '@', (Pattern.char namePart).plus]⟩,
  ⟨"important", "keyword", concat [literal "!important", edge]⟩,
  ⟨"color", "number",
    concat [only '#', (Pattern.char hexDigits).times 3 (some 8) true, edge,
      .ahead false (Pattern.char namePart)]⟩,
  ⟨"property", "attribute",
    concat [notInName, inside [asciiLetters, .single '-'], (Pattern.char namePart).star,
      .ahead true (concat [gap, only ':', noneOf ":"])]⟩,
  ⟨"selector", "tag",
    concat [oneOf ".#", inside [asciiLetters, .oneOf "_-"], (Pattern.char namePart).star]⟩,
  ⟨"number", "number",
    concat [notInName, (only '-').opt, (Pattern.char .digit).star, (only '.').opt,
      (Pattern.char .digit).plus,
      (choice [only '%', (Pattern.char asciiLetters).plus]).opt]⟩]

/-- **CSS**, which is only highlighted. -/
def rule : Rule :=
  .ofCategories "css" ["CSS", "scss"] ".css" categories none

end SourceLens.Builtin.Css
