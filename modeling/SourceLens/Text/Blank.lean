import SourceLens.Text.Ranges

/-!
# Blank characters

The white space of texts and patterns: the control characters from the tab to
the carriage return, the four information separators, the next-line character
and every space, line and paragraph separator of Unicode.
-/

namespace SourceLens.CharClass

/-- The blank characters beyond ASCII. -/
def blankTable : CodeRanges where
  ranges := #[
    (0x85, 0x85), (0xA0, 0xA0), (0x1680, 0x1680), (0x2000, 0x200A), (0x2028, 0x2029),
    (0x202F, 0x202F), (0x205F, 0x205F), (0x3000, 0x3000)]

/-- **A blank character.** Among ASCII: tab to carriage return, U+001C to
U+001F, and the space. -/
def isBlank (c : Char) : Bool :=
  let code := c.toNat
  if code < 0x80 then
    code == 0x20 || (0x09 ≤ code && code ≤ 0x0D) || (0x1C ≤ code && code ≤ 0x1F)
  else blankTable.contains code

/-- What a source line is indented with: spaces and tabs, nothing else. -/
def isIndent (c : Char) : Bool :=
  c == ' ' || c == '\t'

end SourceLens.CharClass
