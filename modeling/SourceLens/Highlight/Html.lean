import SourceLens.Highlight.Segment

/-!
# Highlighted text as HTML

Each segment with a tag of its own is wrapped in a `span` element whose class
is the tag after a prefix. The three characters that markup is made of are
written as entities.
-/

namespace SourceLens.Html

/-- A character as it is written in HTML. -/
def escapeChar (c : Char) : List Char :=
  if c == '&' then "&amp;".toList
  else if c == '<' then "&lt;".toList
  else if c == '>' then "&gt;".toList
  else [c]

/-- Characters as they are written in HTML. -/
def escape (cs : List Char) : List Char :=
  cs.flatMap escapeChar

/-- The start of a wrapper. -/
def opening (classPrefix tag : String) : List Char :=
  "<span class=\"".toList ++ classPrefix.toList ++ tag.toList ++ ['"', '>']

/-- The end of a wrapper. -/
def closing : List Char :=
  "</span>".toList

/-- A segment, wrapped unless its tag is the default one. -/
def segment (classPrefix : String) (s : Segment) : List Char :=
  let shown := escape s.chars.toList
  if s.tag == defaultTag then shown
  else opening classPrefix s.tag ++ shown ++ closing

/-- The prefix of classes where nobody asks for another. -/
def defaultClassPrefix : String := "tok-"

/-- **A text with its spans as HTML.** -/
def render (text : Text) (spans : List Span) (classPrefix : String) : String :=
  String.ofList ((Segment.cut text spans).flatMap (segment classPrefix))

end SourceLens.Html
