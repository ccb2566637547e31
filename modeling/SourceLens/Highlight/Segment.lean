import SourceLens.Token.Span
import SourceLens.Text.Basic

/-!
# Segments

To be written out, a text is cut into segments: the stretch of each span with
its tag, and the stretches between with the default tag.
-/

namespace SourceLens

/-- **A stretch of a text with its tag.** -/
structure Segment where
  chars : Text
  tag : String
  deriving DecidableEq, Repr

namespace Segment

/-- The segments from an offset on. Spans are taken as they come; their ends
may lie outside of the text. -/
def cutFrom (text : Text) : Nat → List Span → List Segment
  | offset, [] =>
    if offset < text.size then [⟨text.slice offset text.size, defaultTag⟩] else []
  | offset, span :: rest =>
    let stretch : Segment := ⟨text.slice span.start span.stop, span.tag⟩
    let later := cutFrom text span.stop rest
    if offset < span.start then
      ⟨text.slice offset span.start, defaultTag⟩ :: stretch :: later
    else stretch :: later

/-- **The segments of a text** under some spans. -/
def cut (text : Text) (spans : List Span) : List Segment :=
  cutFrom text 0 spans

end Segment

end SourceLens
