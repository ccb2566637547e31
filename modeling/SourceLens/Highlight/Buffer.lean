import SourceLens.Token.Basic

/-!
# Tag buffers

A tag buffer holds one tag for each character of a text. Spans are applied to
it one after the other, so a later span covers an earlier one, and its tags
can be read off one by one or as runs of equal tags.
-/

namespace SourceLens

/-- **A buffer**: the tag of each offset. -/
structure TagBuffer where
  tags : Array String
  deriving DecidableEq, Repr

/-- Why an operation on a buffer is refused. -/
inductive BufferError where
  | negativeLength
  /-- The range is not one of the buffer, which has `size` offsets. -/
  | outside (start stop : Int) (size : Nat)
  /-- There is no such offset. -/
  | noOffset
  /-- The offset is beyond the largest one. -/
  | offsetTooLarge
  deriving DecidableEq, Repr

/-- What an error says. -/
def BufferError.message : BufferError → String
  | .negativeLength => "Buffer length must be >= 0"
  | .outside start stop size =>
    "Range " ++ toString start ++ ".." ++ toString stop ++ " outside buffer of " ++ toString size
  | .noOffset => "list index out of range"
  | .offsetTooLarge => "cannot fit 'int' into an index-sized integer"

/-- **A run**: a range of offsets with one tag. -/
structure TagRun where
  start : Nat
  stop : Nat
  tag : String
  deriving DecidableEq, Repr

namespace TagBuffer

/-- A buffer with the default tag everywhere. -/
def blank (length : Nat) : TagBuffer :=
  ⟨Array.replicate length defaultTag⟩

/-- A buffer of a length, if it is one. -/
def make (length : Int) : Except BufferError TagBuffer :=
  if length < 0 then .error .negativeLength else .ok (blank length.toNat)

/-- The number of offsets. -/
def length (buffer : TagBuffer) : Nat :=
  buffer.tags.size

/-- A range of the buffer. -/
def hasRange (buffer : TagBuffer) (start stop : Int) : Bool :=
  0 ≤ start && start ≤ stop && stop ≤ buffer.length

/-- Tags some offsets in a row. -/
def fill (tags : Array String) (tag : String) (offset : Nat) : Nat → Array String
  | 0 => tags
  | count + 1 => fill (tags.setIfInBounds offset tag) tag (offset + 1) count

/-- **Tags a range.** A range outside of the buffer is refused. -/
def setTag (buffer : TagBuffer) (start stop : Int) (tag : String) :
    Except BufferError TagBuffer :=
  if buffer.hasRange start stop then
    .ok ⟨fill buffer.tags tag start.toNat (stop - start).toNat⟩
  else .error (.outside start stop buffer.length)

/-- The tag at an offset. A negative offset counts from the end. -/
def tagAt (buffer : TagBuffer) (offset : Int) : Except BufferError String :=
  if (largestIndex : Int) < offset || offset < -(largestIndex : Int) - 1 then
    .error .offsetTooLarge
  else
    let offset := if offset < 0 then offset + buffer.length else offset
    if offset < 0 then .error .noOffset
    else
      match buffer.tags[offset.toNat]? with
      | some tag => .ok tag
      | none => .error .noOffset

/-- The runs of some tags, of which the run that starts at `start` with `tag`
has reached `offset`. -/
def runsFrom (start : Nat) (tag : String) : Nat → List String → List TagRun
  | offset, [] => [⟨start, offset, tag⟩]
  | offset, next :: rest =>
    if next == tag then runsFrom start tag (offset + 1) rest
    else ⟨start, offset, tag⟩ :: runsFrom offset next (offset + 1) rest

/-- **The runs of equal tags**, each as long as possible, in order. -/
def runs (buffer : TagBuffer) : List TagRun :=
  match buffer.tags.toList with
  | [] => []
  | tag :: rest => runsFrom 0 tag 1 rest

/-- Tags the ranges of some spans in order, up to the first that is refused.
What has been tagged before stays. -/
def applySpans (buffer : TagBuffer) : List Span → TagBuffer × Option BufferError
  | [] => (buffer, none)
  | span :: rest =>
    if buffer.hasRange span.start span.stop then
      applySpans ⟨fill buffer.tags span.tag span.start span.length⟩ rest
    else (buffer, some (.outside span.start span.stop buffer.length))

/-- **Shows a text in a buffer**: the default tag over the length of the text,
then the spans in order. A text that is longer than the buffer is refused. -/
def applyHighlighting (buffer : TagBuffer) (text : Text) (spans : List Span) :
    TagBuffer × Option BufferError :=
  if buffer.hasRange 0 text.size then
    applySpans ⟨fill buffer.tags defaultTag 0 text.size⟩ spans
  else (buffer, some (.outside 0 text.size buffer.length))

end TagBuffer

end SourceLens
