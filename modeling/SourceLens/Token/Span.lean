import SourceLens.Text.Quoted

/-!
# Tagged spans

A span is a half-open range of offsets of a text with the tag that it is shown
with.
-/

namespace SourceLens

/-- The tag of everything that no token covers. -/
def defaultTag : String := "default"

/-- The largest number that counts or addresses elements. -/
def largestIndex : Nat := 9223372036854775807

/-- **A tagged range** from `start` up to `stop`, exclusive. -/
structure Span where
  start : Nat
  stop : Nat
  tag : String
  start_le_stop : start ≤ stop := by omega
  deriving DecidableEq, Repr

/-- Why two offsets and a tag make no span, or a span has no length. -/
inductive SpanError where
  /-- The range starts before the text or ends before it starts. -/
  | badOffsets (start stop : Int)
  /-- The length is beyond the largest one. -/
  | tooLong
  deriving DecidableEq, Repr

/-- What an error says. -/
def SpanError.message : SpanError → String
  | .badOffsets start stop => "Invalid span offsets: " ++ toString start ++ ".." ++ toString stop
  | .tooLong => "cannot fit 'int' into an index-sized integer"

namespace Span

/-- The span of two offsets, if they are in order. -/
def make (start stop : Int) (tag : String) : Except SpanError Span :=
  if h : 0 ≤ start ∧ start ≤ stop then
    .ok ⟨start.toNat, stop.toNat, tag, by omega⟩
  else .error (.badOffsets start stop)

/-- The number of characters covered. -/
def length (span : Span) : Nat :=
  span.stop - span.start

/-- The number of characters covered, if it can be told. -/
def length? (span : Span) : Except SpanError Nat :=
  if span.length ≤ largestIndex then .ok span.length else .error .tooLong

/-- The offset is covered. -/
def covers (span : Span) (offset : Nat) : Bool :=
  span.start ≤ offset && offset < span.stop

/-- The order of spans: by start, then by end, then by tag. -/
def le (a b : Span) : Bool :=
  if a.start != b.start then a.start ≤ b.start
  else if a.stop != b.stop then a.stop ≤ b.stop
  else a.tag ≤ b.tag

/-- Spans in order. -/
def sort (spans : List Span) : List Span :=
  spans.mergeSort le

end Span

end SourceLens
