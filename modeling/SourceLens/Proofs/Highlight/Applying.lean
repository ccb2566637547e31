import Mathlib
import SourceLens.Proofs.Highlight.Buffer

/-!
# What applying spans does to a buffer

Spans come from anywhere: they may overlap, stand in any order, be empty, or end
beyond the buffer. The first one that ends beyond the buffer stops the
application, and what the spans before it have tagged stays
(`TagBuffer.applySpans_eq_take`). So the effect of any spans is that of the
spans before the first misfit, where each offset takes its tag from the last
span that covers it (`Span.tagOver_eq`), and the misfit only decides about the
error.

At each offset this either fixes the tag or leaves the one before, whatever it
is. That is why applying the same spans again changes nothing, also where the
first application was stopped half-way (`TagBuffer.applyHighlighting_effect`).
-/

namespace SourceLens

namespace Span

variable {before : String} {spans : List Span} {offset : Nat}

/-- **The last of some spans that covers an offset.** -/
def lastCovering? (spans : List Span) (offset : Nat) : Option Span :=
  (spans.filter (·.covers offset)).getLast?

/-- **The last span that covers an offset gives its tag**; without one the tag
before is left. -/
theorem tagOver_eq (before : String) (spans : List Span) (offset : Nat) :
    tagOver before spans offset = ((lastCovering? spans offset).map (·.tag)).getD before := by
  induction spans generalizing before with
  | nil => rfl
  | cons span rest ih =>
    rw [tagOver_cons, ih, lastCovering?, lastCovering?, List.filter_cons]
    by_cases hcover : span.covers offset = true
    · rw [if_pos hcover, if_pos hcover, List.getLast?_cons]
      cases (rest.filter (·.covers offset)).getLast? <;> rfl
    · rw [if_neg hcover, if_neg hcover]

/-- **Spans that are applied again give the same tags**, whether the tag below
them is set anew or not. -/
theorem tagOver_again (fresh : Prop) [Decidable fresh] (tag : String) :
    tagOver (if fresh then tag else tagOver (if fresh then tag else before) spans offset)
        spans offset
      = tagOver (if fresh then tag else before) spans offset := by
  rw [tagOver_eq, tagOver_eq]
  cases lastCovering? spans offset with
  | some span => rfl
  | none => split <;> rfl

end Span

namespace TagBuffer

variable {buffer : TagBuffer} {spans : List Span} {text : Text}

/-- The number of spans before the first one that ends beyond a buffer of some
length. -/
def fittingCount (length : Nat) (spans : List Span) : Nat :=
  spans.findIdx fun span => length < span.stop

/-- The spans before the first misfit end in the buffer. -/
theorem stop_le_of_mem_take {length : Nat} {span : Span}
    (h : span ∈ spans.take (fittingCount length spans)) : span.stop ≤ length := by
  obtain ⟨i, hi, rfl⟩ := List.mem_take_iff_getElem.mp h
  have hfits := List.not_of_lt_findIdx (Nat.lt_of_lt_of_le hi (Nat.min_le_left _ _))
  exact Nat.not_lt.mp (of_decide_eq_false hfits)

/-- **Spans are applied up to the first misfit**, which is the error. -/
theorem applySpans_eq_take (buffer : TagBuffer) (spans : List Span) :
    buffer.applySpans spans
      = ((buffer.applySpans (spans.take (fittingCount buffer.length spans))).1,
        spans[fittingCount buffer.length spans]?.map fun span =>
          .outside span.start span.stop buffer.length) := by
  induction spans generalizing buffer with
  | nil => rfl
  | cons span rest ih =>
    unfold fittingCount
    by_cases hfits : span.stop ≤ buffer.length
    · have hrange := (hasRange_span span).mpr hfits
      have hlength : (⟨fill buffer.tags span.tag span.start span.length⟩ : TagBuffer).length
          = buffer.length := size_fill _ _ _ _
      have hrest := ih ⟨fill buffer.tags span.tag span.start span.length⟩
      rw [hlength] at hrest
      rw [List.findIdx_cons, decide_eq_false (Nat.not_lt.mpr hfits), cond_false,
        List.take_succ_cons, List.getElem?_cons_succ, applySpans, if_pos hrange, applySpans,
        if_pos hrange]
      exact hrest
    · rw [List.findIdx_cons, decide_eq_true (Nat.lt_of_not_le hfits), cond_true, applySpans,
        if_neg fun h => hfits ((hasRange_span span).mp h)]
      rfl

/-- A text fits into a buffer that is at least as long. -/
theorem hasRange_text (buffer : TagBuffer) (text : Text) :
    buffer.hasRange 0 text.size = true ↔ text.size ≤ buffer.length :=
  hasRange_span ⟨0, text.size, defaultTag, Nat.zero_le _⟩

/-- A text that is too long changes nothing. -/
theorem applyHighlighting_of_lt (h : buffer.length < text.size) :
    buffer.applyHighlighting text spans
      = (buffer, some (.outside 0 text.size buffer.length)) := by
  rw [applyHighlighting, if_neg fun hrange => Nat.not_le.mpr h ((hasRange_text _ _).mp hrange)]

/-- **A buffer after spans have been applied**: those before the first misfit
over the default tags of the text and the tags behind it. -/
theorem applyHighlighting_of_le (h : text.size ≤ buffer.length) :
    buffer.applyHighlighting text spans
      = (⟨buffer.tags.mapIdx fun i before =>
          Span.tagOver (if i < text.size then defaultTag else before)
            (spans.take (fittingCount buffer.length spans)) i⟩,
        spans[fittingCount buffer.length spans]?.map fun span =>
          .outside span.start span.stop buffer.length) := by
  have hlength : (⟨fill buffer.tags defaultTag 0 text.size⟩ : TagBuffer).length
      = buffer.length := size_fill _ _ _ _
  have hstop : ∀ span ∈ spans.take (fittingCount buffer.length spans),
      span.stop ≤ buffer.length := fun _ => stop_le_of_mem_take
  have hfitting := applyHighlighting_eq h hstop
  have hrange := (hasRange_text buffer text).mpr h
  rw [applyHighlighting, if_pos hrange] at hfitting
  rw [applyHighlighting, if_pos hrange, applySpans_eq_take, hlength, hfitting]

/-- **What applying spans to a buffer does**, whatever spans they are. A text
that is longer than the buffer is refused, and nothing changes. Otherwise the
spans before the first misfit count, and no others: an offset has the tag of the
last of them that covers it, else the default tag if it is one of the text, else
the tag it had before; and there is an error if and only if there is a misfit,
the first of which it names. The buffer keeps its length, and applying the same
spans again gives the same buffer and the same error. -/
theorem applyHighlighting_effect (buffer : TagBuffer) (text : Text) (spans : List Span) :
    let count := fittingCount buffer.length spans
    let shown := buffer.applyHighlighting text spans
    (buffer.length < text.size →
      shown = (buffer, some (.outside 0 text.size buffer.length))) ∧
    (text.size ≤ buffer.length →
      (∀ i, shown.1.tags[i]? = buffer.tags[i]?.map fun before =>
        match Span.lastCovering? (spans.take count) i with
        | some span => span.tag
        | none => if i < text.size then defaultTag else before) ∧
      (shown.2 = spans[count]?.map fun span => .outside span.start span.stop buffer.length) ∧
      (shown.2 ≠ none ↔ count < spans.length)) ∧
    shown.1.length = buffer.length ∧
    shown.1.applyHighlighting text spans = shown := by
  dsimp only
  obtain hlt | hle := Nat.lt_or_ge buffer.length text.size
  · have hrefused := @applyHighlighting_of_lt buffer spans text hlt
    rw [hrefused]
    exact ⟨fun _ => rfl, fun hle => absurd hlt (Nat.not_lt.mpr hle), rfl, hrefused⟩
  · have happlied := @applyHighlighting_of_le buffer spans text hle
    have hlength : (buffer.applyHighlighting text spans).1.length = buffer.length := by
      rw [happlied]
      exact Array.size_mapIdx
    refine ⟨fun hlt => absurd hlt (Nat.not_lt.mpr hle), fun _ => ⟨fun i => ?_, ?_, ?_⟩, hlength, ?_⟩
    · rw [happlied, Array.getElem?_mapIdx]
      refine congrArg (buffer.tags[i]?.map ·) (funext fun before => ?_)
      rw [Span.tagOver_eq]
      cases Span.lastCovering? (spans.take (fittingCount buffer.length spans)) i <;> rfl
    · rw [happlied]
    · rw [happlied]
      simp
    · -- the second application has the same misfit, and meets its own tags
      rw [applyHighlighting_of_le (hle.trans_eq hlength.symm), hlength, happlied,
        Array.mapIdx_mapIdx]
      simp only [Function.comp_def, Span.tagOver_again]

/-- Two spans that overlap, one across the end of the text, one that ends beyond
the buffer, and one behind it in the list. -/
def unevenSpans : List Span :=
  [⟨1, 2, "x", by omega⟩, ⟨0, 2, "y", by omega⟩, ⟨2, 4, "z", by omega⟩, ⟨4, 6, "far", by omega⟩,
    ⟨0, 1, "late", by omega⟩]

/-- Three of the five spans count, and the fourth is the error, also when the
spans are applied again. -/
theorem unevenSpans_effect :
    (⟨Array.replicate 5 "old"⟩ : TagBuffer).length = 5 ∧
    let shown := (⟨Array.replicate 5 "old"⟩ : TagBuffer).applyHighlighting #['a', 'b', 'c']
      unevenSpans
    shown.1.tags[1]? = some "y" ∧ shown.1.tags[3]? = some "z" ∧ shown.1.tags[4]? = some "old" ∧
      shown.2 = some (.outside 4 6 5) ∧
      shown.1.applyHighlighting #['a', 'b', 'c'] unevenSpans = shown := by
  obtain ⟨-, hshown, -, hagain⟩ :=
    applyHighlighting_effect ⟨Array.replicate 5 "old"⟩ #['a', 'b', 'c'] unevenSpans
  obtain ⟨htags, herror, -⟩ := hshown (by decide)
  refine ⟨rfl, ?_, ?_, ?_, herror, hagain⟩
  · rw [htags]
    rfl
  · rw [htags]
    rfl
  · rw [htags]
    rfl

end TagBuffer

end SourceLens
