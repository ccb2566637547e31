import SourceLens.Highlight.Buffer
import SourceLens.Proofs.Token.Spans

/-!
# What a buffer holds

A buffer is filled in place, range by range. Read at one offset, that is much
simpler: applying spans leaves the tag of the last span that covers the offset,
or the tag that was there before (`Span.tagOver`), so a buffer after
`applyHighlighting` is the buffer before with each tag replaced by a function
of its offset (`TagBuffer.applyHighlighting_eq`), and nothing of the tags
before is left where the text is.

The runs of a buffer are read off in one pass. They cover the offsets without
gap or overlap (`TagRun.Tiles`), and written out one after the other they are
the tags again (`TagBuffer.flatMap_runs`).
-/

namespace SourceLens

/-- **The tag of an offset after some spans**, applied one after the other:
that of the last one that covers it, else the one before. -/
def Span.tagOver (before : String) (spans : List Span) (offset : Nat) : String :=
  spans.foldl (fun tag span => if span.covers offset then span.tag else tag) before

namespace Span

variable {before : String} {spans : List Span} {offset size : Nat}

theorem tagOver_cons (span : Span) :
    tagOver before (span :: spans) offset
      = tagOver (if span.covers offset then span.tag else before) spans offset := rfl

/-- Spans that do not cover an offset leave its tag. -/
theorem tagOver_of_covers_eq_false (h : ∀ span ∈ spans, span.covers offset = false) :
    tagOver before spans offset = before := by
  induction spans with
  | nil => rfl
  | cons span rest ih =>
    rw [tagOver_cons, h span List.mem_cons_self]
    exact ih fun other hother => h other (List.mem_cons_of_mem span hother)

/-- **The tag of a span** is that of every offset it covers, if spans are in
order: none that comes later covers the offset again. -/
theorem InOrder.tagOver_of_covers {start : Nat} (h : InOrder size start spans) {span : Span}
    (hspan : span ∈ spans) (hcover : span.covers offset = true) :
    tagOver before spans offset = span.tag := by
  induction h generalizing before with
  | nil => cases hspan
  | @cons _ first rest _ _ _ later ih =>
    rw [tagOver_cons]
    obtain rfl | hrest := List.mem_cons.mp hspan
    · rw [if_pos hcover]
      exact tagOver_of_covers_eq_false (later.covers_eq_false (covers_iff.mp hcover).2)
    · exact ih hrest

end Span

namespace TagBuffer

/-! ## Filling -/

theorem size_fill (tags : Array String) (tag : String) (offset count : Nat) :
    (fill tags tag offset count).size = tags.size := by
  induction count generalizing tags offset with
  | zero => rfl
  | succ count ih =>
    unfold fill
    rw [ih, Array.size_setIfInBounds]

/-- Filling sets the tags of a range and leaves all others. -/
theorem getElem?_fill (tags : Array String) (tag : String) (offset count i : Nat) :
    (fill tags tag offset count)[i]?
      = tags[i]?.map fun before => if offset ≤ i ∧ i < offset + count then tag else before := by
  induction count generalizing tags offset with
  | zero =>
    have hout : ¬ (offset ≤ i ∧ i < offset + 0) := by omega
    simp only [if_neg hout, Option.map_id_fun', id, fill]
  | succ count ih =>
    unfold fill
    rw [ih, Array.getElem?_setIfInBounds]
    by_cases hi : offset = i
    · -- the first offset of the range is set here, and not again
      have hin : offset ≤ i ∧ i < offset + (count + 1) := by omega
      have hout : ¬ (offset + 1 ≤ i ∧ i < offset + 1 + count) := by omega
      rw [if_pos hi]
      simp only [if_pos hin, if_neg hout, Option.map_id_fun', id]
      by_cases hsize : offset < tags.size
      · rw [if_pos hsize, Array.getElem?_eq_getElem (hi ▸ hsize), Option.map_some]
      · rw [if_neg hsize, Array.getElem?_eq_none (by omega), Option.map_none]
    · have hsame : (offset + 1 ≤ i ∧ i < offset + 1 + count)
          ↔ (offset ≤ i ∧ i < offset + (count + 1)) := by omega
      rw [if_neg hi]
      simp only [hsame]

/-- Filling in a span replaces the tags that it covers. -/
theorem fill_span (tags : Array String) (span : Span) :
    fill tags span.tag span.start span.length
      = tags.mapIdx fun i before => if span.covers i then span.tag else before := by
  apply Array.ext_getElem?
  intro i
  have hlength : span.start + span.length = span.stop := by
    have := span.start_le_stop
    unfold Span.length
    omega
  rw [getElem?_fill, Array.getElem?_mapIdx, hlength]
  simp only [Span.covers_iff]

/-- Filling in a tag from the start on replaces the tags before its end. -/
theorem fill_front (tags : Array String) (tag : String) (count : Nat) :
    fill tags tag 0 count = tags.mapIdx fun i before => if i < count then tag else before := by
  apply Array.ext_getElem?
  intro i
  rw [getElem?_fill, Array.getElem?_mapIdx]
  simp only [Nat.zero_le, true_and, Nat.zero_add]

/-! ## Applying spans -/

variable {buffer : TagBuffer} {spans : List Span}

theorem hasRange_iff {start stop : Int} :
    buffer.hasRange start stop = true ↔ 0 ≤ start ∧ start ≤ stop ∧ stop ≤ buffer.length := by
  rw [hasRange, Bool.and_eq_true, Bool.and_eq_true, decide_eq_true_eq, decide_eq_true_eq,
    decide_eq_true_eq, and_assoc]

/-- The range of a span is one of the buffer if its end is. -/
theorem hasRange_span (span : Span) :
    buffer.hasRange span.start span.stop = true ↔ span.stop ≤ buffer.length := by
  have := span.start_le_stop
  rw [hasRange_iff]
  omega

/-- **Spans that end in the buffer are all applied**, and the last one that
covers an offset decides about its tag. -/
theorem applySpans_eq (h : ∀ span ∈ spans, span.stop ≤ buffer.length) :
    buffer.applySpans spans
      = (⟨buffer.tags.mapIdx fun i before => Span.tagOver before spans i⟩, none) := by
  induction spans generalizing buffer with
  | nil =>
    have htags : (buffer.tags.mapIdx fun i before => Span.tagOver before [] i) = buffer.tags := by
      apply Array.ext_getElem?
      intro i
      rw [Array.getElem?_mapIdx]
      exact Option.map_id_apply
    unfold applySpans
    rw [htags]
  | cons span rest ih =>
    unfold applySpans
    rw [if_pos ((hasRange_span span).mpr (h span List.mem_cons_self)), ih, fill_span,
      Array.mapIdx_mapIdx]
    · rfl
    · intro other hother
      unfold length
      rw [size_fill]
      exact h other (List.mem_cons_of_mem span hother)

/-- **A buffer after highlighting a text**: where the text is, nothing is left
of the tags before. -/
theorem applyHighlighting_eq {text : Text} (htext : text.size ≤ buffer.length)
    (h : ∀ span ∈ spans, span.stop ≤ buffer.length) :
    buffer.applyHighlighting text spans
      = (⟨buffer.tags.mapIdx fun i before =>
          Span.tagOver (if i < text.size then defaultTag else before) spans i⟩, none) := by
  have hrange : buffer.hasRange 0 text.size = true :=
    (hasRange_span ⟨0, text.size, defaultTag, Nat.zero_le _⟩).mpr htext
  unfold applyHighlighting
  rw [if_pos hrange, applySpans_eq, fill_front, Array.mapIdx_mapIdx]
  · rfl
  · intro span hspan
    unfold length
    rw [size_fill]
    exact h span hspan

end TagBuffer

/-! ## Runs -/

/-- The tags of a run, one for each offset. -/
def TagRun.tags (run : TagRun) : List String :=
  List.replicate (run.stop - run.start) run.tag

/-- **Runs tile the offsets** from one on up to `size`: none is empty, and each
starts where the one before it stops. -/
inductive TagRun.Tiles (size : Nat) : Nat → List TagRun → Prop where
  | nil : TagRun.Tiles size size []
  | cons {run : TagRun} {rest : List TagRun} (nonempty : run.start < run.stop)
      (later : TagRun.Tiles size run.stop rest) : TagRun.Tiles size run.start (run :: rest)

namespace TagBuffer

/-- The runs of some tags tile the offsets from the start of the run that is
being read, and give the tags again. -/
theorem runsFrom_tiles (start : Nat) (tag : String) (offset : Nat) (rest : List String)
    (h : start < offset) :
    TagRun.Tiles (offset + rest.length) start (runsFrom start tag offset rest) ∧
      (runsFrom start tag offset rest).flatMap TagRun.tags
        = List.replicate (offset - start) tag ++ rest := by
  induction rest generalizing start tag offset with
  | nil =>
    unfold runsFrom
    refine ⟨@TagRun.Tiles.cons offset ⟨start, offset, tag⟩ [] h .nil, ?_⟩
    rw [List.flatMap_cons, List.flatMap_nil]
    rfl
  | cons next rest ih =>
    have hlength : offset + (next :: rest).length = offset + 1 + rest.length := by
      rw [List.length_cons]
      omega
    unfold runsFrom
    rw [hlength]
    split
    · rename_i hsame
      obtain ⟨htiles, htags⟩ := ih start tag (offset + 1) (by omega)
      refine ⟨htiles, ?_⟩
      have hcount : offset + 1 - start = offset - start + 1 := by omega
      rw [htags, beq_iff_eq.mp hsame, hcount, List.replicate_succ', List.append_assoc]
      rfl
    · obtain ⟨htiles, htags⟩ := ih offset next (offset + 1) (by omega)
      refine ⟨@TagRun.Tiles.cons _ ⟨start, offset, tag⟩ _ h htiles, ?_⟩
      have hcount : offset + 1 - offset = 1 := by omega
      rw [List.flatMap_cons, htags, hcount]
      rfl

/-- **The runs of a buffer tile its offsets.** -/
theorem tiles_runs (buffer : TagBuffer) : TagRun.Tiles buffer.length 0 buffer.runs := by
  unfold runs length
  rw [← Array.length_toList]
  cases buffer.tags.toList with
  | nil => exact .nil
  | cons tag rest =>
    have htiles := (runsFrom_tiles 0 tag 1 rest Nat.one_pos).1
    rw [Nat.add_comm] at htiles
    exact htiles

/-- **The runs of a buffer give its tags**, each over its range. -/
theorem flatMap_runs (buffer : TagBuffer) :
    buffer.runs.flatMap TagRun.tags = buffer.tags.toList := by
  unfold runs
  cases buffer.tags.toList with
  | nil => rfl
  | cons tag rest =>
    dsimp only
    rw [(runsFrom_tiles 0 tag 1 rest Nat.one_pos).2]
    rfl

end TagBuffer

end SourceLens
