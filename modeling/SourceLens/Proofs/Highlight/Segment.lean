import SourceLens.Highlight.Segment
import SourceLens.Proofs.Highlight.Buffer
import SourceLens.Proofs.Text.Slices

/-!
# What segments add up to

A text is cut with a cursor: up to each span, over it, and on to the end.
Spans in order make the cursor meet every character once, so the segments
are the text again (`Segment.flatMap_chars_cut_iff`), and the tags of their
characters are those that the spans give to the offsets of the text
(`Segment.flatMap_tags_cut`).
-/

namespace SourceLens

/-- The tag of each character of a segment. -/
def Segment.tags (segment : Segment) : List String :=
  List.replicate segment.chars.size segment.tag

namespace Segment

variable {text : Text} {offset : Nat} {spans : List Span}

/-- The segment between two spans, if there is anything between them. -/
def gap (text : Text) (start stop : Nat) : List Segment :=
  if start < stop then [⟨text.slice start stop, defaultTag⟩] else []

theorem cutFrom_nil : cutFrom text offset [] = gap text offset text.size := rfl

/-- A span is cut out behind the gap before it. -/
theorem cutFrom_cons (span : Span) : cutFrom text offset (span :: spans)
    = gap text offset span.start
      ++ ⟨text.slice span.start span.stop, span.tag⟩ :: cutFrom text span.stop spans := by
  rw [cutFrom, gap]
  split
  · rfl
  · rfl

/-- A gap and what comes after it. -/
theorem flatMap_chars_gap {start stop : Nat} (h : start ≤ stop) :
    (gap text start stop).flatMap (·.chars.toList) ++ text.toList.drop stop
      = text.toList.drop start := by
  unfold gap
  split
  · rw [List.flatMap_singleton]
    exact Text.slice_append_drop h
  · rename_i hempty
    rw [Nat.le_antisymm h (Nat.le_of_not_lt hempty)]
    rfl

theorem length_chars_gap {start stop : Nat} :
    ((gap text start stop).flatMap (·.chars.toList)).length = min stop text.size - start := by
  unfold gap
  split
  · rw [List.flatMap_singleton, Text.length_slice]
  · rw [List.flatMap_nil, List.length_nil]
    omega

/-- The characters of a gap have the default tag. -/
theorem flatMap_tags_gap {start stop : Nat} (h : stop ≤ text.size) :
    (gap text start stop).flatMap Segment.tags = List.replicate (stop - start) defaultTag := by
  unfold gap
  split
  · rw [List.flatMap_singleton, tags, Text.size_slice h]
  · rename_i hempty
    rw [Nat.sub_eq_zero_of_le (Nat.le_of_not_lt hempty)]
    rfl

/-! ## The characters -/

/-- The gap before a span, the span and what comes after it, if the span does
not start before the offset. -/
theorem chars_gap_append {span : Span} (h : min offset text.size ≤ span.start) :
    (gap text offset span.start).flatMap (·.chars.toList)
        ++ ((text.slice span.start span.stop).toList ++ text.toList.drop span.stop)
      = text.toList.drop offset := by
  rw [Text.slice_append_drop span.start_le_stop]
  obtain hlt | hle := Nat.lt_or_ge span.start offset
  · have hsize : text.toList.length ≤ span.start := by
      rw [Array.length_toList]
      omega
    rw [gap, if_neg (by omega), List.drop_of_length_le hsize,
      List.drop_of_length_le (by omega)]
    rfl
  · exact flatMap_chars_gap hle

/-- What is cut out from an offset on has at least the characters that are left
of the text. -/
theorem le_length_chars_cutFrom (text : Text) (offset : Nat) (spans : List Span) :
    text.size - offset ≤ ((cutFrom text offset spans).flatMap (·.chars.toList)).length := by
  induction spans generalizing offset with
  | nil =>
    rw [cutFrom_nil, length_chars_gap]
    omega
  | cons span rest ih =>
    have hrest := ih span.stop
    rw [cutFrom_cons, List.flatMap_append, List.flatMap_cons, List.length_append,
      List.length_append, length_chars_gap, Text.length_slice]
    omega

/-- **The segments from an offset on are the text from there on** if and only
if the spans follow one another from there. Where a span starts before the end
of the one ahead of it, what they share is cut out twice, and nothing later
can make up for it. -/
theorem flatMap_chars_cutFrom_iff : (cutFrom text offset spans).flatMap (·.chars.toList)
      = text.toList.drop offset ↔ Span.Follow text.size offset spans := by
  induction spans generalizing offset with
  | nil =>
    refine iff_of_true ?_ trivial
    have hend : text.toList.drop text.size = [] := List.drop_length
    obtain hle | hlt := Nat.le_total offset text.size
    · rw [cutFrom_nil, ← flatMap_chars_gap hle, hend, List.append_nil]
    · rw [cutFrom_nil, gap, if_neg (by omega), List.drop_of_length_le hlt]
      rfl
  | cons span rest ih =>
    rw [cutFrom_cons, List.flatMap_append, List.flatMap_cons]
    constructor
    · intro h
      have hordered := span.start_le_stop
      have hrest := le_length_chars_cutFrom text span.stop rest
      have hsize : text.toList.length = text.size := Array.length_toList
      have hlength := congrArg List.length h
      rw [List.length_append, List.length_append, length_chars_gap, Text.length_slice,
        List.length_drop] at hlength
      have hstart : min offset text.size ≤ span.start := by omega
      rw [← chars_gap_append hstart] at h
      exact ⟨hstart, ih.mp (List.append_cancel_left (List.append_cancel_left h))⟩
    · rintro ⟨hstart, hlater⟩
      rw [ih.mpr hlater, chars_gap_append hstart]

/-- **The segments of a text are the text** if and only if its spans follow one
another. -/
theorem flatMap_chars_cut_iff : (cut text spans).flatMap (·.chars.toList) = text.toList ↔
    Span.Follow text.size 0 spans :=
  flatMap_chars_cutFrom_iff

/-! ## The tags -/

/-- A function that is constant on the first offsets of a range. -/
theorem map_range'_of_constant {f : Nat → String} {tag : String} {a b c : Nat} (hab : a ≤ b)
    (hbc : b ≤ c) (h : ∀ i, a ≤ i → i < b → f i = tag) :
    (List.range' a (c - a)).map f
      = List.replicate (b - a) tag ++ (List.range' b (c - b)).map f := by
  have hfirst : (List.range' a (b - a)).map f = List.replicate (b - a) tag := by
    have hconstant : (List.range' a (b - a)).map f
        = List.replicate (List.range' a (b - a)).length tag := by
      rw [List.map_eq_replicate_iff]
      intro i hi
      obtain ⟨hle, hlt⟩ := List.mem_range'_1.mp hi
      exact h i hle (by omega)
    rw [hconstant, List.length_range']
  have hsplit : List.range' a (c - a) = List.range' a (b - a) ++ List.range' b (c - b) := by
    have hb : b = a + (b - a) := by omega
    have hc : c - a = (b - a) + (c - b) := by omega
    rw [hc, ← List.range'_append_1, ← hb]
  rw [hsplit, List.map_append, hfirst]

/-- The tags that the first of some spans in order gives: none before its
start, its own up to its end, and those of the others behind. -/
theorem map_tagOver_cons {size : Nat} {span : Span} {rest : List Span}
    (h : Span.InOrder size offset (span :: rest)) :
    (List.range' offset (size - offset)).map (Span.tagOver defaultTag (span :: rest))
      = List.replicate (span.start - offset) defaultTag
        ++ (List.replicate (span.stop - span.start) span.tag
          ++ (List.range' span.stop (size - span.stop)).map (Span.tagOver defaultTag rest)) := by
  cases h with
  | cons behind nonempty inText later =>
    have hfromStart : Span.InOrder size span.start (span :: rest) :=
      .cons (Nat.le_refl _) nonempty inText later
    -- before the span, over it, and behind it, where it counts no more
    have hbefore : ∀ i, offset ≤ i → i < span.start →
        Span.tagOver defaultTag (span :: rest) i = defaultTag := fun i _ hlt =>
      Span.tagOver_of_covers_eq_false (hfromStart.covers_eq_false hlt)
    have hover : ∀ i, span.start ≤ i → i < span.stop →
        Span.tagOver defaultTag (span :: rest) i = span.tag := fun i hle hlt =>
      hfromStart.tagOver_of_covers List.mem_cons_self (Span.covers_iff.mpr ⟨hle, hlt⟩)
    have hbehind : ∀ i ∈ List.range' span.stop (size - span.stop),
        Span.tagOver defaultTag (span :: rest) i = Span.tagOver defaultTag rest i := by
      intro i hi
      have hpast : span.covers i = false :=
        Span.covers_eq_false_iff.mpr (Or.inr (List.mem_range'_1.mp hi).1)
      rw [Span.tagOver_cons, hpast]
      rfl
    rw [map_range'_of_constant behind (by omega) hbefore,
      map_range'_of_constant (Nat.le_of_lt nonempty) inText hover, List.map_congr_left hbehind]

/-- **The characters of the segments from an offset on have the tags that the
spans give them.** -/
theorem flatMap_tags_cutFrom (h : Span.InOrder text.size offset spans) (hle : offset ≤ text.size) :
    (cutFrom text offset spans).flatMap Segment.tags
      = (List.range' offset (text.size - offset)).map (Span.tagOver defaultTag spans) := by
  induction h with
  | nil offset =>
    have hdefault : ∀ i, offset ≤ i → i < text.size →
        Span.tagOver defaultTag [] i = defaultTag := fun _ _ _ => rfl
    rw [cutFrom_nil, flatMap_tags_gap (Nat.le_refl _),
      map_range'_of_constant hle (Nat.le_refl _) hdefault, Nat.sub_self]
    exact (List.append_nil _).symm
  | @cons offset span rest behind nonempty inText later ih =>
    have hstretch : Segment.tags ⟨text.slice span.start span.stop, span.tag⟩
        = List.replicate (span.stop - span.start) span.tag := by
      rw [tags, Text.size_slice inText]
    rw [cutFrom_cons, List.flatMap_append, List.flatMap_cons, hstretch, ih inText,
      flatMap_tags_gap (by omega), map_tagOver_cons (.cons behind nonempty inText later)]

/-- **The characters of the segments have the tags of their offsets.** -/
theorem flatMap_tags_cut (h : Span.InOrder text.size 0 spans) :
    (cut text spans).flatMap Segment.tags
      = (List.range text.size).map (Span.tagOver defaultTag spans) := by
  rw [List.range_eq_range']
  exact flatMap_tags_cutFrom h (Nat.zero_le _)

end Segment

end SourceLens
