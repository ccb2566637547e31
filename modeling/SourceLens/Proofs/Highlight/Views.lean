import Mathlib
import SourceLens.Api.Service
import SourceLens.Highlight.Ansi
import SourceLens.Proofs.Highlight.Segment
import SourceLens.Proofs.Language.Categories
import SourceLens.Proofs.Language.Registry

/-!
# One colouring in every view

A highlighted text is seen in four ways: as spans, as the tags of a buffer, as
the runs of the buffer, and as the segments that are written out as HTML or for
a terminal. Each is made by a walk of its own, and all of them show the same
tag at each character (`ShownAlike`), since the spans of a text are in order
and the buffer keeps nothing of what it held before
(`TagBuffer.toList_applyHighlighting`).

Highlighting fails only where a match of the joined pattern belongs to no
category (`Registry.highlight_eq`). The languages that are made of categories
have no such match, so highlighting in them gives these views for every text,
and the service answers with them (`Registry.highlight_shownAlike`). A language
that is made of nothing can fail (`Registry.not_forall_highlight_eq_ok`).
-/

namespace SourceLens

/-- **All views of a text show the same tags.** -/
structure ShownAlike (text : Text) (spans : List Span) (buffer : TagBuffer) : Prop where
  length : buffer.length = text.size
  /-- An offset is covered by one span at most. -/
  single : ∀ a ∈ spans, ∀ b ∈ spans, ∀ offset,
    a.covers offset = true → b.covers offset = true → a = b
  /-- An offset that is covered has the tag of its span. -/
  covered : ∀ span ∈ spans, ∀ offset, span.covers offset = true →
    buffer.tags[offset]? = some span.tag
  /-- All others have the default tag. -/
  uncovered : ∀ offset < text.size, (∀ span ∈ spans, span.covers offset = false) →
    buffer.tags[offset]? = some defaultTag
  /-- The runs have neither gaps nor overlaps. -/
  tiles : TagRun.Tiles text.size 0 buffer.runs
  runs : buffer.runs.flatMap TagRun.tags = buffer.tags.toList
  /-- Both renderers write out the same segments, which are the text with the
  tags of the buffer. -/
  segments : ∃ segments : List Segment,
    (∀ classPrefix, Html.render text spans classPrefix
      = String.ofList (segments.flatMap (Html.segment classPrefix))) ∧
    (∀ palette, Ansi.render text spans palette
      = (Ansi.segments (if palette.isEmpty then Ansi.darkPalette else palette) segments).map
        String.ofList) ∧
    segments.flatMap (·.chars.toList) = text.toList ∧
    segments.flatMap Segment.tags = buffer.tags.toList

namespace TagBuffer

variable {buffer : TagBuffer} {text : Text} {spans : List Span}

theorem length_blank (length : Nat) : (blank length).length = length :=
  Array.size_replicate

/-- **A buffer of the length of a text holds the tags of its spans**, whatever
it held before. -/
theorem toList_applyHighlighting (hlength : buffer.length = text.size)
    (h : Span.InOrder text.size 0 spans) :
    ∃ shown, buffer.applyHighlighting text spans = (shown, none) ∧
      shown.tags.toList = (List.range text.size).map (Span.tagOver defaultTag spans) := by
  refine ⟨_, applyHighlighting_eq (Nat.le_of_eq hlength.symm) fun span hspan => ?_, ?_⟩
  · rw [hlength]
    exact (h.of_mem hspan).2.2
  · have hsize : buffer.tags.size = text.size := hlength
    apply List.ext_getElem?
    intro i
    rw [Array.getElem?_toList, Array.getElem?_mapIdx, List.getElem?_map]
    by_cases hi : i < text.size
    · rw [Array.getElem?_eq_getElem (hsize ▸ hi), List.getElem?_range hi, Option.map_some,
        Option.map_some, if_pos hi]
    · have hrange : (List.range text.size).length ≤ i := by
        rw [List.length_range]
        omega
      rw [Array.getElem?_eq_none (by omega), List.getElem?_eq_none hrange]
      rfl

/-- A buffer that holds the tags of the spans of a text shows what all other
views show. -/
theorem shownAlike {shown : TagBuffer} (h : Span.InOrder text.size 0 spans)
    (htags : shown.tags.toList = (List.range text.size).map (Span.tagOver defaultTag spans)) :
    ShownAlike text spans shown := by
  have hlength : shown.length = text.size := by
    rw [length, ← Array.length_toList, htags, List.length_map, List.length_range]
  have hat (offset : Nat) (hlt : offset < text.size) :
      shown.tags[offset]? = some (Span.tagOver defaultTag spans offset) := by
    rw [← Array.getElem?_toList, htags, List.getElem?_map, List.getElem?_range hlt,
      Option.map_some]
  refine ⟨hlength, fun a ha b hb offset => h.eq_of_covers ha hb, ?_, ?_,
    hlength ▸ tiles_runs shown, flatMap_runs shown, Segment.cut text spans, fun _ => rfl,
    fun _ => rfl, Segment.flatMap_chars_cut_iff.mpr h.follow, htags ▸ Segment.flatMap_tags_cut h⟩
  · intro span hspan offset hcover
    have hstop := (h.of_mem hspan).2.2
    have hlt := (Span.covers_iff.mp hcover).2
    rw [hat offset (by omega), h.tagOver_of_covers hspan hcover]
  · intro offset hlt hcovers
    rw [hat offset hlt, Span.tagOver_of_covers_eq_false hcovers]

end TagBuffer

namespace Registry

variable {registry : Registry} {language : Option String} {text : Text} {buffer : TagBuffer}

/-- A text is highlighted in a language of the registry. -/
theorem ruleFor_mem (registry : Registry) (language : Option String) :
    (registry.ruleFor language).1 ∈ registry.rules := by
  unfold ruleFor
  cases hrule : registry.get? language with
  | none => exact default_mem registry
  | some rule => exact mem_of_get?_eq_some hrule

/-- **Highlighting gives the spans of the language** if there are any, in a
buffer that shows them; else it fails for the reason that there are none, and
leaves the buffer. -/
theorem highlight_eq (hlength : buffer.length = text.size) :
    match (registry.ruleFor language).1.spans text with
    | .ok spans => (registry.highlight buffer text language).spans = .ok spans ∧
        ShownAlike text spans (registry.highlight buffer text language).buffer
    | .error cause =>
      (registry.highlight buffer text language).spans = .error (.unknownCategory cause) ∧
        (registry.highlight buffer text language).buffer = buffer := by
  unfold highlight
  dsimp only
  cases hspans : (registry.ruleFor language).1.spans text with
  | error cause => exact ⟨rfl, rfl⟩
  | ok spans =>
    have horder := Rule.inOrder_of_spans hspans
    obtain ⟨shown, hshown, htags⟩ := TagBuffer.toList_applyHighlighting hlength horder
    dsimp only
    rw [hshown]
    exact ⟨rfl, TagBuffer.shownAlike horder htags⟩

/-- **Highlighting succeeds in languages that are made of categories.** -/
theorem MadeOfCategories.highlight_eq_ok (h : registry.MadeOfCategories)
    (language : Option String) (hlength : buffer.length = text.size) :
    ∃ spans, (registry.highlight buffer text language).spans = .ok spans ∧
      ShownAlike text spans (registry.highlight buffer text language).buffer := by
  obtain ⟨categories, hmade⟩ := h _ (ruleFor_mem registry language)
  have hspans : (registry.ruleFor language).1.spans text
      = .ok ((Category.scan categories text).map (·.span)) := by
    rw [Rule.spans, hmade.dividesBy.tokenize_eq text]
    rfl
  have hviews := @highlight_eq registry language text buffer hlength
  rw [hspans] at hviews
  exact ⟨_, hviews⟩

/-- **Every view shows the same colouring.** In every registry, for every
language asked for, every text, and a buffer of its length with any tags,
highlighting gives spans that all views show alike if and only if no match of
the tokens of the text is without a category. If there is one, highlighting
fails and the buffer stays as it was. There is none if the languages of the
registry are made of categories, as the built-in ones are: so the service
always answers with spans, runs and HTML of one colouring of the text. -/
theorem highlight_shownAlike (registry : Registry) (language : Option String) (text : Text)
    (buffer : TagBuffer) (hlength : buffer.length = text.size) :
    ((∃ spans, (registry.highlight buffer text language).spans = .ok spans ∧
        ShownAlike text spans (registry.highlight buffer text language).buffer) ↔
      ∀ cause, (registry.ruleFor language).1.tokenize text ≠ .error cause) ∧
    (∀ cause, (registry.ruleFor language).1.tokenize text = .error cause →
      (registry.highlight buffer text language).spans = .error (.unknownCategory cause) ∧
        (registry.highlight buffer text language).buffer = buffer) ∧
    (registry.MadeOfCategories →
      ∃ spans, (registry.highlight buffer text language).spans = .ok spans ∧
        ShownAlike text spans (registry.highlight buffer text language).buffer) ∧
    ∀ (environment : Environment) (request : Api.HighlightRequest),
      ∃ rule ∈ builtin.rules, ∃ spans shown,
        Api.highlight environment request = .ok (.ok [
          ("language", .str rule.key),
          ("spans", .arr (spans.map fun s => Api.stretch s.start s.stop s.tag)),
          ("runs", .arr (shown.runs.map fun r => Api.stretch r.start r.stop r.tag)),
          ("html", .str (Html.render (.ofString request.text) spans Html.defaultClassPrefix))]) ∧
        ShownAlike (.ofString request.text) spans shown := by
  have hviews := @highlight_eq registry language text buffer hlength
  unfold Rule.spans at hviews
  refine ⟨?_, ?_, fun h => h.highlight_eq_ok language hlength, fun environment request => ?_⟩
  · cases htokens : (registry.ruleFor language).1.tokenize text with
    | ok tokens =>
      rw [htokens] at hviews
      exact ⟨fun _ cause heq => (nomatch heq), fun _ => ⟨_, hviews⟩⟩
    | error cause =>
      rw [htokens] at hviews
      refine ⟨?_, fun hnone => absurd rfl (hnone cause)⟩
      rintro ⟨spans, hspans, -⟩
      cases hviews.1.symm.trans hspans
  · intro cause htokens
    rw [htokens] at hviews
    exact hviews
  · -- the service starts from a blank buffer of the length of the text
    let language := (Api.named request.language).getD environment.settings.1.defaultLanguage
    obtain ⟨spans, hspans, halike⟩ := madeOfCategories_builtin.highlight_eq_ok
      (some (builtin.resolve (some language)).key)
      (TagBuffer.length_blank (Text.ofString request.text).size)
    refine ⟨builtin.resolve (some language), resolve_mem builtin _, spans, _, ?_, halike⟩
    unfold Api.highlight highlightText
    dsimp only
    rw [hspans]

/-- A defined language, an unknown name for it, and a buffer with other tags. -/
theorem highlight_single_shownAlike :
    ∃ rule, (RuleDefinition.single "a(?=b)|c*" 2).compile = .ok rule ∧
      ∃ registry, ofRules [rule] = .ok registry ∧
        ∃ spans, (registry.highlight ⟨#["old", "old"]⟩ #['A', 'b'] (some "?")).spans = .ok spans ∧
          ShownAlike #['A', 'b'] spans
            (registry.highlight ⟨#["old", "old"]⟩ #['A', 'b'] (some "?")).buffer := by
  have hcompiled : (RuleDefinition.single "a(?=b)|c*" 2).compile.map (fun _ => ()) = .ok () := by
    cbv
  obtain ⟨rule, hrule, -⟩ := map_eq_ok.mp hcompiled
  have hmade : (ofNonempty [rule] (List.cons_ne_nil rule [])).MadeOfCategories := by
    intro other hother
    obtain ⟨categories, hmade, -⟩ := RuleDefinition.exists_madeOf hrule (by decide)
    rw [List.mem_singleton.mp hother]
    exact ⟨categories, hmade⟩
  obtain ⟨-, -, hviews, -⟩ :=
    highlight_shownAlike (ofNonempty [rule] (List.cons_ne_nil rule [])) (some "?")
      #['A', 'b'] ⟨#["old", "old"]⟩ rfl
  exact ⟨rule, hrule, _, rfl, hviews hmade⟩

/-- **Highlighting can fail in a registry of defined languages**: without its
option the spaced pattern `a#?)(` closes the group of its category and opens
one without a name, so that its matches belong to no category. -/
theorem not_forall_highlight_eq_ok :
    ¬ ∀ (definitions : List RuleDefinition) (rules : List Rule) (registry : Registry)
      (language : Option String) (text : Text) (buffer : TagBuffer),
      definitions.mapM (·.compile) = .ok rules → ofRules rules = .ok registry →
      buffer.length = text.size →
      ∃ spans, (registry.highlight buffer text language).spans = .ok spans := by
  intro h
  have hfails : (RuleDefinition.single "a#?)(" 64).compile.map (fun rule => rule.tokenize #['a'])
      = .ok (.error ⟨none⟩) := by cbv
  obtain ⟨rule, hrule, htokens⟩ := map_eq_ok.mp hfails
  have hrules : [RuleDefinition.single "a#?)(" 64].mapM (·.compile) = .ok [rule] := by
    rw [List.mapM_cons, hrule]
    rfl
  obtain ⟨spans, hspans⟩ := h _ _ _ none #['a'] (.blank 1) hrules rfl rfl
  have hviews :=
    @highlight_eq (ofNonempty [rule] (List.cons_ne_nil rule [])) none #['a'] (.blank 1) rfl
  have herror : rule.spans #['a'] = .error ⟨none⟩ := by
    rw [Rule.spans, htokens]
    rfl
  have hrulefor : ((ofNonempty [rule] (List.cons_ne_nil rule [])).ruleFor none).1 = rule := rfl
  rw [hrulefor, herror] at hviews
  cases hviews.1.symm.trans hspans

end Registry

end SourceLens
