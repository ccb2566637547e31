import Mathlib
import SourceLens.Highlight.Html
import SourceLens.Proofs.Highlight.Segment
import SourceLens.Proofs.Language.Tokens

/-!
# Reading highlighted HTML back

The reader of this module undoes `Html.render` in two passes. The first one
takes the wrappers out (`Html.unwrap?`): it goes on only if every angle bracket
belongs to the start or the end of a wrapper, if no wrapper starts in another,
and if every wrapper ends. The second one decodes the entities
(`Html.decode?`): it goes on only if every ampersand starts one of the three.

Whatever the spans are, the output passes both and gives the characters of its
segments (`Html.read?_render`), since escaping leaves no character that the
reader could take for markup. So the output gives back the text exactly where
the segments do: if and only if the spans follow one another
(`Html.read?_render_eq_text_iff`). The spans of a language always do.
-/

namespace SourceLens.Html

/-- The characters that markup is made of. -/
def markupChars : List Char :=
  ['<', '>', '"', '&']

/-- **A string without markup**, which may stand in the class of a wrapper. -/
def Plain (s : String) : Prop :=
  ∀ c ∈ s.toList, c ∉ markupChars

instance (s : String) : Decidable (Plain s) :=
  List.decidableBAll (fun c => c ∉ markupChars) s.toList

/-! ## The reader -/

/-- What stands behind the start of a wrapper with one of some tags, or behind
the end of a wrapper if one is open. The first character has been read. -/
def afterMark? (classPrefix : String) (tags : List String) (inside : Bool) (rest : List Char) :
    Option (List Char) :=
  if inside then closing.tail.isPrefixOf? rest
  else tags.findSome? fun tag => (opening classPrefix tag).tail.isPrefixOf? rest

theorem length_afterMark? {classPrefix : String} {tags : List String} {inside : Bool}
    {rest after : List Char} (h : afterMark? classPrefix tags inside rest = some after) :
    after.length ≤ rest.length := by
  have hshorter : ∀ mark : List Char, mark.isPrefixOf? rest = some after →
      after.length ≤ rest.length := by
    intro mark hmark
    rw [← List.append_eq_of_isPrefixOf?_eq_some hmark, List.length_append]
    exact Nat.le_add_left _ _
  unfold afterMark? at h
  split at h
  · exact hshorter _ h
  · obtain ⟨tag, -, hmark⟩ := List.exists_of_findSome?_eq_some h
    exact hshorter _ hmark

/-- The characters outside of the marks of wrappers, from a place where a
wrapper is open or not. -/
def unwrapFrom? (classPrefix : String) (tags : List String) (inside : Bool) :
    List Char → Option (List Char)
  | [] => if inside then none else some []
  | c :: rest =>
    if c = '<' then
      match _h : afterMark? classPrefix tags inside rest with
      | some after => unwrapFrom? classPrefix tags (!inside) after
      | none => none
    else if c = '>' then none
    else (unwrapFrom? classPrefix tags inside rest).map (c :: ·)
termination_by cs => cs.length
decreasing_by
  · exact Nat.lt_succ_of_le (length_afterMark? _h)
  · exact Nat.lt_succ_self _

/-- **The output without its wrappers**: none unless every angle bracket
belongs to a wrapper with one of the tags, no wrapper is in another one, and
each is closed. -/
def unwrap? (classPrefix : String) (tags : List String) (output : List Char) :
    Option (List Char) :=
  unwrapFrom? classPrefix tags false output

/-- **The characters that entities stand for**, in one pass: none unless every
ampersand starts one of the three. -/
def decode? : List Char → Option (List Char)
  | [] => some []
  | '&' :: 'a' :: 'm' :: 'p' :: ';' :: rest => (decode? rest).map ('&' :: ·)
  | '&' :: 'l' :: 't' :: ';' :: rest => (decode? rest).map ('<' :: ·)
  | '&' :: 'g' :: 't' :: ';' :: rest => (decode? rest).map ('>' :: ·)
  | c :: rest => if c = '&' then none else (decode? rest).map (c :: ·)

/-- **Reads highlighted HTML**: the text that it shows. -/
def read? (classPrefix : String) (tags : List String) (output : String) : Option (List Char) :=
  (unwrap? classPrefix tags output.toList).bind decode?

/-! ## Escaped characters -/

/-- A character that is no ampersand stands for itself. -/
theorem decode?_cons {c : Char} (h : c ≠ '&') (rest : List Char) :
    decode? (c :: rest) = (decode? rest).map (c :: ·) := by
  rw [decode?, if_neg h]
  all_goals exact fun _ heq => absurd heq h

/-- A character that is escaped is decoded. -/
theorem decode?_escapeChar (c : Char) (rest : List Char) :
    decode? (escapeChar c ++ rest) = (decode? rest).map (c :: ·) := by
  unfold escapeChar
  split
  · rename_i h
    rw [beq_iff_eq.mp h]
    rfl
  · rename_i hamp
    split
    · rename_i h
      rw [beq_iff_eq.mp h]
      rfl
    · split
      · rename_i h
        rw [beq_iff_eq.mp h]
        rfl
      · exact decode?_cons (fun heq => hamp (beq_iff_eq.mpr heq)) rest

/-- **Decoding undoes escaping.** -/
theorem decode?_escape (cs : List Char) : decode? (escape cs) = some cs := by
  induction cs with
  | nil => rfl
  | cons c cs ih =>
    rw [escape, List.flatMap_cons, decode?_escapeChar, ← escape, ih]
    rfl

theorem escape_append (cs ds : List Char) : escape (cs ++ ds) = escape cs ++ escape ds :=
  List.flatMap_append

/-- No angle bracket is left where characters are escaped. -/
theorem not_bracket_of_mem_escape {cs : List Char} {c : Char} (h : c ∈ escape cs) :
    c ≠ '<' ∧ c ≠ '>' := by
  have hentity : ∀ entity ∈ ["&amp;".toList, "&lt;".toList, "&gt;".toList], ∀ c ∈ entity,
      c ≠ '<' ∧ c ≠ '>' := by simp
  obtain ⟨d, -, hc⟩ := List.mem_flatMap.mp h
  unfold escapeChar at hc
  split at hc
  · exact hentity _ (by simp) c hc
  · split at hc
    · exact hentity _ (by simp) c hc
    · split at hc
      · exact hentity _ (by simp) c hc
      · rename_i hlt hgt
        rw [List.mem_singleton.mp hc]
        exact ⟨fun heq => hlt (beq_iff_eq.mpr heq), fun heq => hgt (beq_iff_eq.mpr heq)⟩

/-- Characters without an ampersand stand for themselves. -/
theorem decode?_append {cs : List Char} (h : '&' ∉ cs) (rest : List Char) :
    decode? (cs ++ rest) = (decode? rest).map (cs ++ ·) := by
  induction cs with
  | nil => cases hrest : decode? rest <;> simp [hrest]
  | cons c cs ih =>
    rw [List.mem_cons, not_or] at h
    rw [List.cons_append, decode?_cons (Ne.symm h.1), ih h.2, Option.map_map]
    rfl

/-! ## Taking the wrappers out -/

variable {classPrefix : String} {tags : List String} {inside : Bool}

/-- Characters that are no angle brackets are kept. -/
theorem unwrapFrom?_append {cs : List Char} (h : ∀ c ∈ cs, c ≠ '<' ∧ c ≠ '>')
    (rest : List Char) : unwrapFrom? classPrefix tags inside (cs ++ rest)
      = (unwrapFrom? classPrefix tags inside rest).map (cs ++ ·) := by
  induction cs with
  | nil => cases hrest : unwrapFrom? classPrefix tags inside rest <;> simp [hrest]
  | cons c cs ih =>
    obtain ⟨hlt, hgt⟩ := h c List.mem_cons_self
    rw [List.cons_append, unwrapFrom?, if_neg hlt, if_neg hgt,
      ih fun d hd => h d (List.mem_cons_of_mem c hd), Option.map_map]
    rfl

/-- A mark is taken out, and opens or closes a wrapper. -/
theorem unwrapFrom?_of_afterMark? {rest after : List Char}
    (h : afterMark? classPrefix tags inside rest = some after) :
    unwrapFrom? classPrefix tags inside ('<' :: rest)
      = unwrapFrom? classPrefix tags (!inside) after := by
  rw [unwrapFrom?, if_pos rfl]
  split
  · rename_i found hfound
    rw [h] at hfound
    cases hfound
    rfl
  · rename_i hnone
    rw [h] at hnone
    cases hnone

/-- The end of a wrapper is taken out. -/
theorem unwrapFrom?_closing (rest : List Char) :
    unwrapFrom? classPrefix tags true (closing ++ rest)
      = unwrapFrom? classPrefix tags false rest := by
  have hmark : afterMark? classPrefix tags true (closing.tail ++ rest) = some rest := by
    rw [afterMark?, if_pos rfl, List.isPrefixOf?_eq_some_iff_append_eq]
  exact unwrapFrom?_of_afterMark? hmark

/-- Two lists that go on with a character that neither has are equal if they
start one list. -/
theorem eq_of_append_cons_eq {c : Char} {as bs as' bs' : List Char} (ha : c ∉ as) (hb : c ∉ bs)
    (h : as ++ c :: as' = bs ++ c :: bs') : as' = bs' := by
  induction as generalizing bs with
  | nil =>
    cases bs with
    | nil => exact (List.cons.inj h).2
    | cons b bs => exact absurd ((List.cons.inj h).1 ▸ List.mem_cons_self) hb
  | cons a as ih =>
    cases bs with
    | nil => exact absurd ((List.cons.inj h).1 ▸ List.mem_cons_self) ha
    | cons b bs =>
      exact ih (fun hmem => ha (List.mem_cons_of_mem a hmem))
        (fun hmem => hb (List.mem_cons_of_mem b hmem)) (List.cons.inj h).2

/-- The quote that ends a class is no part of it. -/
theorem Plain.quote_not_mem {s : String} (h : Plain s) : '"' ∉ s.toList :=
  fun hmem => h '"' hmem (by decide)

/-- A class has no ampersand. -/
theorem Plain.ampersand_not_mem {s : String} (h : Plain s) : '&' ∉ s.toList :=
  fun hmem => h '&' hmem (by decide)

/-- The start of a wrapper begins with an angle bracket. -/
theorem opening_eq_cons (classPrefix tag : String) : opening classPrefix tag
    = '<' :: ("span class=\"".toList ++ (classPrefix.toList ++ (tag.toList ++ ['"', '>']))) := by
  have hword : "<span class=\"".toList = '<' :: "span class=\"".toList := by simp
  unfold opening
  rw [hword, List.append_assoc, List.append_assoc, List.cons_append]

/-- The start of a wrapper is taken out. Where another tag gives the start of
a wrapper as well, it is the same one, since neither has a quote in it. -/
theorem unwrapFrom?_opening (htags : ∀ tag ∈ tags, Plain tag) {tag : String} (htag : tag ∈ tags)
    (rest : List Char) : unwrapFrom? classPrefix tags false (opening classPrefix tag ++ rest)
      = unwrapFrom? classPrefix tags true rest := by
  have hmark : afterMark? classPrefix tags false ((opening classPrefix tag).tail ++ rest)
      = some rest := by
    rw [afterMark?, if_neg (by decide)]
    cases hfound : tags.findSome? fun other =>
        (opening classPrefix other).tail.isPrefixOf? ((opening classPrefix tag).tail ++ rest) with
    | none =>
      have hself := List.findSome?_eq_none_iff.mp hfound tag htag
      rw [List.isPrefixOf?_eq_some_iff_append_eq.mpr rfl] at hself
      cases hself
    | some after =>
      obtain ⟨other, hother, hclass⟩ := List.exists_of_findSome?_eq_some hfound
      have heq := List.isPrefixOf?_eq_some_iff_append_eq.mp hclass
      rw [opening_eq_cons, opening_eq_cons, List.tail_cons, List.tail_cons, List.append_assoc,
        List.append_assoc, List.append_assoc, List.append_assoc, List.append_assoc,
        List.append_assoc] at heq
      have hquote := List.append_cancel_left (List.append_cancel_left heq)
      have hrest : '>' :: after = '>' :: rest := eq_of_append_cons_eq
        (htags other hother).quote_not_mem (htags tag htag).quote_not_mem hquote
      rw [(List.cons.inj hrest).2]
  rw [opening_eq_cons] at hmark ⊢
  exact unwrapFrom?_of_afterMark? hmark

/-- **A segment is its escaped characters**, with or without a wrapper. -/
theorem unwrapFrom?_segment (htags : ∀ tag ∈ tags, Plain tag) {s : Segment}
    (hs : s.tag = defaultTag ∨ s.tag ∈ tags) (rest : List Char) :
    unwrapFrom? classPrefix tags false (segment classPrefix s ++ rest)
      = (unwrapFrom? classPrefix tags false rest).map (escape s.chars.toList ++ ·) := by
  unfold segment
  dsimp only
  split
  · exact unwrapFrom?_append (fun _ => not_bracket_of_mem_escape) rest
  · rename_i hdefault
    have htag := hs.resolve_left fun heq => hdefault (beq_iff_eq.mpr heq)
    rw [List.append_assoc, List.append_assoc, unwrapFrom?_opening htags htag,
      unwrapFrom?_append (fun _ => not_bracket_of_mem_escape), unwrapFrom?_closing]

/-- **Segments without their wrappers** are their escaped characters. -/
theorem unwrap?_segments (htags : ∀ tag ∈ tags, Plain tag) {segments : List Segment}
    (hsegments : ∀ s ∈ segments, s.tag = defaultTag ∨ s.tag ∈ tags) :
    unwrap? classPrefix tags (segments.flatMap (segment classPrefix))
      = some (escape (segments.flatMap (·.chars.toList))) := by
  unfold unwrap?
  induction segments with
  | nil => rw [List.flatMap_nil, unwrapFrom?, if_neg (by decide)]; rfl
  | cons s segments ih =>
    rw [List.flatMap_cons, unwrapFrom?_segment htags (hsegments s List.mem_cons_self),
      ih fun t ht => hsegments t (List.mem_cons_of_mem s ht), List.flatMap_cons, escape_append]
    rfl

/-! ## The text that is read -/

/-- A segment has the default tag or that of a span. -/
theorem tag_of_mem_cutFrom {text : Text} {offset : Nat} {spans : List Span} {s : Segment}
    (h : s ∈ Segment.cutFrom text offset spans) :
    s.tag = defaultTag ∨ s.tag ∈ spans.map (·.tag) := by
  have hgap : ∀ {start stop : Nat}, s ∈ Segment.gap text start stop → s.tag = defaultTag := by
    intro start stop hs
    unfold Segment.gap at hs
    split at hs
    · rw [List.mem_singleton.mp hs]
    · cases hs
  induction spans generalizing offset with
  | nil => exact Or.inl (hgap h)
  | cons span rest ih =>
    rw [Segment.cutFrom_cons, List.mem_append, List.mem_cons] at h
    rw [List.map_cons, List.mem_cons]
    obtain hs | rfl | hs := h
    · exact Or.inl (hgap hs)
    · exact Or.inr (Or.inl rfl)
    · exact (ih hs).imp_right Or.inr

/-- **Reading gives the characters of the segments**, whatever the spans
are. -/
theorem read?_render (text : Text) {spans : List Span} (classPrefix : String)
    (htags : ∀ span ∈ spans, Plain span.tag) :
    read? classPrefix (spans.map (·.tag)) (render text spans classPrefix)
      = some ((Segment.cut text spans).flatMap (·.chars.toList)) := by
  have hplain : ∀ tag ∈ spans.map (·.tag), Plain tag := by
    intro tag htag
    obtain ⟨span, hspan, rfl⟩ := List.mem_map.mp htag
    exact htags span hspan
  have hcut : ∀ s ∈ Segment.cut text spans, s.tag = defaultTag ∨ s.tag ∈ spans.map (·.tag) :=
    fun s hs => tag_of_mem_cutFrom hs
  rw [read?, render, String.toList_ofList, unwrap?_segments hplain hcut]
  exact decode?_escape _

/-- **Reading gives back the text** if and only if the spans follow one
another. -/
theorem read?_render_eq_text_iff (text : Text) {spans : List Span} (classPrefix : String)
    (htags : ∀ span ∈ spans, Plain span.tag) :
    read? classPrefix (spans.map (·.tag)) (render text spans classPrefix) = some text.toList ↔
      Span.Follow text.size 0 spans := by
  rw [read?_render text classPrefix htags, Option.some_inj, Segment.flatMap_chars_cut_iff]

/-- Every ampersand of segments that are written out starts an entity, those of
the wrappers included. -/
theorem isSome_decode?_segments {segments : List Segment} (hclass : Plain classPrefix)
    (htags : ∀ s ∈ segments, s.tag = defaultTag ∨ Plain s.tag) :
    (decode? (segments.flatMap (segment classPrefix))).isSome = true := by
  have hescaped : ∀ (cs rest : List Char), (decode? rest).isSome = true →
      (decode? (escape cs ++ rest)).isSome = true := by
    intro cs rest hrest
    induction cs with
    | nil => exact hrest
    | cons c cs ih =>
      rw [escape, List.flatMap_cons, List.append_assoc, decode?_escapeChar, Option.isSome_map]
      exact ih
  have hmark : ∀ (mark rest : List Char), '&' ∉ mark → (decode? rest).isSome = true →
      (decode? (mark ++ rest)).isSome = true := by
    intro mark rest hfree hrest
    rw [decode?_append hfree, Option.isSome_map]
    exact hrest
  induction segments with
  | nil => rfl
  | cons s segments ih =>
    have hlater := ih fun t ht => htags t (List.mem_cons_of_mem s ht)
    rw [List.flatMap_cons]
    unfold segment
    dsimp only
    split
    · exact hescaped _ _ hlater
    · rename_i hdefault
      have hplain : Plain s.tag := (htags s List.mem_cons_self).resolve_left
        fun heq => hdefault (beq_iff_eq.mpr heq)
      have hopening : '&' ∉ opening classPrefix s.tag := by
        have hfree := hclass.ampersand_not_mem
        have htag := hplain.ampersand_not_mem
        rw [opening_eq_cons]
        simp [hfree, htag]
      have hclosing : '&' ∉ closing := by
        show '&' ∉ "</span>".toList
        simp
      rw [List.append_assoc, List.append_assoc]
      exact hmark _ _ hopening (hescaped _ _ (hmark _ _ hclosing hlater))

/-! ## Spans that give back the text -/

/-- No character is in both spans. -/
def Disjoint (a b : Span) : Prop :=
  ∀ offset, ¬ (a.covers offset = true ∧ b.covers offset = true)

/-- The tags of the built-in languages are without markup. -/
theorem plain_of_mem_tags_builtin {rule : Rule} (h : rule ∈ Registry.builtin.rules) :
    ∀ tag ∈ rule.tags, Plain tag := by
  obtain rfl | rfl | rfl | rfl | rfl | rfl | rfl | rfl := Registry.mem_rules_builtin.mp h
  all_goals decide

/-- Of two spans in the order of their starts that share no character, the
first ends before the second starts, unless the second is empty. -/
theorem stop_le_start {a b : Span} (hle : a.start ≤ b.start) (h : Disjoint a b)
    (hempty : b.start = b.stop → a.stop ≤ b.start) : a.stop ≤ b.start := by
  by_contra hlt
  have hb := b.start_le_stop
  have hnonempty : b.start ≠ b.stop := fun heq => hlt (hempty heq)
  exact h b.start ⟨Span.covers_iff.mpr ⟨hle, by omega⟩,
    Span.covers_iff.mpr ⟨Nat.le_refl _, by omega⟩⟩

/-- **Highlighted HTML reads back.** Whatever the spans of a text are, if their
tags and the prefix are without markup, then every angle bracket of the output
belongs to a wrapper, no wrapper is in another, each is closed, and every
ampersand starts an entity. Reading gives back the text if and only if the
spans follow one another. Spans in the order of their starts that share no
character do, provided that no empty one starts before the end of one ahead of
it; and so do those of every built-in language. -/
theorem render_reads_back (text : Text) (spans : List Span) (classPrefix : String)
    (hclass : Plain classPrefix) (htags : ∀ span ∈ spans, Plain span.tag) :
    (unwrap? classPrefix (spans.map (·.tag)) (render text spans classPrefix).toList).isSome ∧
    (decode? (render text spans classPrefix).toList).isSome ∧
    (read? classPrefix (spans.map (·.tag)) (render text spans classPrefix) = some text.toList ↔
      Span.Follow text.size 0 spans) ∧
    ((spans.Pairwise fun a b => a.start ≤ b.start) → spans.Pairwise Disjoint →
      (spans.Pairwise fun a b => b.start = b.stop → a.stop ≤ b.start) →
      read? classPrefix (spans.map (·.tag)) (render text spans classPrefix)
        = some text.toList) ∧
    ∀ rule ∈ Registry.builtin.rules, ∃ found, rule.spans text = .ok found ∧
      read? classPrefix (found.map (·.tag)) (render text found classPrefix)
        = some text.toList := by
  have hiff := read?_render_eq_text_iff text classPrefix htags
  refine ⟨?_, ?_, hiff, fun hordered hdisjoint hempty => hiff.mpr ?_, fun rule hrule => ?_⟩
  · have hread := read?_render text classPrefix htags
    obtain ⟨body, hbody, -⟩ := Option.bind_eq_some_iff.mp hread
    rw [hbody]
    rfl
  · rw [render, String.toList_ofList]
    refine isSome_decode?_segments hclass fun s hs => ?_
    refine (tag_of_mem_cutFrom hs).imp_right fun htag => ?_
    obtain ⟨span, hspan, heq⟩ := List.mem_map.mp htag
    exact heq ▸ htags span hspan
  · refine Span.follow_of_pairwise ?_ fun _ _ => Nat.zero_le _
    refine (hordered.and (hdisjoint.and hempty)).imp fun h => ?_
    exact stop_le_start h.1 h.2.1 h.2.2
  · obtain ⟨found, hfound, horder, hmem⟩ := Registry.exists_spans_builtin hrule text
    refine ⟨found, hfound, (read?_render_eq_text_iff text classPrefix ?_).mpr horder.follow⟩
    exact fun span hspan => plain_of_mem_tags_builtin hrule _ (hmem span hspan)

/-- Markup in the source, an empty span ahead of one that ends beyond the
text. -/
theorem render_small_reads_back :
    Plain "tok-" ∧ (∀ span ∈ [(⟨1, 1, "string", by omega⟩ : Span), ⟨1, 9, "tag", by omega⟩],
      Plain span.tag) ∧
    read? "tok-" ["string", "tag"]
      (render #['a', '<', '&', '>'] [⟨1, 1, "string", by omega⟩, ⟨1, 9, "tag", by omega⟩] "tok-")
      = some ['a', '<', '&', '>'] := by
  have hclass : Plain "tok-" := by decide
  have htags : ∀ span ∈ [(⟨1, 1, "string", by omega⟩ : Span), ⟨1, 9, "tag", by omega⟩],
      Plain span.tag := by decide
  obtain ⟨-, -, hiff, -⟩ := render_reads_back #['a', '<', '&', '>'] _ "tok-" hclass htags
  exact ⟨hclass, htags, hiff.mpr (by decide)⟩

/-- **Not all spans in the order of their starts that share no character give
back the text**: behind a span that ends later, an empty one takes the text
back to where it stands. -/
theorem not_forall_read?_render :
    ¬ ∀ (text : Text) (spans : List Span) (classPrefix : String),
      Plain classPrefix → (∀ span ∈ spans, Plain span.tag) →
      (spans.Pairwise fun a b => a.start ≤ b.start) → spans.Pairwise Disjoint →
      read? classPrefix (spans.map (·.tag)) (render text spans classPrefix)
        = some text.toList := by
  intro h
  let spans : List Span := [⟨0, 1, "k", by omega⟩, ⟨0, 0, "k", by omega⟩]
  have htags : ∀ span ∈ spans, Plain span.tag := by decide
  have hdisjoint : spans.Pairwise Disjoint := by
    simp [spans, Disjoint, Span.covers]
  have hread := h #['a', 'b'] spans "tok-" (by decide) htags (by simp [spans]) hdisjoint
  have hfollow := (read?_render_eq_text_iff #['a', 'b'] "tok-" htags).mp hread
  revert hfollow
  decide

end SourceLens.Html
