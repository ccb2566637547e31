import Mathlib
import SourceLens.Proofs.Language.Categories
import SourceLens.Proofs.Pattern.Sparing
import SourceLens.Proofs.Token.Spans

/-!
# Comments

Where the opener of a comment stands in a source text, there is a comment – or
the opener is a part of a comment or a string that has started before it. Two
things could go wrong. Something else could have swallowed the opener: an
operator is a run of signs as long as possible, a number may have a sign in its
exponent. And the comment could be cut or go on too long.

Neither happens in the built-in languages (`Registry.comment_kept`). The scan
comes to the place of the opener unless a token covers it, and the categories
that may not cover it avoid the opener (`Category.KeepComments`). At the place
itself the comments are asked first, and they match as they should: to the end
of the line, or to the first closing delimiter (`CommentStyle.Ends`).
-/

namespace SourceLens

/-! ## Styles of comments -/

/-- **A style of comments.** -/
inductive CommentStyle where
  /-- From an opener to the end of its line. -/
  | line (opener : String)
  /-- From `/*` to the first `*/` behind it. -/
  | block
  deriving DecidableEq, Repr

namespace CommentStyle

/-- What a comment starts with. -/
def opener : CommentStyle → String
  | .line opener => opener
  | .block => "/*"

/-- The pattern of the comments of a style. -/
def pattern : CommentStyle → Pattern
  | .line opener => Builtin.lineComment opener
  | .block => Builtin.blockComment

/-- **Where a comment ends** that starts at an offset: a line comment at the
first line feed from there on or at the end of the text; a block comment behind
the first `*/` that starts behind its opener, or at the end of the text if
there is none. -/
def Ends (style : CommentStyle) (text : Text) (start stop : Nat) : Prop :=
  match style with
  | .line _ =>
    IsLeast {offset | start ≤ offset ∧ (text.hasAt offset '\n' = true ∨ offset = text.size)} stop
  | .block =>
    (∃ last, IsLeast {offset | start + 2 ≤ offset ∧ text.StandsAt "*/" offset} last ∧
      stop = last + 2) ∨
    ((∀ offset, start + 2 ≤ offset → ¬ text.StandsAt "*/" offset) ∧ stop = text.size)

/-- A pattern avoids the opener of a style. -/
def avoidedBy (style : CommentStyle) (p : Pattern) : Bool :=
  match style.opener.toList with
  | [] => false
  | first :: rest => p.avoids first rest.head?

variable {text : Text} {offset : Nat} {style : CommentStyle}

/-- A pattern that avoids the opener spares the places where it stands. -/
theorem spares_of_avoidedBy {p : Pattern} (h : style.avoidedBy p = true)
    (hopens : text.StandsAt style.opener offset) : p.Spares text offset := by
  unfold avoidedBy at h
  unfold Text.StandsAt at hopens
  split at h
  · cases h
  · rename_i first rest heq
    rw [heq] at hopens
    obtain ⟨hfirst, hrest⟩ := Text.cons_prefix_drop.mp hopens
    refine Pattern.spares_of_avoids h hfirst fun c hc => ?_
    cases rest with
    | nil => cases hc
    | cons second rest =>
      cases hc
      exact (Text.cons_prefix_drop.mp hrest).1

/-! ## What the comments match -/

/-- An opener that can be told from the rest of its line: it is not empty and
ends no line. -/
def IsProper (style : CommentStyle) : Prop :=
  style.opener.length ≠ 0 ∧ '\n' ∉ style.opener.toList

instance (style : CommentStyle) : Decidable style.IsProper :=
  inferInstanceAs (Decidable (_ ∧ _))

/-- The characters that a line comment goes on over. -/
def notLineFeed : CharSet := CharSet.compl (.union [.oneOf "\n"])

theorem contains_notLineFeed {c : Char} : notLineFeed.contains c = true ↔ c ≠ '\n' := by
  rw [notLineFeed, CharSet.contains_compl_oneOf]
  simp

/-- **A line comment goes on to the end of its line.** -/
theorem exists_head?_line {opener : String} (hproper : (line opener).IsProper) {cur : Cursor}
    (hopens : text.StandsAt opener cur.offset) :
    ∃ stop, (Pattern.ways text (line opener).pattern cur).head? = some (cur.move stop) ∧
      cur.offset < stop ∧ (line opener).Ends text cur.offset stop := by
  obtain ⟨hnonempty, hline⟩ : opener.length ≠ 0 ∧ '\n' ∉ opener.toList := hproper
  have hlength := hopens.length_le
  have hin : cur.offset + opener.length ≤ text.size := by omega
  obtain ⟨stop, hhead, hfrom, hto, hfills, hends⟩ :=
    Pattern.exists_head?_run notLineFeed (cur.move (cur.offset + opener.length)) hin
  rw [Cursor.offset_move] at hfrom hfills
  -- the opener has no line feed either
  have hwhole : notLineFeed.Fills text cur.offset stop :=
    (CharSet.fills_of_standsAt hopens fun c hc =>
      contains_notLineFeed.mpr fun heq => hline (heq ▸ hc)).trans hfills
  refine ⟨stop, ?_, by omega, ⟨by omega, ?_⟩, ?_⟩
  · unfold pattern Builtin.lineComment
    rw [Pattern.ways_concat_literal hopens]
    exact hhead
  · cases hat : text[stop]? with
    | none =>
      have hle := Array.getElem?_eq_none_iff.mp hat
      exact .inr (by omega)
    | some c =>
      have hc : ¬ c ≠ '\n' := fun hne => by
        have hset := hends c hat
        rw [contains_notLineFeed.mpr hne] at hset
        cases hset
      rw [Text.hasAt, hat, not_ne_iff.mp hc]
      exact .inl (beq_self_eq_true _)
  · rintro offset ⟨hle, hfeed | rfl⟩
    · by_contra hlt
      obtain ⟨c, hc, hset⟩ := hwhole offset hle (by omega)
      rw [Text.hasAt, hc, beq_iff_eq] at hfeed
      exact contains_notLineFeed.mp hset (Option.some.inj hfeed)
    · exact hto

/-- **A block comment goes on to the first closing delimiter.** -/
theorem exists_head?_block {cur : Cursor} (hopens : text.StandsAt "/*" cur.offset) :
    ∃ stop, (Pattern.ways text block.pattern cur).head? = some (cur.move stop) ∧
      cur.offset < stop ∧ block.Ends text cur.offset stop := by
  have hlength : 2 ≤ text.size - cur.offset := hopens.length_le
  have hin : cur.offset + 2 ≤ text.size := by omega
  have hcloser : "*/".length ≠ 0 := by decide
  obtain ⟨stop, hhead, hends⟩ :=
    Pattern.exists_head?_upTo hcloser (cur.move (cur.offset + 2)) hin
  refine ⟨stop, ?_, ?_, hends⟩
  · unfold pattern Builtin.blockComment
    rw [Pattern.ways_concat_literal hopens]
    exact hhead
  · obtain ⟨last, ⟨⟨hle, -⟩, -⟩, rfl⟩ | ⟨-, rfl⟩ := hends
    · have hle' : cur.offset + 2 ≤ last := hle
      omega
    · omega

/-- A comment matches where its opener stands, and ends as its style says. -/
theorem exists_head? (hproper : style.IsProper) {cur : Cursor}
    (hopens : text.StandsAt style.opener cur.offset) :
    ∃ stop, (Pattern.ways text style.pattern cur).head? = some (cur.move stop) ∧
      cur.offset < stop ∧ style.Ends text cur.offset stop := by
  cases style with
  | line opener => exact exists_head?_line hproper hopens
  | block => exact exists_head?_block hopens

/-- A comment matches nowhere else. -/
theorem ways_eq_nil {cur : Cursor} (h : ¬ text.StandsAt style.opener cur.offset) :
    Pattern.ways text style.pattern cur = [] := by
  cases style with
  | line opener => exact Pattern.ways_concat_literal_eq_nil h _
  | block => exact Pattern.ways_concat_literal_eq_nil h _

/-- **Two styles can be told apart**: neither opener starts with the other. -/
def Apart (a b : CommentStyle) : Prop :=
  ¬ a.opener.toList <+: b.opener.toList ∧ ¬ b.opener.toList <+: a.opener.toList

instance (a b : CommentStyle) : Decidable (a.Apart b) :=
  inferInstanceAs (Decidable (_ ∧ _))

/-- Of two styles that can be told apart, one opener at most stands at an
offset. -/
theorem Apart.not_standsAt {other : CommentStyle} (h : other.Apart style)
    (hopens : text.StandsAt style.opener offset) : ¬ text.StandsAt other.opener offset := by
  intro hother
  obtain hprefix | hprefix := List.prefix_or_prefix_of_prefix hother hopens
  · exact h.1 hprefix
  · exact h.2 hprefix

/-- **The comments of several styles** match where the opener of one of them
stands, and end as that style says. -/
theorem exists_head?_choice {styles : List CommentStyle} (hproper : ∀ s ∈ styles, s.IsProper)
    (hapart : styles.Pairwise Apart) (hstyle : style ∈ styles) (cur : Cursor)
    (hopens : text.StandsAt style.opener cur.offset) :
    ∃ stop, (Pattern.ways text (.choice (styles.map (·.pattern))) cur).head?
        = some (cur.move stop) ∧
      cur.offset < stop ∧ style.Ends text cur.offset stop := by
  have hne : styles.map (·.pattern) ≠ [] :=
    List.ne_nil_of_mem (List.mem_map_of_mem hstyle)
  rw [Pattern.ways_choice text hne, List.flatMap_map]
  clear hne
  induction styles with
  | nil => cases hstyle
  | cons first rest ih =>
    obtain ⟨hfirst, hrest⟩ := List.pairwise_cons.mp hapart
    rw [List.flatMap_cons, List.head?_append]
    obtain rfl | hstyle := List.mem_cons.mp hstyle
    · obtain ⟨stop, hhead, hends⟩ := exists_head? (hproper style List.mem_cons_self) hopens
      rw [hhead]
      exact ⟨stop, rfl, hends⟩
    · rw [ways_eq_nil ((hfirst style hstyle).not_standsAt hopens)]
      exact ih (fun s hs => hproper s (List.mem_cons_of_mem first hs)) hrest hstyle

end CommentStyle

/-! ## Languages that keep their comments -/

/-- **Categories keep the comments** of some styles: comments come first, and
whatever is not shown with one of the tags that may cover an opener avoids all
openers. -/
structure Category.KeepComments (categories : List Category) (styles : List CommentStyle)
    (covering : List String) : Prop where
  first : ∃ name rest,
    categories = ⟨name, "comment", .choice (styles.map (·.pattern))⟩ :: rest
  proper : ∀ style ∈ styles, style.IsProper
  apart : styles.Pairwise CommentStyle.Apart
  comment : "comment" ∈ covering
  avoided : ∀ c ∈ categories, c.tag ∈ covering ∨
    ∀ style ∈ styles, style.avoidedBy c.pattern = true

namespace Category.KeepComments

variable {categories : List Category} {styles : List CommentStyle} {covering : List String}
  {text : Text} {style : CommentStyle} {offset : Nat}

/-- A token that covers an opener and has started before it is shown with one
of the tags that may. -/
theorem tag_mem_of_lt (h : KeepComments categories styles covering) (hstyle : style ∈ styles)
    (hopens : text.StandsAt style.opener offset) {token : Token}
    (htoken : token ∈ scan categories text) (hlt : token.span.start < offset)
    (hcovers : offset < token.span.stop) : token.span.tag ∈ covering := by
  obtain ⟨c, hc, hstop, htag⟩ := exists_of_mem_scanFrom htoken
  obtain hcovering | havoided := h.avoided c hc
  · exact htag ▸ hcovering
  · obtain ⟨m, hm, hstop⟩ := Option.map_eq_some_iff.mp hstop
    have hspares := CommentStyle.spares_of_avoidedBy (havoided style hstyle) hopens
    have hle := hspares.stop_le hm (Nat.le_of_lt hlt)
    omega

/-- Where the scan comes to an opener, a comment decides. -/
theorem exists_deciding? (h : KeepComments categories styles covering) (hstyle : style ∈ styles)
    (hopens : text.StandsAt style.opener offset) :
    ∃ c stop, deciding? categories text offset = some (c, stop) ∧ c.tag = "comment" ∧
      offset < stop ∧ style.Ends text offset stop := by
  obtain ⟨name, rest, rfl⟩ := h.first
  obtain ⟨stop, hhead, hlt, hends⟩ :=
    CommentStyle.exists_head?_choice h.proper h.apart hstyle (.start offset) hopens
  have hstop : stopAt? ⟨name, "comment", .choice (styles.map (·.pattern))⟩ text offset
      = some stop := by
    rw [stopAt?_eq_head?, hhead]
    rfl
  refine ⟨⟨name, "comment", .choice (styles.map (·.pattern))⟩, stop, ?_, rfl, hlt, hends⟩
  rw [deciding?, List.findSome?_cons, hstop]
  rfl

end Category.KeepComments

/-- **The tokens of a text keep the comment** whose opener stands at an offset:
either a token that may cover the opener has started before it, or a comment
starts there and ends as its style says, but not both; and no other token covers
the opener. -/
def KeepsComment (tokens : List Token) (style : CommentStyle) (covering : List String)
    (text : Text) (offset : Nat) : Prop :=
  Xor
    (∃ token ∈ tokens, token.span.tag ∈ covering ∧
      token.span.start < offset ∧ offset < token.span.stop)
    (∃ token ∈ tokens, token.span.tag = "comment" ∧
      token.span.start = offset ∧ style.Ends text offset token.span.stop) ∧
  ∀ token ∈ tokens, token.span.covers offset = true → token.span.tag ∈ covering

/-- **A language keeps its comments** if its categories do. -/
theorem Rule.MadeOf.keepsComment {rule : Rule} {categories : List Category}
    (hmade : rule.MadeOf categories) {styles : List CommentStyle} {covering : List String}
    (h : Category.KeepComments categories styles covering) {style : CommentStyle}
    (hstyle : style ∈ styles) {text : Text} {offset : Nat}
    (hopens : text.StandsAt style.opener offset) :
    ∃ tokens, rule.tokenize text = .ok tokens ∧ KeepsComment tokens style covering text offset := by
  have htokens := hmade.dividesBy.tokenize_eq text
  refine ⟨_, htokens, ?_⟩
  obtain ⟨earlier, hearlier, hlt, hcovers⟩ | hcomes :=
    Category.covered_or_suffix categories text (Nat.zero_le offset)
  · have htag := h.tag_mem_of_lt hstyle hopens hearlier hlt hcovers
    have hcovered : earlier.span.covers offset = true :=
      Span.covers_iff.mpr ⟨Nat.le_of_lt hlt, hcovers⟩
    refine ⟨.inl ⟨⟨earlier, hearlier, htag, hlt, hcovers⟩, ?_⟩, fun token htoken hcover => ?_⟩
    · -- a comment from the opener on would cover it as well
      rintro ⟨token, htoken, -, hstart, -⟩
      have hnonempty := (Rule.placedIn_of_tokenize htokens token htoken).nonempty
      have heq := Rule.span_eq_of_covers htokens htoken hearlier
        (Span.covers_iff.mpr ⟨Nat.le_of_eq hstart, by omega⟩) hcovered
      rw [← heq] at hlt
      omega
    · exact Rule.span_eq_of_covers htokens htoken hearlier hcover hcovered ▸ htag
  · obtain ⟨c, stop, hdeciding, htag, hlt, hends⟩ := h.exists_deciding? hstyle hopens
    have hinside : offset < text.size := by
      have hlength := hopens.length_le
      have hnonempty := (h.proper style hstyle).1
      omega
    rw [Category.scanFrom_of_lt hinside hdeciding hlt] at hcomes
    have hcomment := hcomes.mem List.mem_cons_self
    have hcovered : Span.covers ⟨offset, stop, c.tag, Nat.le_of_lt hlt⟩ offset = true :=
      Span.covers_iff.mpr ⟨Nat.le_refl offset, hlt⟩
    refine ⟨.inr ⟨⟨_, hcomment, htag, rfl, hends⟩, ?_⟩, fun token htoken hcover => ?_⟩
    · -- an earlier token that covers the opener would be the comment
      rintro ⟨token, htoken, -, hstart, hcovers⟩
      have heq := Rule.span_eq_of_covers htokens htoken hcomment
        (Span.covers_iff.mpr ⟨Nat.le_of_lt hstart, hcovers⟩) hcovered
      rw [heq] at hstart
      exact absurd hstart (Nat.lt_irrefl offset)
    · rw [Rule.span_eq_of_covers htokens htoken hcomment hcover hcovered]
      exact htag ▸ h.comment

/-! ## The built-in languages -/

/-- The styles of the comments of a built-in language, by its key. -/
def Builtin.commentStyles : String → List CommentStyle
  | "java" | "javascript" | "cpp" | "csharp" => [.line "//", .block]
  | "css" => [.block]
  | "sql" => [.line "--", .block]
  | "python" => [.line "#"]
  | _ => []

/-- The tags of the tokens in which an opener may stand and open nothing. -/
def Builtin.coveringTags : String → List String
  | "cpp" => ["comment", "string", "preprocessor"]
  | _ => ["comment", "string"]

/-- The categories of the built-in languages keep the comments. -/
theorem Registry.exists_keepComments {rule : Rule} (hrule : rule ∈ builtin.rules)
    {style : CommentStyle} (hstyle : style ∈ Builtin.commentStyles rule.key) :
    ∃ categories, rule.MadeOf categories ∧
      Category.KeepComments categories (Builtin.commentStyles rule.key)
        (Builtin.coveringTags rule.key) := by
  obtain rfl | rfl | rfl | rfl | rfl | rfl | rfl | rfl := mem_rules_builtin.mp hrule
  -- the comments of HTML are of neither style
  case inr.inr.inr.inr.inr.inr.inl => cases hstyle
  all_goals
    exact ⟨_, .given _ _ _ _ (by decide), ⟨_, _, rfl⟩, by decide +kernel, by decide +kernel,
      by decide +kernel, by decide +kernel⟩

/-- **The built-in languages keep their comments.** In every text, where the
opener of a comment stands, exactly one of two things holds: a comment, a string
or, in C and C++, a line of the preprocessor has started before the opener and
covers it; or a comment starts there, and goes on to the end of its line or to
the first closing delimiter, if there is one, and else to the end of the text.
So no token of another kind ever covers an opener. -/
theorem Registry.builtin_keepsComment {rule : Rule} (hrule : rule ∈ builtin.rules)
    {style : CommentStyle} (hstyle : style ∈ Builtin.commentStyles rule.key) {text : Text}
    {offset : Nat} (hopens : text.StandsAt style.opener offset) :
    ∃ tokens, rule.tokenize text = .ok tokens ∧
      KeepsComment tokens style (Builtin.coveringTags rule.key) text offset := by
  obtain ⟨categories, hmade, hkeep⟩ := exists_keepComments hrule hstyle
  exact hmade.keepsComment hkeep hstyle hopens

/-- Two signs behind the letter of an exponent are no part of a number, but open
a comment of SQL. -/
theorem Registry.sql_keepsComment :
    Builtin.Sql.rule ∈ builtin.rules ∧
      CommentStyle.line "--" ∈ Builtin.commentStyles Builtin.Sql.rule.key ∧
      Text.StandsAt #['1', 'e', '-', '-', '5'] "--" 2 ∧
      ∃ tokens, Builtin.Sql.rule.tokenize #['1', 'e', '-', '-', '5'] = .ok tokens ∧
        KeepsComment tokens (.line "--") ["comment", "string"] #['1', 'e', '-', '-', '5'] 2 := by
  have hrule : Builtin.Sql.rule ∈ builtin.rules := mem_rules_builtin.mpr (by simp)
  have hstyle : CommentStyle.line "--" ∈ Builtin.commentStyles Builtin.Sql.rule.key := by decide
  have hopens : Text.StandsAt #['1', 'e', '-', '-', '5'] "--" 2 := by decide
  exact ⟨hrule, hstyle, hopens, builtin_keepsComment hrule hstyle hopens⟩

end SourceLens
