import Mathlib
import SourceLens.Proofs.Language.Categories
import SourceLens.Proofs.Token.Spans

/-!
# Tokens and their places

What a language finds in a text is a list of tokens one behind the other, each
with the characters that stand in its place and a tag of the language. This
holds of every language, also where its categories match emptily, look back or
overlap, since it rests on the bounds of matches alone (`Rule.inOrder_of_spans`,
`Rule.placedIn_of_tokensFrom`).

That there is a list at all needs more: every match has to belong to a
category. In a language that is made of categories it does, so that neither
the making of a span nor the look-up of a tag can fail (`Rule.tokenize_placed`).
A language whose joined pattern closes the group of its category early has
matches that belong to none (`RuleDefinition.not_forall_exists_tokenize`).
-/

namespace SourceLens

/-- The bounds of a match make a span with any tag. -/
theorem Span.exists_make_eq_ok {start stop : Nat} (h : start ≤ stop) (tag : String) :
    ∃ span, make start stop tag = .ok span := by
  unfold make
  rw [dif_pos (by omega)]
  exact ⟨_, rfl⟩

/-- **The tokens of a text are in their places.** In every language the tokens
of a text follow one another without overlap, and each has its place in the
text. The search for them ends by itself, and the bounds of whatever it finds
make a span. It fails only at a match without a tag, and in a language that is
made of categories there is none: it always gives its tokens. -/
theorem Rule.tokenize_placed (rule : Rule) (text : Text) :
    (∀ tokens, rule.tokenize text = .ok tokens →
      (tokens.Pairwise fun a b => a.span.stop ≤ b.span.start) ∧
      ∀ token ∈ tokens, token.PlacedIn text rule) ∧
    (∀ pattern, rule.tokens = some pattern →
      (∀ steps, text.size ≤ steps →
        rule.tokensFrom pattern text steps 0 = rule.tokenize text) ∧
      ∀ offset m, pattern.search text offset = some m →
        ∀ tag, ∃ span, Span.make m.start m.stop tag = .ok span) ∧
    (∀ cause, rule.tokenize text = .error cause →
      ∃ pattern offset m, rule.tokens = some pattern ∧ pattern.search text offset = some m ∧
        m.start < m.stop ∧ rule.tagOf m = .error cause) ∧
    ∀ categories, rule.MadeOf categories →
      (∃ tokens, rule.tokenize text = .ok tokens) ∧
      ∀ pattern, rule.tokens = some pattern → ∀ offset m, pattern.search text offset = some m →
        ∃ tag ∈ rule.tags, rule.tagOf m = .ok tag := by
  refine ⟨fun tokens htokens => ⟨?_, ?_⟩, fun pattern hpattern => ⟨?_, ?_⟩, ?_, ?_⟩
  · have hspans : rule.spans text = .ok (tokens.map (·.span)) := by
      rw [spans, htokens]
      rfl
    exact List.pairwise_map.mp (inOrder_of_spans hspans).pairwise
  · exact placedIn_of_tokenize htokens
  · intro steps hle
    rw [tokenize_of_tokens hpattern]
    exact tokensFrom_of_le (by omega) hle
  · intro offset m hfound tag
    exact Span.exists_make_eq_ok (bounds_of_search hfound).2.1 tag
  · intro cause herror
    cases hpattern : rule.tokens with
    | none =>
      rw [tokenize_of_tokens_eq_none hpattern] at herror
      cases herror
    | some pattern =>
      rw [tokenize_of_tokens hpattern] at herror
      obtain ⟨offset, m, hfound, hlt, htag⟩ := exists_of_tokensFrom_eq_error herror
      exact ⟨pattern, offset, m, rfl, hfound, hlt, htag⟩
  · intro categories hmade
    refine ⟨⟨_, hmade.dividesBy.tokenize_eq text⟩, fun pattern hpattern offset m hfound => ?_⟩
    obtain ⟨tag, htag⟩ := hmade.dividesBy.exists_tagOf hpattern hfound
    exact ⟨tag, mem_tags_of_tagOf htag, htag⟩

/-- **A built-in language has spans for every text**: they are in order, and
their tags are those of the language. -/
theorem Registry.exists_spans_builtin {rule : Rule} (h : rule ∈ builtin.rules) (text : Text) :
    ∃ spans, rule.spans text = .ok spans ∧ Span.InOrder text.size 0 spans ∧
      ∀ span ∈ spans, span.tag ∈ rule.tags := by
  obtain ⟨categories, hmade⟩ := madeOfCategories_builtin rule h
  have htokens := hmade.dividesBy.tokenize_eq text
  have hspans : rule.spans text = .ok ((Category.scan categories text).map (·.span)) := by
    rw [Rule.spans, htokens]
    rfl
  refine ⟨_, hspans, Rule.inOrder_of_spans hspans, fun span hspan => ?_⟩
  obtain ⟨token, htoken, rfl⟩ := List.mem_map.mp hspan
  exact (Rule.placedIn_of_tokenize htokens token htoken).tag

namespace RuleDefinition

/-- The tokens of a defined language whose category looks ahead and matches
emptily. -/
theorem single_tokenize_placed :
    ∃ rule, (single "a(?=b)|c*" 2).compile = .ok rule ∧
      ∃ tokens, rule.tokenize #['x', 'A', 'b', 'c'] = .ok tokens ∧
        (tokens.Pairwise fun a b => a.span.stop ≤ b.span.start) ∧
        ∀ token ∈ tokens, token.PlacedIn #['x', 'A', 'b', 'c'] rule := by
  have hcompiled : (single "a(?=b)|c*" 2).compile.map (fun _ => ()) = .ok () := by cbv
  obtain ⟨rule, hrule, -⟩ := map_eq_ok.mp hcompiled
  obtain ⟨categories, hmade, -⟩ := exists_madeOf hrule (by decide)
  obtain ⟨hplaced, -, -, htokens⟩ := Rule.tokenize_placed rule #['x', 'A', 'b', 'c']
  obtain ⟨tokens, hok⟩ := (htokens categories hmade).1
  exact ⟨rule, hrule, tokens, hok, hplaced tokens hok⟩

/-- **Not every language that can be defined has tokens for every text.** The
spaced pattern `a#?)(` is the letter and a comment; in the joined pattern it
closes the group of its category and opens one that belongs to none. -/
theorem not_forall_exists_tokenize :
    ¬ ∀ (definition : RuleDefinition) (rule : Rule) (text : Text),
      definition.compile = .ok rule → ∃ tokens, rule.tokenize text = .ok tokens := by
  intro h
  have hfails : (single "a#?)(" 64).compile.map (fun rule => rule.tokenize #['a'])
      = .ok (.error ⟨none⟩) := by cbv
  obtain ⟨rule, hrule, herror⟩ := map_eq_ok.mp hfails
  obtain ⟨tokens, htokens⟩ := h _ rule #['a'] hrule
  rw [herror] at htokens
  cases htokens

end RuleDefinition

end SourceLens
