import SourceLens.Proofs.Except
import SourceLens.Proofs.Pattern.Bounds
import SourceLens.Token.Basic

/-!
# The order of spans

Whatever looks at the spans of a text one after the other relies on their
order: none is empty, each starts where the one before it ends or later, and
the last one ends in the text (`Span.InOrder`). The tokens of every language
are in this order, whatever its pattern and its categories
(`Rule.inOrder_of_spans`), since each search starts where the match before it
has ended.
-/

namespace SourceLens

/-- **Spans in order** between an offset and the end of a text of `size`
characters: not empty, and each behind the one before it. -/
inductive Span.InOrder (size : Nat) : Nat → List Span → Prop where
  | nil (offset : Nat) : Span.InOrder size offset []
  | cons {offset : Nat} {span : Span} {rest : List Span} (behind : offset ≤ span.start)
      (nonempty : span.start < span.stop) (inText : span.stop ≤ size)
      (later : Span.InOrder size span.stop rest) : Span.InOrder size offset (span :: rest)

/-- **Spans follow one another** from an offset on, as far as a text of `size`
characters reaches: none starts before the one ahead of it has ended. -/
def Span.Follow (size : Nat) : Nat → List Span → Prop
  | _, [] => True
  | offset, span :: rest => min offset size ≤ span.start ∧ Span.Follow size span.stop rest

instance Span.decidableFollow (size : Nat) :
    ∀ offset spans, Decidable (Span.Follow size offset spans)
  | _, [] => .isTrue trivial
  | offset, span :: rest =>
    have := decidableFollow size span.stop rest
    inferInstanceAs (Decidable (min offset size ≤ span.start ∧ _))

namespace Span

variable {size offset : Nat} {spans : List Span}

/-- A span covers the offsets from its start to its end, exclusive. -/
theorem covers_iff {span : Span} : span.covers offset = true ↔
    span.start ≤ offset ∧ offset < span.stop := by
  unfold covers
  rw [Bool.and_eq_true, decide_eq_true_eq, decide_eq_true_eq]

/-- A span covers no offset before its start, nor at or behind its end. -/
theorem covers_eq_false_iff {span : Span} : span.covers offset = false ↔
    offset < span.start ∨ span.stop ≤ offset := by
  rw [← Bool.not_eq_true, covers_iff]
  omega

/-- Spans that each end before any later one starts follow one another. -/
theorem follow_of_pairwise (h : spans.Pairwise fun a b => a.stop ≤ b.start)
    (hle : ∀ span ∈ spans, offset ≤ span.start) : Follow size offset spans := by
  induction spans generalizing offset with
  | nil => trivial
  | cons span rest ih =>
    obtain ⟨hlater, hrest⟩ := List.pairwise_cons.mp h
    have hfirst := hle span List.mem_cons_self
    exact ⟨by omega, ih hrest hlater⟩

namespace InOrder

/-- Spans in order behind an offset are so behind one before it. -/
theorem of_le {before : Nat} (h : InOrder size offset spans) (hle : before ≤ offset) :
    InOrder size before spans := by
  cases h with
  | nil => exact .nil before
  | cons behind nonempty inText later => exact .cons (by omega) nonempty inText later

/-- Each of them starts behind the offset, is not empty, and ends in the
text. -/
theorem of_mem (h : InOrder size offset spans) {span : Span} (hspan : span ∈ spans) :
    offset ≤ span.start ∧ span.start < span.stop ∧ span.stop ≤ size := by
  induction h with
  | nil => cases hspan
  | cons behind nonempty inText _ ih =>
    obtain rfl | hspan := List.mem_cons.mp hspan
    · exact ⟨behind, nonempty, inText⟩
    · have := ih hspan
      omega

/-- An offset before the spans is covered by none of them. -/
theorem covers_eq_false (h : InOrder size offset spans) {before : Nat} (hlt : before < offset) :
    ∀ span ∈ spans, span.covers before = false := by
  intro span hspan
  obtain ⟨hstart, -, -⟩ := h.of_mem hspan
  exact covers_eq_false_iff.mpr (Or.inl (by omega))

/-- Each span ends before any later one starts. -/
theorem pairwise (h : InOrder size offset spans) :
    spans.Pairwise fun a b => a.stop ≤ b.start := by
  induction h with
  | nil => exact .nil
  | cons _ _ _ later ih => exact .cons (fun span hspan => (later.of_mem hspan).1) ih

/-- Spans in order follow one another. -/
theorem follow (h : InOrder size offset spans) : Follow size offset spans :=
  follow_of_pairwise h.pairwise fun _ hspan => (h.of_mem hspan).1

/-- **An offset is covered by one span at most.** -/
theorem eq_of_covers (h : InOrder size offset spans) {a b : Span} (ha : a ∈ spans)
    (hb : b ∈ spans) {shared : Nat} (hcovera : a.covers shared = true)
    (hcoverb : b.covers shared = true) : a = b := by
  -- a span that comes later starts behind the end of the first one
  have hlater : ∀ {first c : Span} {rest : List Span}, InOrder size first.stop rest → c ∈ rest →
      first.covers shared = true → c.covers shared = true → False := by
    intro first c rest hrest hc hfirst hcover
    obtain ⟨hstart, -, -⟩ := hrest.of_mem hc
    rw [covers_iff] at hfirst hcover
    omega
  induction h with
  | nil => cases ha
  | cons _ _ _ later ih =>
    obtain rfl | harest := List.mem_cons.mp ha
    · obtain rfl | hbrest := List.mem_cons.mp hb
      · rfl
      · exact (hlater later hbrest hcovera hcoverb).elim
    · obtain rfl | hbrest := List.mem_cons.mp hb
      · exact (hlater later harest hcoverb hcovera).elim
      · exact ih harest hbrest

end InOrder

end Span

/-! ## The spans of the tokens -/

/-- **A token has its place in a text**: it is not empty, lies in the text and
shows what stands there, with a tag of the language. -/
structure Token.PlacedIn (token : Token) (text : Text) (rule : Rule) : Prop where
  nonempty : token.span.start < token.span.stop
  inText : token.span.stop ≤ text.size
  lexeme : token.lexeme = text.slice token.span.start token.span.stop
  tag : token.span.tag ∈ rule.tags

namespace Rule

variable {rule : Rule} {text : Text} {pattern : Pattern} {steps offset : Nat}
  {tokens : List Token} {m : Match}

/-- The tag of a match is one of the language. -/
theorem mem_tags_of_tagOf {tag : String} (h : rule.tagOf m = .ok tag) : tag ∈ rule.tags := by
  unfold tagOf at h
  dsimp only at h
  split at h
  · rename_i found hfound
    cases h
    obtain ⟨name, -, hlookup⟩ := Option.bind_eq_some_iff.mp hfound
    obtain ⟨before, after, hstyles, -⟩ := List.lookup_eq_some_iff.mp hlookup
    unfold tags
    rw [List.mem_eraseDups, hstyles]
    exact List.mem_map_of_mem (List.mem_append_right before List.mem_cons_self)
  · cases h

/-- A match that is found starts at or behind the cursor, and ends in the text
at or behind its start. -/
theorem bounds_of_search (hfound : pattern.search text offset = some m) :
    offset ≤ m.start ∧ m.start ≤ m.stop ∧ (offset ≤ text.size → m.stop ≤ text.size) := by
  obtain ⟨hfrom, hto, hat, -⟩ := Pattern.searchWithin_eq_some hfound
  have hleads := Pattern.leads_of_matchAt hat
  exact ⟨hfrom, hleads.le, fun hle => hleads.inText (by omega)⟩

/-- **One step of the cursor**: it is at the end, or finds nothing, or steps
over an empty match, or takes the token of a match and goes on behind it. -/
theorem tokensFrom_cases (h : rule.tokensFrom pattern text (steps + 1) offset = .ok tokens) :
    tokens = [] ∨
    (∃ m, pattern.search text offset = some m ∧ offset < text.size ∧ ¬ m.start < m.stop ∧
      rule.tokensFrom pattern text steps (m.start + 1) = .ok tokens) ∨
    ∃ m tag later, ∃ hlt : m.start < m.stop,
      pattern.search text offset = some m ∧ offset < text.size ∧ rule.tagOf m = .ok tag ∧
        rule.tokensFrom pattern text steps m.stop = .ok later ∧
        tokens = ⟨.ofMatch m tag hlt, text.slice m.start m.stop⟩ :: later := by
  unfold tokensFrom at h
  split at h
  · cases h
    exact .inl rfl
  · rename_i hinside
    cases hsearch : pattern.search text offset with
    | none =>
      rw [hsearch] at h
      cases h
      exact .inl rfl
    | some m =>
      rw [hsearch] at h
      dsimp only at h
      split at h
      · rename_i hlt
        cases htag : rule.tagOf m with
        | error cause =>
          rw [htag] at h
          cases h
        | ok tag =>
          cases hlater : rule.tokensFrom pattern text steps m.stop with
          | error cause =>
            rw [htag, hlater] at h
            cases h
          | ok later =>
            rw [htag, hlater] at h
            cases h
            exact .inr (.inr ⟨m, tag, later, hlt, rfl, by omega, htag, hlater, rfl⟩)
      · rename_i hempty
        exact .inr (.inl ⟨m, rfl, by omega, hempty, h⟩)

/-- **The tokens from an offset on are in order.** Every match starts at or
behind the cursor, and the next search starts at its end. -/
theorem inOrder_of_tokensFrom (h : rule.tokensFrom pattern text steps offset = .ok tokens) :
    Span.InOrder text.size offset (tokens.map (·.span)) := by
  induction steps generalizing offset tokens with
  | zero =>
    cases h
    exact .nil offset
  | succ steps ih =>
    obtain rfl | ⟨m, hsearch, -, -, hlater⟩ | ⟨m, tag, later, hlt, hsearch, hin, -, hlater, rfl⟩ :=
      tokensFrom_cases h
    · exact .nil offset
    · -- an empty match gives no span, and the cursor moves on behind it
      obtain ⟨hfrom, -, -⟩ := bounds_of_search hsearch
      exact (ih hlater).of_le (by omega)
    · obtain ⟨hfrom, -, hstop⟩ := bounds_of_search hsearch
      exact .cons hfrom hlt (hstop (by omega)) (ih hlater)

/-- **Every token has its place in the text.** -/
theorem placedIn_of_tokensFrom (h : rule.tokensFrom pattern text steps offset = .ok tokens) :
    ∀ token ∈ tokens, token.PlacedIn text rule := by
  induction steps generalizing offset tokens with
  | zero =>
    cases h
    simp
  | succ steps ih =>
    obtain rfl | ⟨m, -, -, -, hlater⟩ | ⟨m, tag, later, hlt, hsearch, hin, htag, hlater, rfl⟩ :=
      tokensFrom_cases h
    · simp
    · exact ih hlater
    · obtain ⟨-, -, hstop⟩ := bounds_of_search hsearch
      intro token htoken
      obtain rfl | htoken := List.mem_cons.mp htoken
      · exact ⟨hlt, hstop (by omega), rfl, mem_tags_of_tagOf htag⟩
      · exact ih hlater token htoken

/-- **The search ends by itself**: as many steps as there are characters left
are enough, and more change nothing. -/
theorem tokensFrom_of_le {more : Nat} (henough : text.size ≤ offset + steps)
    (hle : steps ≤ more) :
    rule.tokensFrom pattern text more offset = rule.tokensFrom pattern text steps offset := by
  induction steps generalizing offset more with
  | zero =>
    cases more with
    | zero => rfl
    | succ more => rw [tokensFrom, tokensFrom, if_pos (by omega)]
  | succ steps ih =>
    obtain ⟨more, rfl⟩ := Nat.exists_eq_add_one_of_ne_zero (by omega : more ≠ 0)
    unfold tokensFrom
    cases hsearch : pattern.search text offset with
    | none => rfl
    | some m =>
      obtain ⟨hfrom, -, -⟩ := bounds_of_search hsearch
      dsimp only
      split
      · rfl
      · split
        · rw [ih (by omega) (by omega)]
        · exact ih (by omega) (by omega)

/-- **The one way to fail** is a match that is not empty and has no tag. -/
theorem exists_of_tokensFrom_eq_error {cause : UnknownCategory}
    (h : rule.tokensFrom pattern text steps offset = .error cause) :
    ∃ later m, pattern.search text later = some m ∧ m.start < m.stop ∧
      rule.tagOf m = .error cause := by
  induction steps generalizing offset with
  | zero => cases h
  | succ steps ih =>
    unfold tokensFrom at h
    split at h
    · cases h
    · cases hsearch : pattern.search text offset with
      | none =>
        rw [hsearch] at h
        cases h
      | some m =>
        rw [hsearch] at h
        dsimp only at h
        split at h
        · rename_i hlt
          cases htag : rule.tagOf m with
          | error found =>
            rw [htag] at h
            cases h
            exact ⟨offset, m, hsearch, hlt, htag⟩
          | ok tag =>
            cases hlater : rule.tokensFrom pattern text steps m.stop with
            | error found =>
              rw [htag, hlater] at h
              cases h
              exact ih hlater
            | ok later =>
              rw [htag, hlater] at h
              cases h
        · exact ih h

/-- The tokens of a language with a pattern are those from the start on. -/
theorem tokenize_of_tokens (hpattern : rule.tokens = some pattern) :
    rule.tokenize text = rule.tokensFrom pattern text text.size 0 := by
  unfold tokenize
  rw [hpattern]

/-- Without a pattern there are no tokens. -/
theorem tokenize_of_tokens_eq_none (hpattern : rule.tokens = none) :
    rule.tokenize text = .ok [] := by
  unfold tokenize
  rw [hpattern]

/-- **Every token of a text has its place in it.** -/
theorem placedIn_of_tokenize (h : rule.tokenize text = .ok tokens) :
    ∀ token ∈ tokens, token.PlacedIn text rule := by
  cases hpattern : rule.tokens with
  | none =>
    rw [tokenize_of_tokens_eq_none hpattern] at h
    cases h
    simp
  | some pattern =>
    rw [tokenize_of_tokens hpattern] at h
    exact placedIn_of_tokensFrom h

/-- **The spans of a text are in order.** -/
theorem inOrder_of_spans {found : List Span} (h : rule.spans text = .ok found) :
    Span.InOrder text.size 0 found := by
  obtain ⟨tokens, htokens, rfl⟩ := map_eq_ok.mp h
  cases hpattern : rule.tokens with
  | none =>
    rw [tokenize_of_tokens_eq_none hpattern] at htokens
    cases htokens
    exact .nil 0
  | some pattern =>
    rw [tokenize_of_tokens hpattern] at htokens
    exact inOrder_of_tokensFrom htokens

/-- **No two tokens cover one offset.** -/
theorem span_eq_of_covers (h : rule.tokenize text = .ok tokens) {a b : Token} (ha : a ∈ tokens)
    (hb : b ∈ tokens) (hcovera : a.span.covers offset = true)
    (hcoverb : b.span.covers offset = true) : a.span = b.span := by
  have hspans : rule.spans text = .ok (tokens.map (·.span)) := by
    rw [spans, h]
    rfl
  exact (inOrder_of_spans hspans).eq_of_covers (List.mem_map_of_mem ha) (List.mem_map_of_mem hb)
    hcovera hcoverb

end Rule

end SourceLens
