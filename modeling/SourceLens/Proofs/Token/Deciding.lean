import SourceLens.Proofs.Pattern.Starts
import SourceLens.Proofs.Token.Scan
import SourceLens.Proofs.Token.Spans

/-!
# Where a category decides

Whether a certain token stands at a place of a text comes down to two
questions: has a token that started before gone over the place, and which
category decides there. Where the place is free (`IsFreeAt`), what the deciding
category matches is a token, and no other one touches its characters
(`Category.hasSoleToken_of_deciding?`).

The category of a token is not part of it. It is the name of the group that the
match of the token pattern has closed last (`Rule.categoryAt?`), which is the
category that decides (`Rule.DividesBy.categoryAt?_eq`). Which categories can
decide at all is often seen from the character that stands there: only those
that do not shun it (`Category.deciding?_of_hasAt`).
-/

namespace SourceLens

/-- **An offset is free**: no token that starts before it covers it. -/
def IsFreeAt (tokens : List Token) (offset : Nat) : Prop :=
  ∀ token ∈ tokens, token.span.start < offset → token.span.stop ≤ offset

instance (tokens : List Token) (offset : Nat) : Decidable (IsFreeAt tokens offset) :=
  inferInstanceAs (Decidable (∀ token ∈ tokens, _ → _))

/-- **A stretch has a token to itself**: one token with this tag goes exactly
over it, and no other token overlaps it. -/
def HasSoleToken (tokens : List Token) (start stop : Nat) (tag : String) : Prop :=
  ∃ token ∈ tokens, token.span.start = start ∧ token.span.stop = stop ∧ token.span.tag = tag ∧
    ∀ other ∈ tokens, other.span.start < stop → start < other.span.stop → other = token

/-- **The category of a match at an offset**: the name of the group that the
match of the token pattern has closed last. -/
def Rule.categoryAt? (rule : Rule) (text : Text) (offset : Nat) : Option String :=
  rule.tokens.bind fun pattern =>
    (pattern.matchAt text offset).bind fun m => m.lastGroup?.bind (·.name)

/-- **Tokens that overlap are the same token.** Both of them cover the later one
of their starts. -/
theorem Rule.eq_of_overlap {rule : Rule} {text : Text} {tokens : List Token}
    (h : rule.tokenize text = .ok tokens) {a b : Token} (ha : a ∈ tokens) (hb : b ∈ tokens)
    (hab : a.span.start < b.span.stop) (hba : b.span.start < a.span.stop) : a = b := by
  have hplaceda := placedIn_of_tokenize h a ha
  have hplacedb := placedIn_of_tokenize h b hb
  have hcovera : a.span.covers (max a.span.start b.span.start) = true :=
    Span.covers_iff.mpr ⟨Nat.le_max_left _ _, Nat.max_lt.mpr ⟨hplaceda.nonempty, hba⟩⟩
  have hcoverb : b.span.covers (max a.span.start b.span.start) = true :=
    Span.covers_iff.mpr ⟨Nat.le_max_right _ _, Nat.max_lt.mpr ⟨hab, hplacedb.nonempty⟩⟩
  have hspan : a.span = b.span := span_eq_of_covers h ha hb hcovera hcoverb
  have hlexeme : a.lexeme = b.lexeme := by
    rw [hplaceda.lexeme, hplacedb.lexeme, hspan]
  cases a
  cases b
  rw [Token.mk.injEq]
  exact ⟨hspan, hlexeme⟩

namespace Category

variable {rule : Rule} {categories : List Category} {text : Text} {offset stop : Nat}
  {c : Category}

/-- **Where the scan comes by, the category that decides has its token**, and no
other token overlaps it. -/
theorem hasSoleToken_of_deciding? (htokens : rule.tokenize text = .ok (scan categories text))
    (hdeciding : deciding? categories text offset = some (c, stop)) (hlt : offset < stop)
    (hinside : offset < text.size) (hfree : IsFreeAt (scan categories text) offset) :
    HasSoleToken (scan categories text) offset stop c.tag := by
  obtain ⟨earlier, hearlier, hstart, hcovers⟩ | hcomes :=
    covered_or_suffix categories text (Nat.zero_le offset)
  · have hstop := hfree earlier hearlier hstart
    omega
  · rw [scanFrom_of_lt hinside hdeciding hlt] at hcomes
    have hmem := hcomes.mem List.mem_cons_self
    exact ⟨_, hmem, rfl, rfl, rfl, fun other hother hbefore hbehind =>
      Rule.eq_of_overlap htokens hother hmem hbefore hbehind⟩

/-- Where no category decides, no token starts. -/
theorem start_ne_of_deciding?_eq_none (hdeciding : deciding? categories text offset = none)
    {token : Token} (htoken : token ∈ scan categories text) : token.span.start ≠ offset := by
  rintro rfl
  obtain ⟨c, hc, -⟩ := exists_deciding?_of_mem_scanFrom htoken
  rw [hdeciding] at hc
  cases hc

/-- **The category that decides where a character stands** is one of those that
do not shun it. -/
theorem deciding?_of_hasAt {ch : Char} (hc : text[offset]? = some ch) :
    deciding? categories text offset
      = deciding? (categories.filter fun category => !category.pattern.shuns ch) text offset := by
  induction categories with
  | nil => rfl
  | cons first rest ih =>
    rw [deciding?, List.findSome?_cons, List.filter_cons]
    cases hfirst : first.pattern.shuns ch with
    | true =>
      have hnone : first.stopAt? text offset = none := by
        rw [stopAt?, Pattern.matchAt_eq_none_of_shuns hfirst hc]
        rfl
      rw [hnone]
      exact ih
    | false =>
      show _ = deciding? (first :: _) text offset
      rw [deciding?, List.findSome?_cons]
      cases (first.stopAt? text offset).map (first, ·) with
      | some decided => rfl
      | none => exact ih

/-- Where all categories but one shun the character that stands there, the one
decides if it has a way, and its match ends where the first way does. -/
theorem deciding?_of_alone {ch : Char} (hc : text[offset]? = some ch)
    (halone : categories.filter (fun category => !category.pattern.shuns ch) = [c]) :
    deciding? categories text offset
      = (c.pattern.ways text (.start offset)).head?.map fun cur => (c, cur.offset) := by
  rw [deciding?_of_hasAt hc, halone, deciding?, List.findSome?_singleton, stopAt?_eq_head?,
    Option.map_map]
  rfl

end Category

/-- **The category of a match is the one that decides.** -/
theorem Rule.DividesBy.categoryAt?_eq {rule : Rule} {categories : List Category}
    (h : rule.DividesBy categories) (text : Text) (offset : Nat) :
    rule.categoryAt? text offset
      = (Category.deciding? categories text offset).map (·.1.name) := by
  obtain ⟨alternatives, halternatives, htokens⟩ := h.tokens
  unfold categoryAt?
  rw [htokens]
  cases categories with
  | nil => rfl
  | cons c rest =>
    have hverdict :=
      Pattern.verdict_choice halternatives (List.cons_ne_nil c rest) text offset
    show ((Pattern.choice alternatives).matchAt text offset).bind _ = _
    cases hm : (Pattern.choice alternatives).matchAt text offset with
    | none =>
      rw [hm] at hverdict
      rw [Option.map_eq_none_iff.mp hverdict.symm]
      rfl
    | some m =>
      rw [hm, Option.map_some] at hverdict
      obtain ⟨decided, hdeciding, hpair⟩ := Option.map_eq_some_iff.mp hverdict.symm
      rw [hdeciding, Option.bind_some, ← (Prod.mk.inj hpair).1]
      rfl

/-- The category of a token is the one that has decided on it. -/
theorem Rule.DividesBy.exists_deciding?_of_categoryAt? {rule : Rule} {categories : List Category}
    (h : rule.DividesBy categories) {text : Text} {token : Token}
    (htoken : token ∈ Category.scan categories text) {name : String}
    (hname : rule.categoryAt? text token.span.start = some name) :
    ∃ c ∈ categories, c.name = name ∧
      Category.deciding? categories text token.span.start = some (c, token.span.stop) := by
  obtain ⟨c, hdeciding, -⟩ := Category.exists_deciding?_of_mem_scanFrom htoken
  rw [h.categoryAt?_eq, hdeciding] at hname
  exact ⟨c, Category.mem_of_deciding? hdeciding, Option.some.inj hname, hdeciding⟩

end SourceLens
