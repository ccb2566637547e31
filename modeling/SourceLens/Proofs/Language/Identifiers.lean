import Mathlib
import SourceLens.Proofs.Language.Categories
import SourceLens.Proofs.Pattern.Edges
import SourceLens.Proofs.Pattern.Sparing
import SourceLens.Proofs.Token.Deciding

/-!
# Identifiers with dollar signs

In Java and JavaScript an identifier may hold dollar signs, and the headers of
their functions take them as letters (`Builtin.dollarName`). The words and numbers
among the tokens are kept apart by edges of words, though, and for these a dollar
sign is no word character. So an identifier is not left untagged as a whole: in
`$this` the end of the name is shown as a keyword
(`Registry.not_forall_keepsWhole`).

Dollar signs are the only way into an identifier. A keyword, type or number that
starts strictly inside one has a dollar sign directly before it, one that ends
there has a dollar sign directly behind it, and none holds a dollar sign itself
(`Registry.builtin_identifiers`). Without dollar signs identifiers are kept whole.

That a pattern matches from edge to edge can be read off it
(`Pattern.startsAtEdge`, `Pattern.endsAtEdge`).
-/

namespace SourceLens

/-! ## From edge to edge -/

namespace Pattern

variable {text : Text} {p : Pattern} {cur next : Cursor}

/-- The pattern asks for an edge of a word first. -/
def startsAtEdge : Pattern → Bool
  | .anchor (.wordEdge true false) => true
  | .seq p _ => p.startsAtEdge
  | _ => false

/-- The pattern asks for an edge of a word last. -/
def endsAtEdge : Pattern → Bool
  | .anchor (.wordEdge true false) => true
  | .seq _ q => q.endsAtEdge
  | _ => false

/-- Every way of a pattern that asks for an edge first starts at one. -/
theorem isWordEdge_of_startsAtEdge (h : p.startsAtEdge = true) (hnext : next ∈ ways text p cur) :
    text.isWordEdge cur.offset = true := by
  fun_induction startsAtEdge p generalizing next with
  | case1 => exact (mem_ways_edge.mp hnext).2
  | case2 p q ih =>
    obtain ⟨mid, hmid, -⟩ := List.mem_flatMap.mp hnext
    exact ih h hmid
  | case3 => cases h

/-- Every way of a pattern that asks for an edge last ends at one. -/
theorem isWordEdge_of_endsAtEdge (h : p.endsAtEdge = true) (hnext : next ∈ ways text p cur) :
    text.isWordEdge next.offset = true := by
  fun_induction endsAtEdge p generalizing cur with
  | case1 =>
    obtain ⟨rfl, hedge⟩ := mem_ways_edge.mp hnext
    exact hedge
  | case2 p q ih =>
    obtain ⟨mid, -, hnext⟩ := List.mem_flatMap.mp hnext
    exact ih h hnext
  | case3 => cases h

end Pattern

/-- **A category is word-like**, apart from a mark: it matches from edge to edge
and does not read the mark. -/
def Category.isWordLike (mark : Char) (c : Category) : Bool :=
  c.pattern.startsAtEdge && c.pattern.endsAtEdge && c.pattern.avoids mark none

/-- A match of a word-like category goes from edge to edge, and the mark is not
in it. -/
theorem Category.isWordEdge_of_isWordLike {c : Category} {mark : Char}
    (h : c.isWordLike mark = true) {text : Text} {offset stop : Nat}
    (hstop : c.stopAt? text offset = some stop) :
    text.isWordEdge offset = true ∧ text.isWordEdge stop = true ∧
      ∀ place, offset ≤ place → place < stop → text.hasAt place mark = false := by
  obtain ⟨hedges, havoids⟩ := Bool.and_eq_true_iff.mp h
  obtain ⟨hstarts, hends⟩ := Bool.and_eq_true_iff.mp hedges
  rw [stopAt?_eq_head?, Option.map_eq_some_iff] at hstop
  obtain ⟨next, hnext, rfl⟩ := hstop
  have hway := List.mem_of_head? hnext
  refine ⟨Pattern.isWordEdge_of_startsAtEdge hstarts hway,
    Pattern.isWordEdge_of_endsAtEdge hends hway, fun place hfrom hto => ?_⟩
  by_contra hmark
  have hspares := Pattern.spares_of_avoids havoids
    (Text.hasAt_iff.mp (Bool.eq_true_of_not_eq_false hmark)) fun _ h => nomatch h
  exact absurd (hspares _ next hway hfrom) (Nat.not_le.mpr hto)

/-! ## Identifiers -/

namespace Builtin

/-- The characters that continue an identifier, as in the headers of functions. -/
def identifierPart : CharSet := .union [.word, .single '$']

/-- An identifier consists of word characters and dollar signs. -/
theorem contains_identifierPart {c : Char} : identifierPart.contains c = true ↔
    CharSet.word.contains c = true ∨ c = '$' := by
  rw [CharSet.contains_word, ← CharSet.contains_single]
  simp [identifierPart, CharSet.union, CharSet.single, CharSet.word, CharSet.ofItems,
    CharSet.contains, CharItem.contains]

/-- **An edge of a word inside an identifier** is next to a dollar sign. -/
theorem hasAt_dollar_of_isWordEdge {text : Text} {start stop offset : Nat}
    (hfills : identifierPart.Fills text start stop) (hstart : start < offset)
    (hstop : offset < stop) (hedge : text.isWordEdge offset = true) :
    text.hasAt (offset - 1) '$' = true ∨ text.hasAt offset '$' = true := by
  -- a character of an identifier that is no word character is a dollar sign
  have hdollar : ∀ place, start ≤ place → place < stop → wordAt text false place = false →
      text.hasAt place '$' = true := by
    intro place hfrom hto hword
    obtain ⟨c, hc, hpart⟩ := hfills place hfrom hto
    obtain hpart | rfl := contains_identifierPart.mp hpart
    · rw [CharSet.wordAt_iff.mpr ⟨c, hc, hpart⟩] at hword
      cases hword
    · exact Text.hasAt_iff.mpr hc
  cases hbefore : wordAt text false (offset - 1) with
  | false => exact .inl (hdollar _ (by omega) (by omega) hbefore)
  | true =>
    refine .inr (hdollar _ (Nat.le_of_lt hstart) hstop ?_)
    have hnonzero : (offset != 0) = true := bne_iff_ne.mpr (Nat.ne_zero_of_lt hstart)
    rw [Text.isWordEdge, Text.wordBefore, hbefore, hnonzero] at hedge
    simpa using hedge

end Builtin

/-- **A token parts identifiers at dollar signs alone**: it holds none, and where it
starts or ends strictly inside an identifier, one stands directly before it or
directly behind it. -/
structure Token.PartsAtDollars (text : Text) (token : Token) : Prop where
  inside : ∀ place, token.span.start ≤ place → place < token.span.stop →
    text.hasAt place '$' = false
  before : ∀ start stop, Builtin.identifierPart.IsRun text start stop →
    start < token.span.start → token.span.start < stop →
      text.hasAt (token.span.start - 1) '$' = true
  behind : ∀ start stop, Builtin.identifierPart.IsRun text start stop →
    start < token.span.stop → token.span.stop < stop →
      text.hasAt token.span.stop '$' = true

/-- **A language parts identifiers at dollar signs alone**, as far as its word-like
categories go. -/
theorem Rule.MadeOf.identifiers {rule : Rule} {categories : List Category}
    (hmade : rule.MadeOf categories) {names : List String}
    (hwords : ∀ c ∈ categories, c.name ∈ names → c.isWordLike '$' = true) (text : Text) :
    ∃ tokens, rule.tokenize text = .ok tokens ∧
      ∀ token ∈ tokens, ∀ name ∈ names, rule.categoryAt? text token.span.start = some name →
        token.PartsAtDollars text := by
  have htokens := hmade.dividesBy.tokenize_eq text
  refine ⟨_, htokens, fun token htoken name hname hcategory => ?_⟩
  obtain ⟨c, hc, rfl, hdeciding⟩ :=
    hmade.dividesBy.exists_deciding?_of_categoryAt? htoken hcategory
  obtain ⟨hstarts, hends, hinside⟩ :=
    Category.isWordEdge_of_isWordLike (hwords c hc hname) (Category.stopAt?_of_deciding? hdeciding)
  have hnonempty := (placedIn_of_tokenize htokens token htoken).nonempty
  refine ⟨hinside, fun start stop hrun hlt hgt => ?_, fun start stop hrun hlt hgt => ?_⟩
  · -- the token itself does not start with a dollar sign
    refine (Builtin.hasAt_dollar_of_isWordEdge hrun.fills hlt hgt hstarts).resolve_right ?_
    exact Bool.eq_false_iff.mp (hinside _ (Nat.le_refl _) hnonempty)
  · -- nor does it end with one
    refine (Builtin.hasAt_dollar_of_isWordEdge hrun.fills hlt hgt hends).resolve_left ?_
    exact Bool.eq_false_iff.mp (hinside _ (Nat.le_sub_one_of_lt hnonempty)
      (Nat.sub_one_lt_of_lt hnonempty))

/-- **Where tokens reach into identifiers.** In Java and JavaScript the keywords,
types and numbers among the tokens part identifiers at dollar signs alone. -/
theorem Registry.builtin_identifiers {rule : Rule} (hrule : rule ∈ builtin.rules)
    (hkey : rule.key ∈ ["java", "javascript"]) (text : Text) :
    ∃ tokens, rule.tokenize text = .ok tokens ∧
      ∀ token ∈ tokens, ∀ name ∈ ["keyword", "type", "number"],
        rule.categoryAt? text token.span.start = some name → token.PartsAtDollars text := by
  obtain rfl | rfl | rfl | rfl | rfl | rfl | rfl | rfl := mem_rules_builtin.mp hrule
  case inl => exact Rule.MadeOf.identifiers (.given _ _ _ _ (by decide)) (by decide) text
  case inr.inr.inl => exact Rule.MadeOf.identifiers (.given _ _ _ _ (by decide)) (by decide) text
  all_goals exact absurd hkey (by decide)

/-- The keyword before the dollar sign of a name. -/
theorem Registry.javaScript_identifiers :
    Builtin.JavaScript.rule ∈ builtin.rules ∧
      Builtin.JavaScript.rule.key ∈ ["java", "javascript"] ∧
      Builtin.identifierPart.IsRun #['(', 'i', 'n', '$', ')'] 1 4 ∧
      ∃ tokens, Builtin.JavaScript.rule.tokenize #['(', 'i', 'n', '$', ')'] = .ok tokens ∧
        ∃ token ∈ tokens, token.span.start = 1 ∧ token.span.stop = 3 ∧
          token.PartsAtDollars #['(', 'i', 'n', '$', ')'] := by
  have hrule : Builtin.JavaScript.rule ∈ builtin.rules := mem_rules_builtin.mpr (by simp)
  have hkey : Builtin.JavaScript.rule.key ∈ ["java", "javascript"] := by decide
  have hevaluated : Builtin.JavaScript.rule.tokenize #['(', 'i', 'n', '$', ')']
      = .ok [⟨⟨1, 3, "keyword", by decide⟩, #['i', 'n']⟩] := by cbv
  have hcategory : Builtin.JavaScript.rule.categoryAt? #['(', 'i', 'n', '$', ')'] 1
      = some "keyword" := by cbv
  obtain ⟨tokens, htokens, hparts⟩ := builtin_identifiers hrule hkey #['(', 'i', 'n', '$', ')']
  rw [hevaluated] at htokens
  cases htokens
  exact ⟨hrule, hkey, by decide, _, hevaluated, _, List.mem_cons_self, rfl, rfl,
    hparts _ List.mem_cons_self "keyword" (by decide) hcategory⟩

/-- **Not every identifier is left untagged as a whole**: in `$this` the end of the
name is a keyword. -/
theorem Registry.not_forall_keepsWhole :
    ¬ ∀ (rule : Rule) (text : Text) (tokens : List Token), rule ∈ builtin.rules →
      rule.key ∈ ["java", "javascript"] → rule.tokenize text = .ok tokens →
      ∀ token ∈ tokens, ∀ name ∈ ["keyword", "type", "number"],
        rule.categoryAt? text token.span.start = some name →
        ∀ start stop, Builtin.identifierPart.IsRun text start stop →
          ¬ (start < token.span.start ∧ token.span.start < stop) ∧
          ¬ (start < token.span.stop ∧ token.span.stop < stop) := by
  intro h
  have hevaluated : Builtin.Java.rule.tokenize #['$', 't', 'h', 'i', 's']
      = .ok [⟨⟨1, 5, "keyword", by decide⟩, #['t', 'h', 'i', 's']⟩] := by cbv
  have hcategory : Builtin.Java.rule.categoryAt? #['$', 't', 'h', 'i', 's'] 1
      = some "keyword" := by cbv
  exact (h Builtin.Java.rule _ _ (mem_rules_builtin.mpr (by simp)) (by decide) hevaluated _
    List.mem_cons_self "keyword" (by decide) hcategory 0 5 (by decide)).1 (by decide)

end SourceLens
