import Mathlib
import SourceLens.Proofs.Language.Literals

/-!
# Closed literals

A literal that is closed is one token from its opener to the delimiter that
closes it, whatever stands in between: other quotes, openers of comments,
delimiters that are escaped or doubled (`Registry.builtin_closedLiteral`).

Which delimiter closes a literal depends on how it may hold one. In most
literals a backslash escapes the character after it; in those of SQL and in the
verbatim strings of C#, two delimiters stand for one (`LiteralStyle.ClosesAt`).
Both are read in pieces without a choice. With doubled delimiters there is one
more thing to see: the first of a pair could close the literal too. The
repetition is greedy, so it takes the pair, and only goes back if nothing closes
the literal behind it (`Pattern.head?_flatMap_moreWays_of_reaches`).
-/

namespace SourceLens

/-! ## Doubled delimiters -/

namespace Text

/-- **The second of two delimiters that stand for one**, in a literal whose
characters start at `start`: a delimiter with another one before it, which is not
the second of two itself. -/
def isDoubled (text : Text) (delimiter : Char) (start : Nat) : Nat → Bool
  | 0 => false
  | offset + 1 => start ≤ offset && text.hasAt offset delimiter &&
      text.hasAt (offset + 1) delimiter && !isDoubled text delimiter start offset

/-- **A piece of a literal with doubled delimiters**: another character, or two
delimiters. -/
inductive IsDoubledPiece (text : Text) (delimiter : Char) : Nat → Nat → Prop where
  | plain {offset : Nat} {c : Char} (hc : text[offset]? = some c) (hdelimiter : c ≠ delimiter) :
      IsDoubledPiece text delimiter offset (offset + 1)
  | pair {offset : Nat} (hfirst : text[offset]? = some delimiter)
      (hsecond : text[offset + 1]? = some delimiter) :
      IsDoubledPiece text delimiter offset (offset + 2)

variable {text : Text} {delimiter : Char} {start offset stop : Nat}

theorem IsDoubledPiece.lt (h : text.IsDoubledPiece delimiter start stop) : start < stop := by
  cases h <;> omega

/-- **A literal in which every delimiter is one of two is read in pieces** up to
every offset that does not part a pair. The induction goes back from the offset,
by one character or by a pair. -/
theorem reaches_of_isDoubled_eq_false (hle : start ≤ offset) (hin : offset ≤ text.size)
    (hpaired : ∀ before, start ≤ before → before < offset → text.hasAt before delimiter = true →
      text.isDoubled delimiter start before = false → text.hasAt (before + 1) delimiter = true)
    (hwhole : text.isDoubled delimiter start offset = false) :
    Relation.ReflTransGen (text.IsDoubledPiece delimiter) start offset := by
  induction offset using Nat.strong_induction_on with
  | _ offset ih =>
    obtain rfl | hlt := Nat.eq_or_lt_of_le hle
    · exact .refl
    obtain ⟨last, rfl⟩ := Nat.exists_eq_succ_of_ne_zero (Nat.ne_zero_of_lt hlt)
    have hlast : text[last]? = some text[last] := Array.getElem?_eq_getElem hin
    have hfrom : start ≤ last := Nat.le_of_lt_succ hlt
    have hsofar {before : Nat} (hbefore : before ≤ last) :=
      fun place hle hlt => hpaired place hle (Nat.lt_of_lt_of_le hlt (Nat.le_succ_of_le hbefore))
    cases hsecond : text.isDoubled delimiter start last with
    | false =>
      -- the last character is no delimiter, or it would be the first of a pair
      have hdelimiter : text[last] ≠ delimiter := by
        intro heq
        have hat : text.hasAt last delimiter = true := hasAt_iff.mpr (heq ▸ hlast)
        have hnext := hpaired last hfrom (Nat.lt_succ_self last) hat hsecond
        rw [isDoubled, hat, hnext, hsecond, decide_eq_true hfrom] at hwhole
        cases hwhole
      exact (ih last (Nat.lt_succ_self last) hfrom (Nat.le_of_succ_le hin)
        (hsofar (Nat.le_refl last)) hsecond).tail (.plain hlast hdelimiter)
    | true =>
      -- the last character and the one before it are a pair
      cases last with
      | zero => cases hsecond
      | succ place =>
        rw [isDoubled, Bool.and_eq_true, Bool.and_eq_true, Bool.and_eq_true, decide_eq_true_eq,
          Bool.not_eq_true'] at hsecond
        obtain ⟨⟨⟨hplace, hfirst⟩, hsecond⟩, hfree⟩ := hsecond
        exact (ih place (by omega) hplace (by omega) (hsofar (Nat.le_succ place)) hfree).tail
          (.pair (hasAt_iff.mp hfirst) (hasAt_iff.mp hsecond))

end Text

/-! ## The pattern of a string with doubled delimiters -/

namespace Builtin

open Pattern

variable {text : Text} {delimiter : Char}

/-- The pattern of a piece of a literal with doubled delimiters. -/
def doubledPiece (delimiter : Char) : Pattern :=
  choice [outside [.single delimiter], concat [only delimiter, only delimiter]]

/-- A character is a piece by itself if it is not the delimiter. -/
theorem contains_outside_single {c : Char} :
    (CharSet.union [.single delimiter]).compl.contains c = true ↔ c ≠ delimiter := by
  rw [CharSet.contains_compl, Bool.not_eq_true', Bool.eq_false_iff]
  exact not_congr CharSet.contains_single

/-- The pattern of a piece reads the piece that stands in the text. -/
theorem ways_doubledPiece {cur : Cursor} {stop : Nat}
    (h : text.IsDoubledPiece delimiter cur.offset stop) :
    ways text (doubledPiece delimiter) cur = [cur.move stop] := by
  show ways text (outside [.single delimiter]) cur
    ++ ways text (concat [only delimiter, only delimiter]) cur = _
  have hset {c : Char} : (CharSet.union [.single delimiter]).compl.contains c = true ↔
      c ≠ delimiter := contains_outside_single
  generalize hoffset : cur.offset = offset at h
  cases h with
  | plain hc hdelimiter =>
    rw [outside, ways, hoffset, hc, ways_concat_cons, only, ways, hoffset, hc]
    dsimp only
    rw [if_pos (hset.mpr hdelimiter), if_neg fun h => hdelimiter (CharSet.contains_single.mp h)]
    rfl
  | pair hfirst hsecond =>
    rw [outside, ways, hoffset, hfirst, ways_concat_cons, only, ways, hoffset, hfirst]
    dsimp only
    rw [if_neg fun h => hset.mp h rfl, if_pos (CharSet.contains_single.mpr rfl),
      List.flatMap_singleton, List.nil_append]
    show ways text (.char (.single delimiter)) (cur.move (offset + 1)) = _
    rw [ways, Cursor.offset_move, hsecond]
    dsimp only
    rw [if_pos (CharSet.contains_single.mpr rfl), Cursor.move_move]

/-- The pattern of a piece reads nothing else. -/
theorem ways_doubledPiece_eq_nil {cur : Cursor}
    (h : ∀ stop, ¬ text.IsDoubledPiece delimiter cur.offset stop) :
    ways text (doubledPiece delimiter) cur = [] := by
  rw [List.eq_nil_iff_forall_not_mem]
  intro next hnext
  obtain hnext | hnext := List.mem_append.mp hnext
  · obtain ⟨c, hc, hset, -⟩ := exists_of_mem_ways_char hnext
    exact h _ (.plain hc (contains_outside_single.mp hset))
  · obtain ⟨mid, hmid, hnext⟩ := List.mem_flatMap.mp hnext
    obtain ⟨c, hc, hfirst, rfl⟩ := exists_of_mem_ways_char hmid
    obtain ⟨d, hd, hsecond, -⟩ := exists_of_mem_ways_char hnext
    rw [CharSet.contains_single.mp hfirst] at hc
    rw [CharSet.contains_single.mp hsecond] at hd
    exact h _ (.pair hc hd)

/-- A delimiter closes its literal, where it is asked for. -/
theorem ways_closing_of_hasAt {cur : Cursor} (h : text[cur.offset]? = some delimiter) :
    ways text (closing delimiter) cur = [cur.move (cur.offset + 1)] := by
  obtain ⟨hlt, -⟩ := Array.getElem?_eq_some_iff.mp h
  have hnotEnd : Anchor.textEnd.holds text cur.offset = false :=
    beq_false_of_ne (Nat.ne_of_lt hlt)
  show ways text (only delimiter) cur ++ ways text textEnd cur = _
  rw [only, ways, h, textEnd, ways, hnotEnd]
  dsimp only
  rw [if_pos (CharSet.contains_single.mpr rfl), if_neg Bool.false_ne_true, List.append_nil]

end Builtin

/-! ## Styles of literals -/

/-- **A style of literals**, by its opener, which ends in a delimiter. -/
inductive LiteralStyle where
  /-- A backslash escapes the character after it. -/
  | escaped (opener : String) (delimiter : Char)
  /-- Two delimiters stand for one. -/
  | doubled (opener : String) (delimiter : Char)
  deriving DecidableEq, Repr

namespace LiteralStyle

open Pattern

/-- What a literal starts with. -/
def opener : LiteralStyle → String
  | .escaped opener _ | .doubled opener _ => opener

/-- What closes a literal. -/
def delimiter : LiteralStyle → Char
  | .escaped _ delimiter | .doubled _ delimiter => delimiter

/-- A delimiter of the literal whose characters start at `start` is only one of
its characters: it is escaped, or it is one of two. -/
def isHeld (style : LiteralStyle) (text : Text) (start offset : Nat) : Bool :=
  match style with
  | .escaped _ _ => text.isEscaped start offset
  | .doubled _ delimiter =>
    text.isDoubled delimiter start offset || text.hasAt (offset + 1) delimiter

/-- **The literal closes at an offset**, if it has not been closed before: behind
its opener a delimiter stands there that is not held. -/
def ClosesAt (style : LiteralStyle) (text : Text) (opening offset : Nat) : Prop :=
  opening + style.opener.length ≤ offset ∧ text.hasAt offset style.delimiter = true ∧
    style.isHeld text (opening + style.opener.length) offset = false

instance (style : LiteralStyle) (text : Text) (opening offset : Nat) :
    Decidable (style.ClosesAt text opening offset) :=
  inferInstanceAs (Decidable (_ ∧ _ ∧ _))

/-- What follows the opener: the pieces of the literal, and what closes it. -/
def rest : LiteralStyle → Pattern
  | .escaped _ delimiter => concat [(Builtin.piece delimiter).star, Builtin.closing delimiter]
  | .doubled _ delimiter =>
    concat [(Builtin.doubledPiece delimiter).star, Builtin.closing delimiter]

variable {text : Text} {style : LiteralStyle} {opening place : Nat}

/-- A literal with escapes goes on up to the first delimiter that is not
escaped. -/
theorem head?_ways_rest_escaped {opener : String} {delimiter : Char} (hdelimiter : delimiter ≠ '\\')
    (hcloses : IsLeast {offset | (escaped opener delimiter).ClosesAt text opening offset} place)
    {cur : Cursor} (hcur : cur.offset = opening + opener.length) :
    (ways text (escaped opener delimiter).rest cur).head? = some (cur.move (place + 1)) := by
  obtain ⟨⟨hfrom, hat, hfree⟩, hfirst⟩ := hcloses
  have hat' : text[place]? = some delimiter := Text.hasAt_iff.mp hat
  obtain ⟨hlt, -⟩ := Array.getElem?_eq_some_iff.mp hat'
  have hpieces : Relation.ReflTransGen (text.IsPiece delimiter) cur.offset place := by
    rw [hcur]
    refine Text.reaches_of_isEscaped_eq_false hfrom (Nat.le_of_lt hlt) ?_ hfree
    intro before hle hbefore hdelimiter
    by_contra hnot
    exact absurd (hfirst ⟨hle, hdelimiter, Bool.eq_false_iff.mpr hnot⟩) (Nat.not_le.mpr hbefore)
  have hstop : ∀ next, ¬ text.IsPiece delimiter place next := by
    rintro next (⟨hc, hne, -⟩ | ⟨hc, -⟩)
    · exact hne (Option.some.inj (hc.symm.trans hat'))
    · exact hdelimiter (Option.some.inj (hat'.symm.trans hc))
  rw [rest, Builtin.ways_pieces hdelimiter hpieces hstop (Nat.le_of_lt hlt),
    Builtin.ways_closing_of_hasAt hat']
  rfl

/-- A literal with doubled delimiters goes on up to the first one that stands
alone. -/
theorem head?_ways_rest_doubled {opener : String} {delimiter : Char}
    (hcloses : IsLeast {offset | (doubled opener delimiter).ClosesAt text opening offset} place)
    {cur : Cursor} (hcur : cur.offset = opening + opener.length) :
    (ways text (doubled opener delimiter).rest cur).head? = some (cur.move (place + 1)) := by
  obtain ⟨⟨hfrom, hat, hfree⟩, hfirst⟩ := hcloses
  obtain ⟨hwhole, halone⟩ := Bool.or_eq_false_iff.mp hfree
  have hat' : text[place]? = some delimiter := Text.hasAt_iff.mp hat
  obtain ⟨hlt, -⟩ := Array.getElem?_eq_some_iff.mp hat'
  have hpieces : Relation.ReflTransGen (text.IsDoubledPiece delimiter) cur.offset place := by
    rw [hcur]
    refine Text.reaches_of_isDoubled_eq_false hfrom (Nat.le_of_lt hlt) ?_ hwhole
    intro before hle hbefore hdelimiter hsingle
    by_contra hnot
    have hheld := Bool.or_eq_false_iff.mpr ⟨hsingle, Bool.eq_false_iff.mpr hnot⟩
    exact absurd (hfirst ⟨hle, hdelimiter, hheld⟩) (Nat.not_le.mpr hbefore)
  have hstop : ∀ next, ¬ text.IsDoubledPiece delimiter place next := by
    rintro next (⟨hc, hne⟩ | ⟨-, hsecond⟩)
    · exact hne (Option.some.inj (hc.symm.trans hat'))
    · rw [Text.hasAt_iff.mpr hsecond] at halone
      cases halone
  have hclosing : ways text (Builtin.closing delimiter) (cur.move place)
      = [cur.move (place + 1)] := Builtin.ways_closing_of_hasAt hat'
  rw [rest, ways_concat_cons]
  show ((ways text (.repeated (Builtin.doubledPiece delimiter) 0 none true)
    (cur.move cur.offset)).flatMap (ways text (Builtin.closing delimiter))).head? = _
  rw [ways, exactlyWays, List.flatMap_singleton]
  refine head?_flatMap_moreWays_of_reaches
    (fun a b hpiece => ⟨hpiece.lt, Builtin.ways_doubledPiece hpiece⟩) hpieces
    (Builtin.ways_doubledPiece_eq_nil hstop) hclosing ?_
  rw [Cursor.offset_move]
  omega

/-- **A literal goes on behind the delimiter that closes it**, and no further. -/
theorem head?_ways_rest (hdelimiter : style.delimiter ≠ '\\')
    (hcloses : IsLeast {offset | style.ClosesAt text opening offset} place) {cur : Cursor}
    (hcur : cur.offset = opening + style.opener.length) :
    (ways text style.rest cur).head? = some (cur.move (place + 1)) := by
  cases style with
  | escaped opener delimiter => exact head?_ways_rest_escaped hdelimiter hcloses hcur
  | doubled opener delimiter => exact head?_ways_rest_doubled hcloses hcur

end LiteralStyle

/-! ## Closed literals among the tokens -/

namespace Category

/-- **Some categories read the literals of a style**: where its opener stands one
category alone does not shun the first character; it gives strings, and goes on
behind the opener as the style says. -/
structure ReadsStyle (categories : List Category) (style : LiteralStyle) (strings : Category) :
    Prop where
  alone : ∃ first others, style.opener.toList = first :: others ∧
    categories.filter (fun c => !c.pattern.shuns first) = [strings]
  tag : strings.tag = "string"
  opened : ∀ (text : Text) (cur : Cursor), text.StandsAt style.opener cur.offset →
    strings.pattern.ways text cur
      = style.rest.ways text (cur.move (cur.offset + style.opener.length))
  delimiter : style.delimiter ≠ '\\'

variable {categories : List Category} {strings : Category} {text : Text} {offset place : Nat}

/-- Where a literal opens that is closed, its category decides, and its match
ends behind the delimiter that closes the literal. -/
theorem ReadsStyle.deciding?_of_closes {style : LiteralStyle}
    (h : ReadsStyle categories style strings) (hopens : text.StandsAt style.opener offset)
    (hcloses : IsLeast {place | style.ClosesAt text offset place} place) :
    deciding? categories text offset = some (strings, place + 1) := by
  obtain ⟨first, others, hopener, halone⟩ := h.alone
  have hhead : (strings.pattern.ways text (.start offset)).head?
      = some (Cursor.start (place + 1)) := by
    rw [h.opened text (.start offset) hopens]
    exact LiteralStyle.head?_ways_rest h.delimiter hcloses rfl
  rw [deciding?_of_alone (hopens.first hopener) halone, hhead]
  rfl

/-- Categories that read a literal with escapes, opened by its delimiter, read
the style of these literals. -/
theorem ReadsLiteral.readsStyle {delimiter : Char}
    (h : ReadsLiteral categories delimiter strings) :
    ReadsStyle categories (.escaped (.singleton delimiter) delimiter) strings := by
  refine ⟨⟨delimiter, [], String.toList_singleton delimiter, h.alone⟩, h.tag,
    fun text cur hopens => ?_, h.delimiter⟩
  have hat : text[cur.offset]? = some delimiter :=
    hopens.first (String.toList_singleton delimiter)
  rw [h.quoted text cur hat, Builtin.ways_quotedString_of_hasAt hat, LiteralStyle.opener,
    String.length_singleton]
  rfl

end Category

/-- **A language gives a closed literal as one string**, if its categories read
literals of this style and no token covers the opener. -/
theorem Rule.MadeOf.closedLiteral {rule : Rule} {categories : List Category}
    (hmade : rule.MadeOf categories) {style : LiteralStyle} {strings : Category}
    (h : Category.ReadsStyle categories style strings) {text : Text} {offset place : Nat}
    (hopens : text.StandsAt style.opener offset)
    (hcloses : IsLeast {place | style.ClosesAt text offset place} place) :
    ∃ tokens, rule.tokenize text = .ok tokens ∧
      (IsFreeAt tokens offset → HasSoleToken tokens offset (place + 1) "string") := by
  have htokens := hmade.dividesBy.tokenize_eq text
  have hdeciding := h.deciding?_of_closes hopens hcloses
  obtain ⟨hfrom, hat, -⟩ := hcloses.1
  have hplace := Text.lt_size_of_hasAt hat
  refine ⟨_, htokens, fun hfree => h.tag ▸ ?_⟩
  exact Category.hasSoleToken_of_deciding? htokens hdeciding (by omega) (by omega) hfree

/-! ## The built-in languages -/

/-- The styles of the literals of a built-in language, by its key. -/
def Builtin.literalStyles (key : String) : List LiteralStyle :=
  (delimiters key).map (fun delimiter => .escaped (.singleton delimiter) delimiter) ++
    match key with
    | "csharp" => [.escaped "$\"" '"', .doubled "@\"" '"']
    | "sql" => [.doubled "'" '\'']
    | _ => []

namespace Builtin

open Pattern

variable {text : Text}

/-- A string with doubled delimiters goes on behind its opener. -/
theorem ways_doubledString {opener : String} {delimiter : Char} {cur : Cursor}
    (hopens : text.StandsAt opener cur.offset) :
    ways text (doubledString opener delimiter) cur
      = (LiteralStyle.doubled opener delimiter).rest.ways text
          (cur.move (cur.offset + opener.length)) := by
  rw [doubledString, ways_concat_literal hopens]
  rfl

/-- A character that may be there and stands there is read first, and left alone
second. -/
theorem ways_opt_only_of_hasAt {c : Char} {cur : Cursor} (hc : text[cur.offset]? = some c) :
    ways text (only c).opt cur = [cur.move (cur.offset + 1), cur] := by
  obtain ⟨hlt, -⟩ := Array.getElem?_eq_some_iff.mp hc
  have hroom : min (text.size - cur.offset) (1 - 0) = 1 := by omega
  have hset : (CharSet.single c).contains c = true := CharSet.contains_single.mpr rfl
  show charsWays text (.single c) 0 (some 1) true cur = _
  unfold charsWays charsLeft
  simp [runEnd, hroom, hc, hset, List.range']
  rfl

/-- Where a dollar sign stands before the quote of a literal, the literal goes on
behind both. -/
theorem ways_dollarString_of_standsAt {cur : Cursor} (hopens : text.StandsAt "$\"" cur.offset) :
    ways text (concat [(only '$').opt, quotedString '"']) cur
      = (LiteralStyle.escaped "$\"" '"').rest.ways text (cur.move (cur.offset + 2)) := by
  have hstands : ['$', '"'] <+: text.toList.drop cur.offset := hopens
  obtain ⟨hdollar, hbehind⟩ := Text.cons_prefix_drop.mp hstands
  have hquote : text[(cur.move (cur.offset + 1)).offset]? = some '"' :=
    (Text.cons_prefix_drop.mp hbehind).1
  -- without the dollar sign, the quote would have to stand in its place
  have hnothing : ways text (quotedString '"') cur = [] :=
    ways_eq_nil_of_shuns (by decide) hdollar
  rw [ways_concat_cons, ways_opt_only_of_hasAt hdollar, List.flatMap_cons, List.flatMap_singleton]
  show ways text (quotedString '"') (cur.move (cur.offset + 1)) ++ ways text (quotedString '"') cur
    = _
  rw [hnothing, List.append_nil, ways_quotedString_of_hasAt hquote]
  rfl

end Builtin

/-- The categories of the built-in languages read the styles of their
literals. -/
theorem Registry.exists_readsStyle {rule : Rule} (hrule : rule ∈ builtin.rules)
    {style : LiteralStyle} (hstyle : style ∈ Builtin.literalStyles rule.key) :
    ∃ categories strings, rule.MadeOf categories ∧
      Category.ReadsStyle categories style strings := by
  obtain hstyle | hstyle := List.mem_append.mp hstyle
  · obtain ⟨delimiter, hdelimiter, rfl⟩ := List.mem_map.mp hstyle
    obtain ⟨categories, strings, hmade, hreads⟩ := exists_readsLiteral hrule hdelimiter
    exact ⟨categories, strings, hmade, hreads.readsStyle⟩
  · obtain rfl | rfl | rfl | rfl | rfl | rfl | rfl | rfl := mem_rules_builtin.mp hrule
    case inr.inr.inr.inr.inr.inl =>
      obtain rfl | rfl := List.mem_pair.mp hstyle
      · refine ⟨_, ⟨"string", "string", _⟩, .given _ _ _ _ (by decide),
          ⟨'$', ['"'], rfl, by rfl⟩, rfl, fun text cur hopens => ?_, by decide⟩
        have hdollar : text[cur.offset]? = some '$' := hopens.first rfl
        exact (Pattern.ways_choice_of_filter hdollar rfl).trans
          (Builtin.ways_dollarString_of_standsAt hopens)
      · refine ⟨_, ⟨"string", "string", _⟩, .given _ _ _ _ (by decide),
          ⟨'@', ['"'], rfl, by rfl⟩, rfl, fun text cur hopens => ?_, by decide⟩
        have hsign : text[cur.offset]? = some '@' := hopens.first rfl
        exact (Pattern.ways_choice_of_filter hsign rfl).trans (Builtin.ways_doubledString hopens)
    case inr.inr.inr.inr.inr.inr.inl =>
      obtain rfl := List.mem_singleton.mp hstyle
      exact ⟨_, ⟨"string", "string", _⟩, .given _ _ _ _ (by decide), ⟨'\'', [], rfl, by rfl⟩, rfl,
        fun text cur hopens => Builtin.ways_doubledString hopens, by decide⟩
    all_goals cases hstyle

/-- **A literal that is closed is one string**, from its opener to the delimiter
that closes it. In the built-in languages, where an opener stands that no token
has covered, a string starts and ends right behind the first delimiter that is
neither escaped nor one of two, as the style of the literal has it; and no other
token overlaps it. -/
theorem Registry.builtin_closedLiteral {rule : Rule} (hrule : rule ∈ builtin.rules)
    {style : LiteralStyle} (hstyle : style ∈ Builtin.literalStyles rule.key) {text : Text}
    {offset place : Nat} (hopens : text.StandsAt style.opener offset)
    (hcloses : IsLeast {place | style.ClosesAt text offset place} place) :
    ∃ tokens, rule.tokenize text = .ok tokens ∧
      (IsFreeAt tokens offset → HasSoleToken tokens offset (place + 1) "string") := by
  obtain ⟨categories, strings, hmade, hreads⟩ := exists_readsStyle hrule hstyle
  exact hmade.closedLiteral hreads hopens hcloses

/-- A verbatim string that starts with a pair of quotes and holds the opener of a
comment. -/
theorem Registry.cSharp_closedLiteral :
    Builtin.CSharp.rule ∈ builtin.rules ∧
      LiteralStyle.doubled "@\"" '"' ∈ Builtin.literalStyles Builtin.CSharp.rule.key ∧
      Text.StandsAt #['@', '"', '"', '"', '/', '/', '"', ';'] "@\"" 0 ∧
      IsLeast {place | (LiteralStyle.doubled "@\"" '"').ClosesAt
        #['@', '"', '"', '"', '/', '/', '"', ';'] 0 place} 6 ∧
      ∃ tokens,
        Builtin.CSharp.rule.tokenize #['@', '"', '"', '"', '/', '/', '"', ';'] = .ok tokens ∧
        HasSoleToken tokens 0 7 "string" := by
  have hrule : Builtin.CSharp.rule ∈ builtin.rules := mem_rules_builtin.mpr (by simp)
  have hstyle : LiteralStyle.doubled "@\"" '"' ∈ Builtin.literalStyles Builtin.CSharp.rule.key := by
    decide
  have hopens : Text.StandsAt #['@', '"', '"', '"', '/', '/', '"', ';'] "@\"" 0 := by decide
  have hbefore : ∀ place < 6, ¬ (LiteralStyle.doubled "@\"" '"').ClosesAt
      #['@', '"', '"', '"', '/', '/', '"', ';'] 0 place := by decide
  have hcloses : IsLeast {place | (LiteralStyle.doubled "@\"" '"').ClosesAt
      #['@', '"', '"', '"', '/', '/', '"', ';'] 0 place} 6 := by
    refine ⟨by decide, fun place hplace => ?_⟩
    by_contra hlt
    exact hbefore place (Nat.not_le.mp hlt) hplace
  obtain ⟨tokens, htokens, hliteral⟩ := builtin_closedLiteral hrule hstyle hopens hcloses
  -- nothing starts before the text
  exact ⟨hrule, hstyle, hopens, hcloses, tokens, htokens,
    hliteral fun token _ hlt => absurd hlt (Nat.not_lt_zero _)⟩

end SourceLens
