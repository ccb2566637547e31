import Mathlib
import SourceLens.Proofs.Language.Categories
import SourceLens.Proofs.Token.Deciding

/-!
# Literals

A quoted literal is read piece by piece: a character by itself, or a backslash
with the character after it, which it escapes. The pattern of a quoted string
leaves no choice in this – from every place at most one piece can be read – so
it matches as far as the pieces go, and then needs the delimiter or the end of
the text (`Builtin.ways_quotedString`).

A literal that is never closed therefore reaches to the end of the text
(`Registry.builtin_openLiteral`), with one exception. If the text ends in the
middle of an escape, its last backslash has no character to escape: the pieces
stop in front of it, where neither the delimiter nor the end of the text
follows, and the delimiter that opens the literal is not recognised at all.
Whatever stands behind it is then divided as if it were in no literal
(`Registry.not_forall_keepsOpenLiteral`).
-/

namespace SourceLens

/-! ## Escapes -/

namespace Text

/-- **A character is escaped** in a literal whose characters start at `start`: a
backslash of the literal stands before it, which is not escaped itself. -/
def isEscaped (text : Text) (start : Nat) : Nat → Bool
  | 0 => false
  | offset + 1 => start ≤ offset && text.hasAt offset '\\' && !isEscaped text start offset

/-- **The literal closes at an offset**: its delimiter stands there and is not
escaped. The literal has been opened at `opening`. -/
def ClosesAt (text : Text) (delimiter : Char) (opening offset : Nat) : Prop :=
  opening < offset ∧ text.hasAt offset delimiter = true ∧
    text.isEscaped (opening + 1) offset = false

instance (text : Text) (delimiter : Char) (opening offset : Nat) :
    Decidable (text.ClosesAt delimiter opening offset) :=
  inferInstanceAs (Decidable (_ ∧ _ ∧ _))

/-- **A piece of a literal**: a character that is neither its delimiter nor a
backslash, or a backslash and the character after it. -/
inductive IsPiece (text : Text) (delimiter : Char) : Nat → Nat → Prop where
  | plain {offset : Nat} {c : Char} (hc : text[offset]? = some c) (hdelimiter : c ≠ delimiter)
      (hbackslash : c ≠ '\\') : IsPiece text delimiter offset (offset + 1)
  | escape {offset : Nat} {c : Char} (hbackslash : text[offset]? = some '\\')
      (hc : text[offset + 1]? = some c) : IsPiece text delimiter offset (offset + 2)

variable {text : Text} {delimiter : Char} {start offset stop : Nat}

/-- A literal closes in its text. -/
theorem ClosesAt.lt_size {opening : Nat} (h : text.ClosesAt delimiter opening offset) :
    offset < text.size :=
  lt_size_of_hasAt h.2.1

theorem IsPiece.lt (h : text.IsPiece delimiter start stop) : start < stop := by
  cases h <;> omega

/-- **A literal without a delimiter is read in pieces** up to every offset that
is not escaped. The induction goes back from the offset, by one character or by
an escape. -/
theorem reaches_of_isEscaped_eq_false (hle : start ≤ offset) (hin : offset ≤ text.size)
    (hopen : ∀ before, start ≤ before → before < offset → text.hasAt before delimiter = true →
      text.isEscaped start before = true)
    (hescaped : text.isEscaped start offset = false) :
    Relation.ReflTransGen (text.IsPiece delimiter) start offset := by
  induction offset using Nat.strong_induction_on with
  | _ offset ih =>
    obtain rfl | hlt := Nat.eq_or_lt_of_le hle
    · exact .refl
    obtain ⟨last, rfl⟩ := Nat.exists_eq_succ_of_ne_zero (Nat.ne_zero_of_lt hlt)
    have hlast : text[last]? = some text[last] := Array.getElem?_eq_getElem hin
    have hfrom : start ≤ last := Nat.le_of_lt_succ hlt
    have hsofar {before : Nat} (hbefore : before ≤ last) :=
      fun place hle hlt => hopen place hle (Nat.lt_of_lt_of_le hlt (Nat.le_succ_of_le hbefore))
    cases hplain : text.isEscaped start last with
    | false =>
      -- the last character is a piece by itself
      have hbackslash : text[last] ≠ '\\' := by
        intro heq
        rw [isEscaped, hplain, decide_eq_true hfrom, hasAt_iff.mpr (heq ▸ hlast)] at hescaped
        cases hescaped
      have hdelimiter : text[last] ≠ delimiter := by
        intro heq
        rw [hopen last hfrom (Nat.lt_succ_self last) (hasAt_iff.mpr (heq ▸ hlast))] at hplain
        cases hplain
      exact (ih last (Nat.lt_succ_self last) hfrom (Nat.le_of_succ_le hin)
        (hsofar (Nat.le_refl last)) hplain).tail (.plain hlast hdelimiter hbackslash)
    | true =>
      -- the last character belongs to the backslash before it
      cases last with
      | zero => cases hplain
      | succ place =>
        rw [isEscaped, Bool.and_eq_true, Bool.and_eq_true, decide_eq_true_eq,
          Bool.not_eq_true'] at hplain
        obtain ⟨⟨hplace, hbackslash⟩, hfree⟩ := hplain
        exact (ih place (by omega) hplace (by omega) (hsofar (Nat.le_succ place)) hfree).tail
          (.escape (hasAt_iff.mp hbackslash) hlast)

end Text

/-! ## The pattern of a quoted string -/

namespace Pattern

variable {text : Text}

/-- **A greedy repetition without a choice** goes on as far as it can; its other
ways stop after one of the rounds before. -/
theorem exists_moreWays_eq_cons {body : Cursor → List Cursor} {cur : Cursor}
    {round : Nat → Nat → Prop}
    (hround : ∀ a b, round a b → a < b ∧ body (cur.move a) = [cur.move b])
    {start stop : Nat} (h : Relation.ReflTransGen round start stop)
    (hstop : body (cur.move stop) = []) {steps : Nat} (hsteps : stop < start + steps) :
    ∃ before, moreWays body true steps none (cur.move start) = cur.move stop :: before ∧
      ∀ way ∈ before, ∃ a b, round a b ∧ way = cur.move a := by
  have hle : ∀ {a}, Relation.ReflTransGen round a stop → a ≤ stop := by
    intro a ha
    induction ha using Relation.ReflTransGen.head_induction_on with
    | refl => exact Nat.le_refl _
    | head hfirst _ ih => exact Nat.le_trans (Nat.le_of_lt (hround _ _ hfirst).1) ih
  induction h using Relation.ReflTransGen.head_induction_on generalizing steps with
  | refl =>
    cases steps with
    | zero => exact absurd hsteps (Nat.lt_irrefl _)
    | succ steps =>
      refine ⟨[], ?_, fun way hway => absurd hway List.not_mem_nil⟩
      rw [moreWays]
      simp [hstop]
  | @head a b hfirst hrest ih =>
    obtain ⟨hlt, hbody⟩ := hround a b hfirst
    have hb := hle hrest
    cases steps with
    | zero => omega
    | succ steps =>
      have hmoves : ((cur.move b).offset == (cur.move a).offset) = false :=
        beq_false_of_ne (Nat.ne_of_gt hlt)
      obtain ⟨before, hways, hbefore⟩ :
          ∃ before, moreWays body true steps none (cur.move b) = cur.move stop :: before ∧
            ∀ way ∈ before, ∃ a b, round a b ∧ way = cur.move a := ih (by omega)
      refine ⟨before ++ [cur.move a], ?_, fun way hway => ?_⟩
      · rw [moreWays, hbody]
        rw [if_pos rfl, List.flatMap_singleton, hmoves]
        show moreWays body true steps none (cur.move b) ++ [cur.move a] = _
        rw [hways, List.cons_append]
      · obtain hway | hway := List.mem_append.mp hway
        · exact hbefore way hway
        · exact ⟨a, b, hfirst, List.mem_singleton.mp hway⟩

/-- If what comes after the repetition matches nowhere before, only the last
place counts. -/
theorem flatMap_moreWays_of_reaches {body after : Cursor → List Cursor} {cur : Cursor}
    {round : Nat → Nat → Prop}
    (hround : ∀ a b, round a b → a < b ∧ body (cur.move a) = [cur.move b] ∧ after (cur.move a) = [])
    {start stop : Nat} (h : Relation.ReflTransGen round start stop)
    (hstop : body (cur.move stop) = []) {steps : Nat} (hsteps : stop < start + steps) :
    (moreWays body true steps none (cur.move start)).flatMap after = after (cur.move stop) := by
  obtain ⟨before, hways, hbefore⟩ := exists_moreWays_eq_cons
    (fun a b hab => ⟨(hround a b hab).1, (hround a b hab).2.1⟩) h hstop hsteps
  have hnothing : before.flatMap after = [] := by
    refine List.flatMap_eq_nil_iff.mpr fun way hway => ?_
    obtain ⟨a, b, hab, rfl⟩ := hbefore way hway
    exact (hround a b hab).2.2
  rw [hways, List.flatMap_cons, hnothing, List.append_nil]

/-- If what comes after the repetition matches at the last place, it matches
there first. -/
theorem head?_flatMap_moreWays_of_reaches {body after : Cursor → List Cursor} {cur : Cursor}
    {round : Nat → Nat → Prop}
    (hround : ∀ a b, round a b → a < b ∧ body (cur.move a) = [cur.move b])
    {start stop : Nat} (h : Relation.ReflTransGen round start stop)
    (hstop : body (cur.move stop) = []) {first : Cursor} {others : List Cursor}
    (hafter : after (cur.move stop) = first :: others) {steps : Nat}
    (hsteps : stop < start + steps) :
    ((moreWays body true steps none (cur.move start)).flatMap after).head? = some first := by
  obtain ⟨before, hways, -⟩ := exists_moreWays_eq_cons hround h hstop hsteps
  rw [hways, List.flatMap_cons, hafter]
  rfl

/-- A run that need not read anything stays where a character stands that is
not in its set. -/
theorem ways_chars_of_contains_eq_false {set : CharSet} {most : Option Nat} {greedy : Bool}
    {cur : Cursor} {c : Char} (hc : text[cur.offset]? = some c) (hset : set.contains c = false) :
    ways text (.chars set 0 most greedy) cur = [cur] := by
  have hends (limit : Nat) : runEnd text set cur.offset limit = cur.offset := by
    cases limit with
    | zero => rfl
    | succ limit =>
      simp only [runEnd, hc, hset, Bool.false_eq_true, if_false]
  rw [ways, charsWays, hends]
  dsimp only
  rw [hends, Nat.add_zero, if_neg (Nat.lt_irrefl _), Nat.sub_self]
  cases greedy <;> rfl

/-- **The ways of a choice where a character stands** are those of the
alternatives that do not shun it. -/
theorem ways_choice_of_hasAt {alternatives : List Pattern} (hne : alternatives ≠ []) {cur : Cursor}
    {c : Char} (hc : text[cur.offset]? = some c) :
    ways text (choice alternatives) cur
      = (alternatives.filter fun p => !p.shuns c).flatMap (ways text · cur) := by
  rw [ways_choice text hne]
  clear hne
  induction alternatives with
  | nil => rfl
  | cons p rest ih =>
    rw [List.flatMap_cons, ih, List.filter_cons]
    cases hp : p.shuns c with
    | true =>
      rw [ways_eq_nil_of_shuns hp hc]
      rfl
    | false => rfl

end Pattern

namespace CharSet

/-- The complement of a set holds what the set does not. -/
theorem contains_compl (set : CharSet) (c : Char) : set.compl.contains c = !set.contains c := by
  simp [compl, contains]

/-- The union of two sets of one character. -/
theorem contains_union_single {a b c : Char} :
    (union [single a, single b]).contains c = true ↔ c = a ∨ c = b := by
  simp [union, single, ofItems, contains, CharItem.contains_range_self]

end CharSet

namespace Builtin

open Pattern

variable {text : Text} {delimiter : Char}

/-- The pattern of a piece of a literal. -/
def piece (delimiter : Char) : Pattern :=
  choice [outside [.single delimiter, .single '\\'], concat [only '\\', Pattern.char .any]]

/-- What closes a literal: its delimiter, or the end of the text. -/
def closing (delimiter : Char) : Pattern :=
  choice [only delimiter, textEnd]

/-- A character is a piece by itself if it is neither the delimiter nor a
backslash. -/
theorem contains_outside {c : Char} :
    (CharSet.union [.single delimiter, .single '\\']).compl.contains c = true ↔
      c ≠ delimiter ∧ c ≠ '\\' := by
  rw [CharSet.contains_compl, Bool.not_eq_true', Bool.eq_false_iff, ne_eq,
    CharSet.contains_union_single, not_or]

/-- The pattern of a piece reads the piece that stands in the text. -/
theorem ways_piece {cur : Cursor} {stop : Nat} (h : text.IsPiece delimiter cur.offset stop) :
    ways text (piece delimiter) cur = [cur.move stop] := by
  show ways text (outside [.single delimiter, .single '\\']) cur
    ++ ways text (concat [only '\\', Pattern.char .any]) cur = _
  generalize hoffset : cur.offset = offset at h
  cases h with
  | plain hc hdelimiter hbackslash =>
    have hset := contains_outside.mpr ⟨hdelimiter, hbackslash⟩
    rw [outside, ways, hoffset, hc]
    dsimp only
    rw [if_pos hset, ways_concat_cons, only, ways, hoffset, hc]
    dsimp only
    rw [if_neg fun h => hbackslash (CharSet.contains_single.mp h)]
    rfl
  | escape hbackslash hc =>
    have hset : ¬ (CharSet.union [.single delimiter, .single '\\']).compl.contains '\\' = true :=
      fun h => (contains_outside.mp h).2 rfl
    rw [outside, ways, hoffset, hbackslash]
    dsimp only
    rw [if_neg hset, List.nil_append, ways_concat_cons, only, ways, hoffset, hbackslash]
    dsimp only
    rw [if_pos (CharSet.contains_single.mpr rfl), List.flatMap_singleton]
    show ways text (.char .any) (cur.move (offset + 1)) = _
    rw [ways, Cursor.offset_move, hc]
    dsimp only
    rw [if_pos (CharSet.contains_any _), Cursor.move_move]

/-- The pattern of a piece reads nothing else. -/
theorem ways_piece_eq_nil {cur : Cursor} (h : ∀ stop, ¬ text.IsPiece delimiter cur.offset stop) :
    ways text (piece delimiter) cur = [] := by
  rw [List.eq_nil_iff_forall_not_mem]
  intro next hnext
  obtain hnext | hnext := List.mem_append.mp hnext
  · obtain ⟨c, hc, hset, -⟩ := exists_of_mem_ways_char hnext
    obtain ⟨hdelimiter, hbackslash⟩ := contains_outside.mp hset
    exact h _ (.plain hc hdelimiter hbackslash)
  · obtain ⟨mid, hmid, hnext⟩ := List.mem_flatMap.mp hnext
    obtain ⟨c, hc, hset, rfl⟩ := exists_of_mem_ways_char hmid
    obtain ⟨d, hd, -, -⟩ := exists_of_mem_ways_char hnext
    rw [CharSet.contains_single.mp hset] at hc
    exact h _ (.escape hc hd)

/-- What closes a literal does not match where a piece stands. -/
theorem ways_closing_eq_nil (hdelimiter : delimiter ≠ '\\') {cur : Cursor} {stop : Nat}
    (h : text.IsPiece delimiter cur.offset stop) : ways text (closing delimiter) cur = [] := by
  rw [List.eq_nil_iff_forall_not_mem]
  intro next hnext
  obtain ⟨c, hc, hne⟩ : ∃ c, text[cur.offset]? = some c ∧ c ≠ delimiter := by
    generalize cur.offset = offset at h
    cases h with
    | plain hc hne _ => exact ⟨_, hc, hne⟩
    | escape hc _ => exact ⟨_, hc, hdelimiter.symm⟩
  obtain hnext | hnext := List.mem_append.mp hnext
  · obtain ⟨d, hd, hset, -⟩ := exists_of_mem_ways_char hnext
    obtain rfl : c = d := Option.some.inj (hc.symm.trans hd)
    exact hne (CharSet.contains_single.mp hset)
  · obtain ⟨hlt, -⟩ := Array.getElem?_eq_some_iff.mp hc
    have hend : ways text (choice [textEnd]) cur = [] :=
      if_neg (Bool.eq_false_iff.mp (beq_false_of_ne (Nat.ne_of_lt hlt)))
    rw [hend] at hnext
    cases hnext

/-- **The pieces of a literal** are read as far as they go, and then it has to be
closed. -/
theorem ways_pieces (hdelimiter : delimiter ≠ '\\') {cur : Cursor} {stop : Nat}
    (hpieces : Relation.ReflTransGen (text.IsPiece delimiter) cur.offset stop)
    (hstop : ∀ next, ¬ text.IsPiece delimiter stop next) (hin : stop ≤ text.size) :
    ways text (concat [(piece delimiter).star, closing delimiter]) cur
      = ways text (closing delimiter) (cur.move stop) := by
  rw [ways_concat_cons]
  show (ways text (.repeated (piece delimiter) 0 none true) (cur.move cur.offset)).flatMap
    (ways text (closing delimiter)) = _
  rw [ways, exactlyWays, List.flatMap_singleton]
  refine flatMap_moreWays_of_reaches (fun a b hpiece => ?_) hpieces (ways_piece_eq_nil hstop) ?_
  · exact ⟨hpiece.lt, ways_piece hpiece, ways_closing_eq_nil hdelimiter hpiece⟩
  · rw [Cursor.offset_move]
    omega

/-- A quoted string goes on behind the delimiter that opens it. -/
theorem ways_quotedString_of_hasAt {cur : Cursor} (hopens : text[cur.offset]? = some delimiter) :
    ways text (quotedString delimiter) cur
      = ways text (concat [(piece delimiter).star, closing delimiter])
          (cur.move (cur.offset + 1)) := by
  have hopening : ways text (only delimiter) cur = [cur.move (cur.offset + 1)] := by
    rw [only, ways, hopens]
    dsimp only
    rw [if_pos (CharSet.contains_single.mpr rfl)]
  rw [quotedString, ways_concat_cons, hopening, List.flatMap_singleton]
  rfl

/-- **A quoted string is read piece by piece**, as far as the pieces go, and
then has to be closed. -/
theorem ways_quotedString (hdelimiter : delimiter ≠ '\\') {cur : Cursor} {stop : Nat}
    (hopens : text[cur.offset]? = some delimiter)
    (hpieces : Relation.ReflTransGen (text.IsPiece delimiter) (cur.offset + 1) stop)
    (hstop : ∀ next, ¬ text.IsPiece delimiter stop next) (hin : stop ≤ text.size) :
    ways text (quotedString delimiter) cur = ways text (closing delimiter) (cur.move stop) := by
  rw [ways_quotedString_of_hasAt hopens]
  exact ways_pieces hdelimiter hpieces hstop hin

/-- **A literal that is never closed** matches up to the end of the text, unless
the text ends in the middle of an escape; then it does not match at all. -/
theorem ways_quotedString_of_open (hdelimiter : delimiter ≠ '\\') {cur : Cursor}
    (hopens : text[cur.offset]? = some delimiter)
    (hopen : ∀ offset, ¬ text.ClosesAt delimiter cur.offset offset) :
    ways text (quotedString delimiter) cur
      = if text.isEscaped (cur.offset + 1) text.size then [] else [cur.move text.size] := by
  obtain ⟨hlt, -⟩ := Array.getElem?_eq_some_iff.mp hopens
  have hescaped : ∀ before, cur.offset + 1 ≤ before → text.hasAt before delimiter = true →
      text.isEscaped (cur.offset + 1) before = true := by
    intro before hfrom hat
    by_contra hnot
    exact hopen before ⟨hfrom, hat, Bool.eq_false_iff.mpr hnot⟩
  have hreaches {stop : Nat} (hfrom : cur.offset + 1 ≤ stop) (hto : stop ≤ text.size)
      (hfree : text.isEscaped (cur.offset + 1) stop = false) :=
    Text.reaches_of_isEscaped_eq_false hfrom hto (fun before hfrom _ => hescaped before hfrom) hfree
  cases hend : text.isEscaped (cur.offset + 1) text.size with
  | false =>
    have hstop : ∀ next, ¬ text.IsPiece delimiter text.size next := by
      rintro next (⟨hc, -, -⟩ | ⟨hc, -⟩)
      all_goals exact absurd (Array.getElem?_eq_some_iff.mp hc).1 (Nat.lt_irrefl _)
    rw [ways_quotedString hdelimiter hopens (hreaches hlt (Nat.le_refl _) hend) hstop
      (Nat.le_refl _)]
    -- no delimiter stands behind the text
    show ways text (only delimiter) (cur.move text.size)
      ++ ways text textEnd (cur.move text.size) = _
    rw [only, ways, Cursor.offset_move, Array.getElem?_eq_none (Nat.le_refl _), textEnd, ways]
    simp [Anchor.holds]
  | true =>
    -- the pieces stop in front of the last backslash
    obtain ⟨last, hsize⟩ := Nat.exists_eq_succ_of_ne_zero (Nat.ne_zero_of_lt hlt)
    rw [hsize, Text.isEscaped, Bool.and_eq_true, Bool.and_eq_true, decide_eq_true_eq,
      Bool.not_eq_true', Text.hasAt_iff] at hend
    obtain ⟨⟨hfrom, hbackslash⟩, hfree⟩ := hend
    have hstop : ∀ next, ¬ text.IsPiece delimiter last next := by
      rintro next (⟨hc, -, hne⟩ | ⟨-, hc⟩)
      · exact hne (Option.some.inj (hc.symm.trans hbackslash))
      · have hbehind := (Array.getElem?_eq_some_iff.mp hc).1
        omega
    rw [ways_quotedString hdelimiter hopens (hreaches hfrom (by omega) hfree) hstop (by omega)]
    show ways text (only delimiter) (cur.move last) ++ ways text textEnd (cur.move last) = _
    rw [only, ways, Cursor.offset_move, hbackslash, textEnd, ways]
    dsimp only
    rw [if_neg fun h => hdelimiter (CharSet.contains_single.mp h).symm]
    have hnotEnd : ¬ last = text.size := by omega
    simp [Anchor.holds, hnotEnd]

end Builtin

/-! ## Literals among the tokens -/

namespace Category

/-- **Some categories read a literal** where its delimiter stands: one category
alone does not shun the delimiter, it gives strings, and it matches as a quoted
string does. -/
structure ReadsLiteral (categories : List Category) (delimiter : Char) (strings : Category) :
    Prop where
  alone : categories.filter (fun c => !c.pattern.shuns delimiter) = [strings]
  tag : strings.tag = "string"
  quoted : ∀ (text : Text) (cur : Cursor), text[cur.offset]? = some delimiter →
    strings.pattern.ways text cur = (Builtin.quotedString delimiter).ways text cur
  delimiter : delimiter ≠ '\\'

namespace ReadsLiteral

variable {categories : List Category} {delimiter : Char} {strings : Category} {text : Text}
  {offset : Nat}

/-- Where a literal opens that is never closed, its category decides, unless the
text ends in the middle of an escape. -/
theorem deciding?_of_open (h : ReadsLiteral categories delimiter strings)
    (hopens : text[offset]? = some delimiter)
    (hopen : ∀ place, ¬ text.ClosesAt delimiter offset place) :
    deciding? categories text offset
      = if text.isEscaped (offset + 1) text.size then none else some (strings, text.size) := by
  have hways : strings.pattern.ways text (.start offset)
      = if text.isEscaped (offset + 1) text.size then [] else [Cursor.start text.size] :=
    (h.quoted text (.start offset) hopens).trans
      (Builtin.ways_quotedString_of_open h.delimiter hopens hopen)
  rw [deciding?_of_alone hopens h.alone, hways]
  split <;> rfl

end ReadsLiteral

end Category

/-- **The tokens of a text keep the open literal** at an offset: a string starts
there and reaches to the end of the text, and no other token goes beyond the
offset. -/
def KeepsOpenLiteral (tokens : List Token) (text : Text) (offset : Nat) : Prop :=
  ∃ literal ∈ tokens, literal.span.tag = "string" ∧ literal.span.start = offset ∧
    literal.span.stop = text.size ∧
    ∀ token ∈ tokens, offset < token.span.stop → token.span = literal.span

/-- **A language keeps its open literals**, if its categories read them and no
token covers the delimiter, unless the text ends in the middle of an escape;
then no token starts at the delimiter. -/
theorem Rule.MadeOf.openLiteral {rule : Rule} {categories : List Category}
    (hmade : rule.MadeOf categories) {delimiter : Char} {strings : Category}
    (h : Category.ReadsLiteral categories delimiter strings) {text : Text} {offset : Nat}
    (hopens : text.hasAt offset delimiter = true)
    (hopen : ∀ place, ¬ text.ClosesAt delimiter offset place) :
    ∃ tokens, rule.tokenize text = .ok tokens ∧
      (text.isEscaped (offset + 1) text.size = false →
        (∀ token ∈ tokens, token.span.start < offset → token.span.stop ≤ offset) →
        KeepsOpenLiteral tokens text offset) ∧
      (text.isEscaped (offset + 1) text.size = true →
        ∀ token ∈ tokens, token.span.start ≠ offset) := by
  have htokens := hmade.dividesBy.tokenize_eq text
  have hat := Text.hasAt_iff.mp hopens
  have hinside : offset < text.size := (Array.getElem?_eq_some_iff.mp hat).1
  have hdeciding := h.deciding?_of_open hat hopen
  refine ⟨_, htokens, fun hend hfree => ?_, fun hend token htoken => ?_⟩
  · rw [hend, if_neg Bool.false_ne_true] at hdeciding
    obtain ⟨literal, hliteral, hstart, hstop, htag, hsole⟩ :=
      Category.hasSoleToken_of_deciding? htokens hdeciding hinside hinside hfree
    refine ⟨literal, hliteral, htag.trans h.tag, hstart, hstop, fun token htoken hbeyond => ?_⟩
    -- every token starts before the end of the text
    have hplaced := Rule.placedIn_of_tokenize htokens token htoken
    rw [hsole token htoken (Nat.lt_of_lt_of_le hplaced.nonempty hplaced.inText) hbeyond]
  · rw [hend, if_pos rfl] at hdeciding
    exact Category.start_ne_of_deciding?_eq_none hdeciding htoken

/-! ## The built-in languages -/

/-- The delimiters of the literals of a built-in language in which a backslash
escapes, by its key. -/
def Builtin.delimiters : String → List Char
  | "java" | "cpp" | "csharp" | "css" => ['"', '\'']
  | "javascript" => ['"', '\'', '\x60']
  | _ => []

/-- A choice that leaves one alternative where a character stands has its
ways. -/
theorem Pattern.ways_choice_of_filter {text : Text} {alternatives : List Pattern} {p : Pattern}
    {cur : Cursor} {c : Char} (hc : text[cur.offset]? = some c)
    (h : (alternatives.filter fun p => !p.shuns c) = [p]) :
    ways text (choice alternatives) cur = ways text p cur := by
  have hne : alternatives ≠ [] := by
    rintro rfl
    cases h
  rw [ways_choice_of_hasAt hne hc, h, List.flatMap_singleton]

/-- A dollar sign may stand before the quote of a literal, and need not. -/
theorem Builtin.ways_dollarString {text : Text} {cur : Cursor} (hc : text[cur.offset]? = some '"') :
    Pattern.ways text (.concat [(Pattern.only '$').opt, quotedString '"']) cur
      = Pattern.ways text (quotedString '"') cur := by
  rw [Pattern.ways_concat_cons]
  show (Pattern.ways text (.chars (.single '$') 0 (some 1) true) cur).flatMap _ = _
  rw [Pattern.ways_chars_of_contains_eq_false hc (by decide), List.flatMap_singleton]
  rfl

/-- The categories of the built-in languages read their literals. -/
theorem Registry.exists_readsLiteral {rule : Rule} (hrule : rule ∈ builtin.rules) {delimiter : Char}
    (hdelimiter : delimiter ∈ Builtin.delimiters rule.key) :
    ∃ categories strings, rule.MadeOf categories ∧
      Category.ReadsLiteral categories delimiter strings := by
  obtain rfl | rfl | rfl | rfl | rfl | rfl | rfl | rfl := mem_rules_builtin.mp hrule
  case inr.inl | inr.inr.inr.inr.inr.inl | inr.inr.inr.inr.inr.inr.inl => cases hdelimiter
  case inr.inr.inl =>
    obtain rfl | hdelimiter := List.mem_cons.mp hdelimiter
    on_goal 2 => obtain rfl | rfl := List.mem_pair.mp hdelimiter
    all_goals
      exact ⟨_, ⟨"string", "string", _⟩, .given _ _ _ _ (by decide), by rfl, rfl,
        fun text cur hc => Pattern.ways_choice_of_filter hc rfl, by decide⟩
  case inr.inr.inr.inr.inl =>
    obtain rfl | rfl := List.mem_pair.mp hdelimiter
    · exact ⟨_, ⟨"string", "string", _⟩, .given _ _ _ _ (by decide), by rfl, rfl,
        fun text cur hc => (Pattern.ways_choice_of_filter hc rfl).trans
          (Builtin.ways_dollarString hc), by decide⟩
    · exact ⟨_, ⟨"string", "string", _⟩, .given _ _ _ _ (by decide), by rfl, rfl,
        fun text cur hc => Pattern.ways_choice_of_filter hc rfl, by decide⟩
  all_goals
    obtain rfl | rfl := List.mem_pair.mp hdelimiter
    all_goals
      exact ⟨_, ⟨"string", "string", _⟩, .given _ _ _ _ (by decide), by rfl, rfl,
        fun text cur hc => Pattern.ways_choice_of_filter hc rfl, by decide⟩

/-- **A literal that is never closed reaches to the end of its text.** In the
built-in languages whose literals have escapes, where a delimiter stands that no
token covers and that nothing closes, a string starts and takes all the rest of
the text, so that nothing else is recognised in it. This is so unless the text
ends in the middle of an escape: its last character is a backslash that is not
escaped itself. Then no token at all starts at the delimiter. -/
theorem Registry.builtin_openLiteral {rule : Rule} (hrule : rule ∈ builtin.rules)
    {delimiter : Char} (hdelimiter : delimiter ∈ Builtin.delimiters rule.key) {text : Text}
    {offset : Nat} (hopens : text.hasAt offset delimiter = true)
    (hopen : ∀ place, ¬ text.ClosesAt delimiter offset place) :
    ∃ tokens, rule.tokenize text = .ok tokens ∧
      (text.isEscaped (offset + 1) text.size = false →
        (∀ token ∈ tokens, token.span.start < offset → token.span.stop ≤ offset) →
        KeepsOpenLiteral tokens text offset) ∧
      (text.isEscaped (offset + 1) text.size = true →
        ∀ token ∈ tokens, token.span.start ≠ offset) := by
  obtain ⟨categories, strings, hmade, hreads⟩ := exists_readsLiteral hrule hdelimiter
  exact hmade.openLiteral hreads hopens hopen

/-- A literal in backquotes that holds an escaped one and the opener of a
comment. -/
theorem Registry.javaScript_openLiteral :
    Builtin.JavaScript.rule ∈ builtin.rules ∧
      '\x60' ∈ Builtin.delimiters Builtin.JavaScript.rule.key ∧
      Text.hasAt #['a', '\x60', '\\', '\x60', '/', '/'] 1 '\x60' = true ∧
      (∀ place, ¬ Text.ClosesAt #['a', '\x60', '\\', '\x60', '/', '/'] '\x60' 1 place) ∧
      ∃ tokens,
        Builtin.JavaScript.rule.tokenize #['a', '\x60', '\\', '\x60', '/', '/'] = .ok tokens ∧
        KeepsOpenLiteral tokens #['a', '\x60', '\\', '\x60', '/', '/'] 1 := by
  have hrule : Builtin.JavaScript.rule ∈ builtin.rules := mem_rules_builtin.mpr (by simp)
  have hdelimiter : '\x60' ∈ Builtin.delimiters Builtin.JavaScript.rule.key := by decide
  have hopens : Text.hasAt #['a', '\x60', '\\', '\x60', '/', '/'] 1 '\x60' = true := by decide
  have hbefore : ∀ place < 6,
      ¬ Text.ClosesAt #['a', '\x60', '\\', '\x60', '/', '/'] '\x60' 1 place := by decide
  have hopen := fun place h => hbefore place (Text.ClosesAt.lt_size h) h
  have hevaluated : Builtin.JavaScript.rule.tokenize #['a', '\x60', '\\', '\x60', '/', '/']
      = .ok [⟨⟨1, 6, "string", by decide⟩, #['\x60', '\\', '\x60', '/', '/']⟩] := by cbv
  obtain ⟨tokens, htokens, hkeeps, -⟩ := builtin_openLiteral hrule hdelimiter hopens hopen
  refine ⟨hrule, hdelimiter, hopens, hopen, tokens, htokens, hkeeps (by decide) ?_⟩
  rw [hevaluated] at htokens
  cases htokens
  decide

/-- **Not every literal that is never closed is kept**: in `"if\` the backslash at
the end has nothing to escape, and the keyword in the literal is shown as one. -/
theorem Registry.not_forall_keepsOpenLiteral :
    ¬ ∀ rule ∈ builtin.rules, ∀ delimiter ∈ Builtin.delimiters rule.key,
      ∀ (text : Text) (offset : Nat) (tokens : List Token),
        text.hasAt offset delimiter = true →
        (∀ place, ¬ text.ClosesAt delimiter offset place) → rule.tokenize text = .ok tokens →
        (∀ token ∈ tokens, token.span.start < offset → token.span.stop ≤ offset) →
        KeepsOpenLiteral tokens text offset := by
  intro h
  have hevaluated : Builtin.Java.rule.tokenize #['"', 'i', 'f', '\\']
      = .ok [⟨⟨1, 3, "keyword", by decide⟩, #['i', 'f']⟩] := by cbv
  have hbefore : ∀ place < 4, ¬ Text.ClosesAt #['"', 'i', 'f', '\\'] '"' 0 place := by decide
  obtain ⟨literal, hliteral, hstring, -⟩ := h Builtin.Java.rule (mem_rules_builtin.mpr (.inl rfl))
    '"' (by decide) #['"', 'i', 'f', '\\'] 0 _ (by decide)
    (fun place h => hbefore place (Text.ClosesAt.lt_size h) h) hevaluated (by decide)
  obtain rfl := List.mem_singleton.mp hliteral
  exact absurd hstring (by decide)

end SourceLens
