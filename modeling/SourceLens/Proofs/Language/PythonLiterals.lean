import Mathlib
import SourceLens.Proofs.Language.ClosedLiterals
import SourceLens.Proofs.Pattern.Edges

/-!
# Literals of Python

A literal of Python is fenced by one quote or by three, and may have a kind of
one or two letters before it. Its pattern asks that no word character stand
before the kind, so that the end of a name is not read as one. Where the literal
has no kind, the question is put to the quote itself.

In a text without escapes this is the only condition: where no word character
stands before a quote that no token has covered, a string starts there and goes
on behind the next fence of its kind, or to the end of the text if there is
none. Right behind a word, though, as in `in"if"`, no token at all starts at the
quote (`Builtin.Python.tokenize_quote`). The text of the literal is then divided
like the rest, and the keyword in it is shown as one
(`Builtin.Python.not_forall_quote_opens`).
-/

namespace SourceLens

namespace Text

/-- **A stretch ends behind a closer**: behind the first one that stands at or
behind `start`, or at the end of the text if there is none. -/
def EndsBehind (text : Text) (closer : String) (start stop : Nat) : Prop :=
  (∃ last, IsLeast {offset | start ≤ offset ∧ text.StandsAt closer offset} last ∧
    stop = last + closer.length) ∨
  ((∀ offset, start ≤ offset → ¬ text.StandsAt closer offset) ∧ stop = text.size)

variable {text : Text} {start offset : Nat}

/-- A string of one character stands where the character does. -/
theorem standsAt_singleton {c : Char} :
    text.StandsAt (.singleton c) offset ↔ text.hasAt offset c = true := by
  rw [StandsAt, String.toList_singleton, cons_prefix_drop, hasAt_iff]
  exact and_iff_left List.nil_prefix

/-- Without a backslash nothing is escaped. -/
theorem isEscaped_eq_false (hplain : '\\' ∉ text) : text.isEscaped start offset = false := by
  cases offset with
  | zero => rfl
  | succ offset =>
    have hat : text.hasAt offset '\\' = false :=
      Bool.eq_false_iff.mpr fun h => hplain (Array.mem_of_getElem? (hasAt_iff.mp h))
    rw [isEscaped, hat, Bool.and_false, Bool.false_and]

end Text

namespace Builtin

open Pattern

variable {text : Text} {delimiter : Char} {cur : Cursor}

/-- **A quoted string in a text without escapes** ends behind the next
delimiter. -/
theorem exists_head?_quotedString (hdelimiter : delimiter ≠ '\\') (hplain : '\\' ∉ text)
    (hopens : text[cur.offset]? = some delimiter) :
    ∃ stop, (ways text (quotedString delimiter) cur).head? = some (cur.move stop) ∧
      cur.offset < stop ∧ text.EndsBehind (.singleton delimiter) (cur.offset + 1) stop := by
  have hsets : {place | (LiteralStyle.escaped (.singleton delimiter) delimiter).ClosesAt text
        cur.offset place}
      = {place | cur.offset + 1 ≤ place ∧ text.StandsAt (.singleton delimiter) place} := by
    ext place
    refine and_congr (by rw [LiteralStyle.opener, String.length_singleton]) ?_
    rw [Text.standsAt_singleton]
    exact and_iff_left (Text.isEscaped_eq_false hplain)
  by_cases hcloses : ∃ place, cur.offset + 1 ≤ place ∧ text.StandsAt (.singleton delimiter) place
  · -- the first closing delimiter
    have hleast := Nat.isLeast_find hcloses
    have hfrom := hleast.1.1
    refine ⟨_, ?_, Nat.lt_succ_of_lt hfrom, .inl ⟨_, hleast, by rw [String.length_singleton]⟩⟩
    rw [ways_quotedString_of_hasAt hopens]
    refine LiteralStyle.head?_ways_rest_escaped hdelimiter (hsets ▸ hleast) ?_
    rw [String.length_singleton]
    rfl
  · rw [not_exists] at hcloses
    have hopen : ∀ place, ¬ text.ClosesAt delimiter cur.offset place := fun place h =>
      hcloses place ⟨h.1, Text.standsAt_singleton.mpr h.2.1⟩
    obtain ⟨hlt, -⟩ := Array.getElem?_eq_some_iff.mp hopens
    refine ⟨text.size, ?_, hlt, .inr ⟨fun place hle h => hcloses place ⟨hle, h⟩, rfl⟩⟩
    rw [ways_quotedString_of_open hdelimiter hopens hopen, Text.isEscaped_eq_false hplain,
      if_neg Bool.false_ne_true]
    rfl

namespace Python

/-- The quotes of literals. -/
def quotes : List Char := ['"', '\'']

/-- A fence of three quotes. -/
def longFence (delimiter : Char) : String := .ofList [delimiter, delimiter, delimiter]

/-- **The fence of a literal**, which closes it as well: three quotes if they stand
there, or else one. -/
def fence (text : Text) (delimiter : Char) (offset : Nat) : String :=
  if text.StandsAt (longFence delimiter) offset then longFence delimiter else .singleton delimiter

/-- Where a literal may start: not directly behind a word. -/
def notAfterWord : Pattern := .behind false 1 (Pattern.char .word)

/-- The letters that tell the kind of a literal. -/
def kindLetters : CharSet := .union [.oneOf "rRbBuUfF"]

/-- What a literal consists of behind its kind. -/
def fenced : Pattern :=
  choice [longString "\"\"\"", longString "'''", quotedString '"', quotedString '\'']

theorem ways_notAfterWord :
    ways text notAfterWord cur = if text.wordBefore cur.offset then [] else [cur] := by
  rw [notAfterWord, ways, Text.wordBefore]
  cases hoffset : cur.offset with
  | zero => rfl
  | succ before =>
    rw [if_pos (by omega), Nat.add_sub_cancel, ways, Cursor.offset_move, wordAt]
    cases text[before]? with
    | none => rfl
    | some c =>
      dsimp only
      rw [CharSet.contains_word]
      by_cases hword : CharKind.word.contains false c = true
      · simp [hword, lookWays]
      · simp [hword, lookWays]

/-- Right behind a word there is no literal. -/
theorem ways_string_of_wordBefore (h : text.wordBefore cur.offset = true) :
    ways text string cur = [] := by
  show (ways text notAfterWord cur).flatMap _ = []
  rw [ways_notAfterWord, if_pos h, List.flatMap_nil]

/-- A long string goes on to the next fence. -/
theorem exists_head?_longString (hopens : text.StandsAt (longFence delimiter) cur.offset) :
    ∃ stop, (ways text (longString (longFence delimiter)) cur).head? = some (cur.move stop) ∧
      cur.offset < stop ∧ text.EndsBehind (longFence delimiter) (cur.offset + 3) stop := by
  have hlength : (longFence delimiter).length = 3 := by
    rw [longFence, String.length_ofList]
    rfl
  have hroom := hopens.length_le
  rw [hlength] at hroom
  have hin : (cur.move (cur.offset + 3)).offset ≤ text.size := by
    rw [Cursor.offset_move]
    omega
  have hcloser : (longFence delimiter).length ≠ 0 := by omega
  obtain ⟨stop, hhead, hends⟩ := exists_head?_upTo hcloser (cur.move (cur.offset + 3)) hin
  refine ⟨stop, ?_, ?_, hends⟩
  · rw [longString, ways_concat_literal hopens, hlength]
    exact hhead
  · obtain ⟨last, ⟨⟨hle, -⟩, -⟩, rfl⟩ | ⟨-, rfl⟩ := hends
    · have hle' : cur.offset + 3 ≤ last := hle
      omega
    · omega

/-- Where a quote stands, what is fenced is a long string or a quoted one. -/
theorem ways_fenced (hquote : delimiter ∈ quotes) (hat : text[cur.offset]? = some delimiter) :
    ways text fenced cur
      = ways text (longString (longFence delimiter)) cur
        ++ ways text (quotedString delimiter) cur := by
  rw [fenced, ways_choice_of_hasAt (List.cons_ne_nil _ _) hat]
  obtain rfl | rfl := List.mem_pair.mp hquote
  all_goals
    show List.flatMap _ [longString _, quotedString _] = _
    rw [List.flatMap_cons, List.flatMap_singleton]
    rfl

/-- **A quote that stands behind no word opens a literal**, in a text without
escapes. -/
theorem exists_head?_string (hplain : '\\' ∉ text) (hquote : delimiter ∈ quotes)
    (hat : text[cur.offset]? = some delimiter) (hbefore : text.wordBefore cur.offset = false) :
    ∃ stop, (ways text string cur).head? = some (cur.move stop) ∧ cur.offset < stop ∧
      text.EndsBehind (fence text delimiter cur.offset)
        (cur.offset + (fence text delimiter cur.offset).length) stop := by
  have hkind : kindLetters.contains delimiter = false := by
    obtain rfl | rfl := List.mem_pair.mp hquote <;> decide
  have hdelimiter : delimiter ≠ '\\' := by
    obtain rfl | rfl := List.mem_pair.mp hquote <;> decide
  -- the kind is empty, since a quote is no letter
  have hways : ways text string cur = ways text fenced cur := by
    show (ways text notAfterWord cur).flatMap (fun next =>
      (ways text (.chars kindLetters 0 (some 2) true) next).flatMap (ways text fenced)) = _
    rw [ways_notAfterWord, hbefore, if_neg Bool.false_ne_true, List.flatMap_singleton,
      ways_chars_of_contains_eq_false hat hkind, List.flatMap_singleton]
  rw [hways, ways_fenced hquote hat, List.head?_append, fence]
  by_cases hlong : text.StandsAt (longFence delimiter) cur.offset
  · obtain ⟨stop, hhead, hlt, hends⟩ := exists_head?_longString hlong
    rw [hhead, if_pos hlong, longFence, String.length_ofList]
    exact ⟨stop, rfl, hlt, hends⟩
  · obtain ⟨stop, hhead, hlt, hends⟩ := exists_head?_quotedString hdelimiter hplain hat
    rw [longString, ways_concat_literal_eq_nil hlong, hhead, if_neg hlong, String.length_singleton]
    exact ⟨stop, rfl, hlt, hends⟩

/-- Where a quote stands, only strings can decide. -/
theorem deciding?_of_quote (hquote : delimiter ∈ quotes) {offset : Nat}
    (hat : text[offset]? = some delimiter) :
    Category.deciding? categories text offset
      = ((ways text string (.start offset)).head?).map
          fun cur => (⟨"string", "string", string⟩, cur.offset) := by
  have halone : categories.filter (fun c => !c.pattern.shuns delimiter)
      = [⟨"string", "string", string⟩] := by
    obtain rfl | rfl := List.mem_pair.mp hquote <;> rfl
  exact Category.deciding?_of_alone hat halone

/-- **Where a quote opens a string in Python.** In a text without escapes, take a
quote that no token has covered. If no word character stands directly before it,
a string starts at the quote and ends behind the next fence of its kind, or at the
end of the text if there is none; no other token overlaps it. If a word character
stands there, no token starts at the quote. -/
theorem tokenize_quote {text : Text} (hplain : '\\' ∉ text) {delimiter : Char}
    (hquote : delimiter ∈ quotes) {offset : Nat} (hat : text.hasAt offset delimiter = true) :
    ∃ tokens, rule.tokenize text = .ok tokens ∧
      (text.wordBefore offset = false → IsFreeAt tokens offset →
        ∃ stop, text.EndsBehind (fence text delimiter offset)
            (offset + (fence text delimiter offset).length) stop ∧
          HasSoleToken tokens offset stop "string") ∧
      (text.wordBefore offset = true → ∀ token ∈ tokens, token.span.start ≠ offset) := by
  have hmade : rule.MadeOf categories := .given _ _ _ _ (by decide)
  have htokens := hmade.dividesBy.tokenize_eq text
  have hat' : text[offset]? = some delimiter := Text.hasAt_iff.mp hat
  have hdeciding := deciding?_of_quote hquote hat'
  refine ⟨_, htokens, fun hbefore hfree => ?_, fun hbefore token htoken => ?_⟩
  · obtain ⟨stop, hhead, hlt, hends⟩ :
        ∃ stop, (ways text string (.start offset)).head? = some (.start stop) ∧ offset < stop ∧
          text.EndsBehind (fence text delimiter offset)
            (offset + (fence text delimiter offset).length) stop :=
      exists_head?_string hplain hquote hat' hbefore
    rw [hhead] at hdeciding
    exact ⟨stop, hends, Category.hasSoleToken_of_deciding? htokens hdeciding hlt
      (Text.lt_size_of_hasAt hat) hfree⟩
  · rw [ways_string_of_wordBefore hbefore] at hdeciding
    exact Category.start_ne_of_deciding?_eq_none hdeciding htoken

/-- A long literal in parentheses that starts with a quote of its own. -/
theorem parenthesized_quote :
    '\\' ∉ #['(', '"', '"', '"', '"', 'i', 'f', '"', '"', '"', ')'] ∧ '"' ∈ quotes ∧
      Text.hasAt #['(', '"', '"', '"', '"', 'i', 'f', '"', '"', '"', ')'] 1 '"' = true ∧
      Text.wordBefore #['(', '"', '"', '"', '"', 'i', 'f', '"', '"', '"', ')'] 1 = false ∧
      ∃ tokens,
        rule.tokenize #['(', '"', '"', '"', '"', 'i', 'f', '"', '"', '"', ')'] = .ok tokens ∧
        IsFreeAt tokens 1 ∧
        ∃ stop, Text.EndsBehind #['(', '"', '"', '"', '"', 'i', 'f', '"', '"', '"', ')']
            "\"\"\"" 4 stop ∧
          HasSoleToken tokens 1 stop "string" := by
  have hplain : '\\' ∉ #['(', '"', '"', '"', '"', 'i', 'f', '"', '"', '"', ')'] := by simp
  have hquote : '"' ∈ quotes := by decide
  have hat : Text.hasAt #['(', '"', '"', '"', '"', 'i', 'f', '"', '"', '"', ')'] 1 '"' = true := by
    decide
  have hbefore : Text.wordBefore #['(', '"', '"', '"', '"', 'i', 'f', '"', '"', '"', ')'] 1
      = false := by decide
  have hevaluated : rule.tokenize #['(', '"', '"', '"', '"', 'i', 'f', '"', '"', '"', ')']
      = .ok [⟨⟨1, 10, "string", by decide⟩, #['"', '"', '"', '"', 'i', 'f', '"', '"', '"']⟩] := by
    cbv
  have hfence : fence #['(', '"', '"', '"', '"', 'i', 'f', '"', '"', '"', ')'] '"' 1
      = "\"\"\"" := by decide
  obtain ⟨tokens, htokens, hliteral, -⟩ := tokenize_quote hplain hquote hat
  have hfree : IsFreeAt tokens 1 := by
    rw [hevaluated] at htokens
    cases htokens
    decide
  obtain ⟨stop, hends, hsole⟩ := hliteral hbefore hfree
  rw [hfence] at hends
  exact ⟨hplain, hquote, hat, hbefore, tokens, htokens, hfree, stop, hends, hsole⟩

/-- **Not every quote that no token has covered opens a string**, even without
escapes: in `in"if"` the quote stands right behind a word, and the keyword in the
literal is shown as one. -/
theorem not_forall_quote_opens :
    ¬ ∀ (text : Text) (delimiter : Char) (offset : Nat) (tokens : List Token), '\\' ∉ text →
      delimiter ∈ quotes → text.hasAt offset delimiter = true → rule.tokenize text = .ok tokens →
      IsFreeAt tokens offset → ∃ stop, HasSoleToken tokens offset stop "string" := by
  intro h
  have hevaluated : rule.tokenize #['i', 'n', '"', 'i', 'f', '"']
      = .ok [⟨⟨0, 2, "keyword", by decide⟩, #['i', 'n']⟩,
        ⟨⟨3, 5, "keyword", by decide⟩, #['i', 'f']⟩] := by cbv
  obtain ⟨stop, token, htoken, hstart, -⟩ :=
    h #['i', 'n', '"', 'i', 'f', '"'] '"' 2 _ (by simp) (by decide) (by decide) hevaluated
      (by decide)
  obtain rfl | rfl := List.mem_pair.mp htoken
  all_goals exact absurd hstart (by decide)

end Python

end Builtin

end SourceLens
