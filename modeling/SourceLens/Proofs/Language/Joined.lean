import SourceLens.Language.Definition
import SourceLens.Proofs.Pattern.Nested
import SourceLens.Proofs.Token.Scan

/-!
# Languages that users define

A definition means what its joined pattern means, and the joined pattern is a
text: the patterns of the categories are pasted into it, each in a named group
and behind the letters of its options. This module shows that the text means
what it is meant to: a language that is made of a definition divides texts by
the categories of the definition (`RuleDefinition.dividesBy_of_compile`).

Not all options of a category have a letter in the joined pattern. What is
pasted is therefore the pattern under the options that are kept
(`CategoryDefinition.kept`), and the one assumption is that it can be read
under these. A category whose pattern is spaced can fail it: the joined text
is then still read, but its parentheses are no longer where the category has
them.
-/

namespace SourceLens

open Pattern.Parser

namespace CategoryDefinition

/-- The options of a category that the joined pattern keeps. -/
def keptOptions (category : CategoryDefinition) : PatternOptions :=
  let options := PatternOptions.ofBits category.options
  { ignoreCase := options.ignoreCase, multiline := options.multiline, dotAll := options.dotAll }

/-- **The pattern of a category by itself, under the options that the joined
pattern keeps.** -/
def kept (category : CategoryDefinition) : Except PatternError Pattern :=
  Pattern.parse category.keptOptions category.pattern.toList

/-- The category that takes part in the joined pattern. -/
def category (definition : CategoryDefinition) : Except PatternError Category :=
  definition.kept.map fun pattern => ⟨definition.name, definition.tag, pattern⟩

/-- Switching on the letters of the options gives the options that are kept. -/
theorem switchAll_optionLetters (category : CategoryDefinition) :
    switchAll {} category.optionLetters [] = category.keptOptions := by
  unfold optionLetters keptOptions
  generalize PatternOptions.ofBits category.options = options
  obtain ⟨ignoreCase, multiline, dotAll, spaced, asciiOnly⟩ := options
  cases ignoreCase <;> cases multiline <;> cases dotAll <;> rfl

end CategoryDefinition

/-! ## The joined text as lexemes -/

namespace Lexeme

theorem ofChars_cons {c : Char} (h : c ≠ '\\') (rest : List Char) :
    ofChars (c :: rest) = (ofChars rest).map (.plain c :: ·) := by
  rw [ofChars]
  · exact fun heq _ => h heq
  · exact fun _ _ heq _ => h heq

/-- Characters without a backslash stand for themselves. -/
theorem ofChars_map_plain {chars : List Char} (h : '\\' ∉ chars) (later : List Char) :
    ofChars (chars ++ later) = (ofChars later).map (chars.map .plain ++ ·) := by
  induction chars with
  | nil => cases hlater : ofChars later <;> simp [Except.map, hlater]
  | cons c chars ih =>
    rw [List.mem_cons, not_or] at h
    rw [List.cons_append, ofChars_cons (Ne.symm h.1), ih h.2]
    cases ofChars later <;> rfl

/-- What is behind a readable text does not change its lexemes. -/
theorem ofChars_append {chars later : List Char} {lexemes : List Lexeme}
    (h : ofChars chars = .ok lexemes) :
    ofChars (chars ++ later) = (ofChars later).map (lexemes ++ ·) := by
  induction chars using ofChars.induct generalizing lexemes with
  | case1 =>
    cases h
    rw [List.nil_append]
    cases ofChars later <;> rfl
  | case2 => cases h
  | case3 c rest ih =>
    rw [ofChars] at h
    obtain ⟨left, hleft, rfl⟩ := map_eq_ok.mp h
    rw [List.cons_append, List.cons_append, ofChars, ih hleft]
    cases ofChars later <;> rfl
  | case4 c rest hend hescape ih =>
    have hc : c ≠ '\\' := by
      rintro rfl
      cases rest with
      | nil => exact hend rfl rfl
      | cons d rest => exact hescape d rest rfl rfl
    rw [ofChars_cons hc] at h
    obtain ⟨left, hleft, rfl⟩ := map_eq_ok.mp h
    rw [List.cons_append, ofChars_cons hc, ih hleft]
    cases ofChars later <;> rfl

/-- A named group that opens, with what is in it and behind it. -/
def opening (name : List Char) (rest : List Lexeme) : List Lexeme :=
  .plain '(' :: .plain '?' :: .plain 'P' :: .plain '<' :: (name.map .plain ++ .plain '>' :: rest)

/-- A pattern behind the letters of its options, if there are any, and closed
as the body of a group is. -/
def underLetters (letters : List Char) (lexemes t : List Lexeme) : List Lexeme :=
  if letters.isEmpty then closed lexemes t
  else
    .plain '(' :: .plain '?' ::
      (letters.map .plain ++ .plain ':' :: closed lexemes (.plain ')' :: t))

end Lexeme

namespace CharClass

/-- No character of an identifier has a meaning in patterns. -/
theorem isIdentifierPart_of_mem {name : List Char} (h : isIdentifier name = true) {c : Char}
    (hc : c ∈ name) : isIdentifierStart c = true ∨ isIdentifierPart c = true := by
  cases name with
  | nil => cases hc
  | cons first rest =>
    obtain ⟨hfirst, hrest⟩ := Bool.and_eq_true_iff.mp h
    obtain rfl | hc := List.mem_cons.mp hc
    · exact Or.inl hfirst
    · exact Or.inr (List.all_eq_true.mp hrest c hc)

theorem not_mem_of_isIdentifier {name : List Char} (h : isIdentifier name = true) {c : Char}
    (hstart : isIdentifierStart c = false) (hpart : isIdentifierPart c = false) : c ∉ name := by
  intro hc
  obtain htrue | htrue := isIdentifierPart_of_mem h hc
  · rw [hstart] at htrue
    cases htrue
  · rw [hpart] at htrue
    cases htrue

theorem backslash_not_mem {name : List Char} (h : isIdentifier name = true) : '\\' ∉ name :=
  not_mem_of_isIdentifier h (by decide) (by decide)

theorem greater_not_mem {name : List Char} (h : isIdentifier name = true) : '>' ∉ name :=
  not_mem_of_isIdentifier h (by decide) (by decide)

end CharClass

namespace CategoryDefinition

theorem backslash_not_mem_optionLetters (category : CategoryDefinition) :
    '\\' ∉ category.optionLetters := by
  unfold optionLetters
  generalize PatternOptions.ofBits category.options = options
  obtain ⟨ignoreCase, multiline, dotAll, spaced, asciiOnly⟩ := options
  cases ignoreCase <;> cases multiline <;> cases dotAll <;> simp

/-- What is pasted for a category, with the parenthesis of its group behind
it. -/
theorem ofChars_withOptions {category : CategoryDefinition} {lexemes : List Lexeme}
    (hlexemes : Lexeme.ofChars category.pattern.toList = .ok lexemes) (later : List Char) :
    Lexeme.ofChars (category.withOptions.toList ++ ')' :: later)
      = (Lexeme.ofChars later).map (Lexeme.underLetters category.optionLetters lexemes) := by
  unfold withOptions Lexeme.underLetters
  cases hletters : category.optionLetters with
  | nil =>
    show Lexeme.ofChars (category.pattern.toList ++ ')' :: later) = _
    rw [Lexeme.ofChars_append hlexemes, Lexeme.ofChars_cons (by decide)]
    cases Lexeme.ofChars later <;> rfl
  | cons letter letters =>
    have hfree := category.backslash_not_mem_optionLetters
    rw [hletters] at hfree
    have htext : ("(?" ++ String.ofList (letter :: letters) ++ ":" ++ category.pattern
          ++ ")").toList ++ ')' :: later
        = '(' :: '?' :: ((letter :: letters)
          ++ ':' :: (category.pattern.toList ++ ')' :: ')' :: later)) := by
      simp [String.toList_append]
    dsimp only
    rw [htext, Lexeme.ofChars_cons (by decide), Lexeme.ofChars_cons (by decide),
      Lexeme.ofChars_map_plain hfree, Lexeme.ofChars_cons (by decide),
      Lexeme.ofChars_append hlexemes, Lexeme.ofChars_cons (by decide),
      Lexeme.ofChars_cons (by decide)]
    cases Lexeme.ofChars later <;> rfl

/-- **The lexemes of an alternative** of the joined pattern. -/
theorem ofChars_alternative {category : CategoryDefinition}
    (hname : CharClass.isIdentifier category.name.toList = true) {lexemes : List Lexeme}
    (hlexemes : Lexeme.ofChars category.pattern.toList = .ok lexemes) (later : List Char) :
    Lexeme.ofChars (category.alternative.toList ++ later)
      = (Lexeme.ofChars later).map fun t =>
          Lexeme.opening category.name.toList
            (Lexeme.underLetters category.optionLetters lexemes t) := by
  have htext : category.alternative.toList ++ later
      = '(' :: '?' :: 'P' :: '<' :: (category.name.toList
        ++ '>' :: (category.withOptions.toList ++ ')' :: later)) := by
    simp [alternative, String.toList_append]
  rw [htext, Lexeme.ofChars_cons (by decide), Lexeme.ofChars_cons (by decide),
    Lexeme.ofChars_cons (by decide), Lexeme.ofChars_cons (by decide),
    Lexeme.ofChars_map_plain (CharClass.backslash_not_mem hname), Lexeme.ofChars_cons (by decide),
    ofChars_withOptions hlexemes]
  cases Lexeme.ofChars later <;> rfl

end CategoryDefinition

/-! ## Reading the joined text -/

namespace Pattern

theorem readName_identifier (read : List Char) {name : List Char} (hfree : '>' ∉ name)
    (hname : CharClass.isIdentifier (read.reverse ++ name) = true) (rest : List Lexeme) :
    readName read (name.map .plain ++ .plain '>' :: rest)
      = .ok (String.ofList (read.reverse ++ name), rest) := by
  induction name generalizing read with
  | nil =>
    rw [List.append_nil] at hname ⊢
    show (if CharClass.isIdentifier read.reverse then _ else _) = _
    rw [if_pos hname]
  | cons c name ih =>
    rw [List.mem_cons, not_or] at hfree
    have hmove : read.reverse ++ c :: name = (c :: read).reverse ++ name := by
      rw [List.reverse_cons, List.append_assoc]
      rfl
    rw [hmove] at hname ⊢
    rw [← ih (c :: read) hfree.2 hname, List.map_cons, List.cons_append, readName]
    exact Ne.symm hfree.1

theorem readHead_opening {name : String}
    (hname : CharClass.isIdentifier name.toList = true) (rest : List Lexeme) :
    readHead (.plain '?' :: .plain 'P' :: .plain '<'
        :: (name.toList.map .plain ++ .plain '>' :: rest))
      = .ok (.capture (some name), rest) := by
  have hread := readName_identifier [] (CharClass.greater_not_mem hname) hname rest
  show Except.map _ (readName [] _) = _
  rw [hread]
  simp [Except.map]

theorem readHead_optionLetters (category : CategoryDefinition) (rest : List Lexeme) :
    readHead (.plain '?' :: (category.optionLetters.map .plain ++ .plain ':' :: rest))
      = .ok (.plain category.optionLetters [], rest) := by
  unfold CategoryDefinition.optionLetters
  generalize PatternOptions.ofBits category.options = options
  obtain ⟨ignoreCase, multiline, dotAll, spaced, asciiOnly⟩ := options
  cases ignoreCase <;> cases multiline <;> cases dotAll <;> rfl

/-- An opening parenthesis opens a group. -/
theorem readNext_open {rest later : List Lexeme} {head : GroupHead}
    (h : readHead rest = .ok (head, later)) (options : PatternOptions) (parts : List Part) :
    readNext options parts (.plain '(' :: rest) = .ok (.opens head later) := by
  have hspacing : ¬ (options.spaced && isSpacingLexeme (.plain '(')) = true := by
    rw [show isSpacingLexeme (.plain '(') = false by decide, Bool.and_false]
    exact Bool.false_ne_true
  have hcomment : ¬ (options.spaced && Lexeme.plain '(' == .plain '#') = true := by
    rw [show (Lexeme.plain '(' == .plain '#') = false by decide, Bool.and_false]
    exact Bool.false_ne_true
  rw [readNext, if_neg (by decide), if_neg hspacing, if_neg hcomment, if_pos (by decide), h]
  rfl

/-- A single part that nothing follows is a sequence. -/
theorem readSequence_single {atStart : Bool} {options : PatternOptions} {fuel : Nat} {part : Part}
    {s r : Source} {q : Pattern} (hstop : readNext options [part] s.rest = .ok .stop)
    (h : readSequence atStart options fuel [part] s = .ok (q, r)) : q = part.pattern ∧ r = s := by
  cases fuel with
  | zero => cases h
  | succ fuel =>
    rw [readSequence, hstop] at h
    cases h
    exact ⟨rfl, rfl⟩

/-- **The pattern of a category as the body of a group.** -/
theorem readBody_closed {options : PatternOptions} (hspaced : options.spaced = false)
    {written : List Char} {p : Pattern} (hparse : parse options written = .ok p)
    {lexemes t : List Lexeme} (hlexemes : Lexeme.ofChars written = .ok lexemes) {fuel : Nat}
    {s : Source} (hrest : s.rest = closed lexemes t) (hpos : 1 ≤ s.nextGroup) {q : Pattern}
    {r : Source} (h : readBody options fuel s = .ok (q, r)) :
    (∃ d, q = p.renumber d) ∧ r.rest = t ∧ s.Follows r := by
  cases fuel with
  | zero => cases h
  | succ fuel =>
    rw [readBody] at h
    obtain ⟨⟨body, later⟩, hread, h⟩ := bind_eq_ok.mp h
    obtain ⟨rfl, hlater, hfollows⟩ :=
      readAlternatives_eq_renumber hspaced hparse hlexemes hrest hpos hread
    dsimp only at h
    rw [hlater] at h
    cases h
    exact ⟨⟨_, rfl⟩, rfl, hfollows.options, hfollows.counted⟩

/-- A group around all that a body has is read as the body inside it. -/
theorem readBody_group {options inner : PatternOptions} {add remove : List Char}
    {rest t : List Lexeme} (hhead : readHead rest = .ok (.plain add remove, t))
    (hinner : switchAll options add remove = inner) {later : List Lexeme} {p : Pattern → Prop}
    {s : Source} (hrest : s.rest = .plain '(' :: rest)
    (hbody : ∀ {fuel : Nat} {q : Pattern} {r : Source},
      readBody inner fuel { s with rest := t } = .ok (q, r) →
      p q ∧ r.rest = .plain ')' :: later ∧ Source.Follows { s with rest := t } r)
    {fuel : Nat} {q : Pattern} {r : Source} (h : readBody options fuel s = .ok (q, r)) :
    p q ∧ r.rest = later ∧ s.Follows r := by
  cases fuel with
  | zero => cases h
  | succ fuel =>
    rw [readBody] at h
    obtain ⟨⟨body, after⟩, hread, h⟩ := bind_eq_ok.mp h
    cases fuel with
    | zero => cases hread
    | succ fuel =>
      rw [readAlternatives] at hread
      obtain ⟨⟨single, left⟩, hsequence, hread⟩ := bind_eq_ok.mp hread
      cases fuel with
      | zero => cases hsequence
      | succ fuel =>
        rw [readSequence, hrest, readNext_open hhead] at hsequence
        obtain ⟨_, hok, hsequence⟩ := bind_eq_ok.mp hsequence
        cases hok
        obtain ⟨⟨q', r'⟩, hgroup, hsequence⟩ := bind_eq_ok.mp hsequence
        subst hinner
        obtain ⟨hpattern, hleft, hfollows⟩ := hbody hgroup
        -- behind the group stands the parenthesis of the body
        obtain ⟨rfl, rfl⟩ := readSequence_single (by rw [hleft]; rfl) hsequence
        dsimp only at hread
        rw [hleft] at hread
        cases hread
        dsimp only at h
        rw [hleft] at h
        cases h
        exact ⟨hpattern, rfl, hfollows.options, hfollows.counted⟩

/-- What is pasted for a category, read as the body of its group. -/
theorem readBody_underLetters {category : CategoryDefinition} {p : Pattern}
    (hkept : category.kept = .ok p) {lexemes t : List Lexeme}
    (hlexemes : Lexeme.ofChars category.pattern.toList = .ok lexemes) {fuel : Nat} {s : Source}
    (hrest : s.rest = Lexeme.underLetters category.optionLetters lexemes t)
    (hpos : 1 ≤ s.nextGroup) {q : Pattern} {r : Source} (h : readBody {} fuel s = .ok (q, r)) :
    (∃ d, q = p.renumber d) ∧ r.rest = t ∧ s.Follows r := by
  have hspaced : category.keptOptions.spaced = false := rfl
  unfold Lexeme.underLetters at hrest
  split at hrest
  · -- without letters, the pattern itself is the body
    rename_i hempty
    have hoptions : category.keptOptions = {} := by
      rw [← category.switchAll_optionLetters, List.isEmpty_iff.mp hempty]
      rfl
    rw [CategoryDefinition.kept, hoptions] at hkept
    exact readBody_closed rfl hkept hlexemes hrest hpos h
  · -- with letters, the body is one group more
    have hinner : ∀ {fuel : Nat} {q : Pattern} {r : Source},
        readBody category.keptOptions fuel { s with rest := closed lexemes (.plain ')' :: t) }
          = .ok (q, r) →
        (∃ d, q = p.renumber d) ∧ r.rest = .plain ')' :: t ∧
          Source.Follows { s with rest := closed lexemes (.plain ')' :: t) } r :=
      fun hbody => readBody_closed (s := { s with rest := closed lexemes (.plain ')' :: t) })
        hspaced hkept hlexemes rfl hpos hbody
    exact readBody_group (p := fun q => ∃ d, q = p.renumber d)
      (readHead_optionLetters category _) category.switchAll_optionLetters hrest hinner h

/-- **One alternative of the joined pattern**, read where a bar or the end
follows it: a group with the name of the category around the pattern of the
category. -/
theorem readSequence_alternative {category : CategoryDefinition}
    (hname : CharClass.isIdentifier category.name.toList = true) {p : Pattern}
    (hkept : category.kept = .ok p) {lexemes t : List Lexeme}
    (hlexemes : Lexeme.ofChars category.pattern.toList = .ok lexemes)
    (hend : ∀ parts, readNext {} parts t = .ok .stop) {atStart : Bool} {fuel : Nat} {s : Source}
    (hrest : s.rest = Lexeme.opening category.name.toList
      (Lexeme.underLetters category.optionLetters lexemes t)) (hpos : 1 ≤ s.nextGroup)
    {q : Pattern} {r : Source} (h : readSequence atStart {} fuel [] s = .ok (q, r)) :
    (∃ d, q = .group s.nextGroup (some category.name) (p.renumber d)) ∧ r.rest = t
      ∧ s.Follows r := by
  cases fuel with
  | zero => cases h
  | succ fuel =>
    rw [readSequence, hrest, Lexeme.opening, readNext_open (readHead_opening hname _)] at h
    obtain ⟨_, hok, h⟩ := bind_eq_ok.mp h
    cases hok
    obtain ⟨inner, hinner, h⟩ := bind_eq_ok.mp h
    obtain ⟨⟨body, later⟩, hbody, h⟩ := bind_eq_ok.mp h
    have hcounted := (Source.Follows.of_count hinner).of_rest
    have hinnerRest : inner.rest = Lexeme.underLetters category.optionLetters lexemes t := by
      rw [Source.eq_of_count hinner]
    obtain ⟨⟨d, rfl⟩, hlater, hfollows⟩ := readBody_underLetters hkept hlexemes hinnerRest
      (Nat.le_trans hpos hcounted.counted) hbody
    obtain ⟨rfl, rfl⟩ := readSequence_single (by rw [hlater]; exact hend _) h
    exact ⟨⟨d, rfl⟩, hlater, hcounted.trans hfollows⟩

/-- Renumbering the groups of a pattern does not change where it leads. -/
theorem agree_renumber (d : Nat) (p : Pattern) : (p.renumber d).Agree p := by
  intro text offset
  rw [show Cursor.start offset = (Cursor.start offset).renumber d from rfl, ways_renumber,
    List.map_map]
  rfl

end Pattern

/-- **A definition of a category gives a category**: it has a name that is an
identifier, and its pattern can be read under the options that are kept. -/
structure CategoryDefinition.Gives (definition : CategoryDefinition) (c : Category) : Prop where
  identifier : CharClass.isIdentifier definition.name.toList = true
  category : definition.category = .ok c

theorem CategoryDefinition.Gives.kept {definition : CategoryDefinition} {c : Category}
    (h : definition.Gives c) :
    definition.kept = .ok c.pattern ∧ c.name = definition.name ∧ c.tag = definition.tag := by
  obtain ⟨p, hp, rfl⟩ := map_eq_ok.mp h.category
  exact ⟨hp, rfl, rfl⟩

/-- The alternative of a category in the joined pattern. -/
theorem CategoryDefinition.Gives.isAlternative {definition : CategoryDefinition} {c : Category}
    (h : definition.Gives c) (index d : Nat) :
    c.IsAlternative (.group index (some definition.name) (c.pattern.renumber d)) := by
  refine ⟨index, c.pattern.renumber d, ?_, Pattern.agree_renumber d c.pattern⟩
  rw [h.kept.2.1]

namespace RuleDefinition

/-- The joined pattern of some categories, as text. -/
def joinedText (definitions : List CategoryDefinition) : List Char :=
  ("|".intercalate (definitions.map (·.alternative))).toList

theorem joinedText_singleton (definition : CategoryDefinition) :
    joinedText [definition] = definition.alternative.toList ++ [] := by
  rw [joinedText, List.map_singleton, String.intercalate_singleton, List.append_nil]

theorem joinedText_cons_cons (first second : CategoryDefinition)
    (rest : List CategoryDefinition) :
    joinedText (first :: second :: rest)
      = first.alternative.toList ++ '|' :: joinedText (second :: rest) := by
  rw [joinedText, List.map_cons, List.map_cons, String.intercalate_cons_cons, joinedText,
    String.toList_append, String.toList_append, List.append_assoc]
  rfl

/-- **Reading the joined pattern gives the choice of the alternatives** of the
categories, after those that have been read before. -/
theorem alternatives_of_readAlternatives {definitions : List CategoryDefinition}
    {categories : List Category}
    (h : List.Forall₂ CategoryDefinition.Gives definitions categories) (hne : definitions ≠ [])
    {options : PatternOptions} {fuel : Nat} {ps : List Pattern} {s r : Source} {q : Pattern}
    (hlexemes : Lexeme.ofChars (joinedText definitions) = .ok s.rest) (hoptions : s.options = {})
    (hpos : 1 ≤ s.nextGroup) (hread : readAlternatives false options fuel ps s = .ok (q, r)) :
    ∃ alternatives, List.Forall₂ Category.IsAlternative categories alternatives ∧
      q = Pattern.choice (ps.reverse ++ alternatives) := by
  induction h generalizing options fuel ps s with
  | nil => exact absurd rfl hne
  | @cons definition c definitions categories hfirst hrest ih =>
    cases fuel with
    | zero => cases hread
    | succ fuel =>
      have hkept := hfirst.kept.1
      obtain ⟨lexemes, -, hpattern, -⟩ := Pattern.exists_of_parse_eq_ok hkept
      rw [readAlternatives] at hread
      obtain ⟨⟨p, later⟩, hsequence, hread⟩ := bind_eq_ok.mp hread
      dsimp only at hsequence hread
      rw [if_neg Bool.false_ne_true, hoptions] at hsequence
      cases definitions with
      | nil =>
        rw [joinedText_singleton,
          CategoryDefinition.ofChars_alternative hfirst.identifier hpattern] at hlexemes
        obtain ⟨t, ht, hsource⟩ := map_eq_ok.mp hlexemes
        cases ht
        obtain ⟨⟨d, rfl⟩, hlater, -⟩ := Pattern.readSequence_alternative hfirst.identifier hkept
          hpattern (fun _ => rfl) hsource.symm hpos hsequence
        rw [hlater] at hread
        cases hread
        cases hrest
        exact ⟨_, .cons (hfirst.isAlternative s.nextGroup d) .nil, by rw [List.reverse_cons]⟩
      | cons second definitions =>
        rw [joinedText_cons_cons,
          CategoryDefinition.ofChars_alternative hfirst.identifier hpattern,
          Lexeme.ofChars_cons (by decide)] at hlexemes
        obtain ⟨t, ht, hsource⟩ := map_eq_ok.mp hlexemes
        obtain ⟨left, hleft, rfl⟩ := map_eq_ok.mp ht
        obtain ⟨⟨d, rfl⟩, hlater, hfollows⟩ := Pattern.readSequence_alternative hfirst.identifier
          hkept hpattern (fun _ => rfl) hsource.symm hpos hsequence
        rw [hlater] at hread
        obtain ⟨alternatives, halternatives, rfl⟩ := ih (List.cons_ne_nil _ _)
          (s := { later with rest := left }) hleft (hfollows.options.trans hoptions)
          (Nat.le_trans hpos hfollows.counted) hread
        refine ⟨_, .cons (hfirst.isAlternative s.nextGroup d) halternatives, ?_⟩
        rw [List.reverse_cons, List.append_assoc]
        rfl

/-- A category that has been checked is named by an identifier. -/
theorem isIdentifier_of_check {category : CategoryDefinition} (h : category.check = .ok ()) :
    CharClass.isIdentifier category.name.toList = true := by
  unfold CategoryDefinition.check at h
  split at h
  · cases h
  · rename_i hname
    rw [Bool.not_eq_true, Bool.not_eq_false'] at hname
    exact hname

/-- The pattern of a category that has been checked can be read. -/
theorem exists_alone_of_check {category : CategoryDefinition} (h : category.check = .ok ()) :
    ∃ pattern, category.alone = .ok pattern := by
  unfold CategoryDefinition.check at h
  split at h
  · cases h
  · obtain ⟨pattern, hpattern, -⟩ := bind_eq_ok.mp h
    cases halone : category.alone with
    | ok pattern => exact ⟨pattern, rfl⟩
    | error cause =>
      rw [halone] at hpattern
      cases hpattern

/-- Checking all categories checks each of them. -/
theorem check_of_forM {definitions : List CategoryDefinition}
    (h : definitions.forM (·.check) = .ok ()) : ∀ c ∈ definitions, c.check = .ok () := by
  induction definitions with
  | nil => exact fun c hc => nomatch hc
  | cons first definitions ih =>
    obtain ⟨_, hfirst, hrest⟩ := bind_eq_ok.mp h
    intro c hc
    obtain rfl | hc := List.mem_cons.mp hc
    · exact hfirst
    · exact ih hrest c hc

/-- The steps of making a language, when none of them fails. -/
theorem exists_of_compile_eq_ok {definition : RuleDefinition} {rule : Rule}
    (h : definition.compile = .ok rule) :
    (∀ c ∈ definition.categories, c.check = .ok ()) ∧
      (definition.categories.map (·.name)).Nodup ∧ read? {} definition.joined = .ok rule.tokens ∧
      rule.styles = definition.categories.map fun c => (c.name, c.tag) := by
  unfold compile at h
  obtain ⟨_, hchecked, h⟩ := bind_eq_ok.mp h
  dsimp only at h
  split at h
  · cases h
  rename_i hdistinct
  split at h
  · cases h
  obtain ⟨tokens, htokens, h⟩ := bind_eq_ok.mp h
  obtain ⟨header, hheader, h⟩ := bind_eq_ok.mp h
  cases h
  refine ⟨check_of_forM hchecked, ?_, htokens, rfl⟩
  rw [Bool.not_eq_true, Bool.not_eq_false', decide_eq_true_eq] at hdistinct
  exact hdistinct

/-- The categories of some definitions, one by one. -/
theorem forall₂_gives_of_mapM {definitions : List CategoryDefinition} {categories : List Category}
    (h : definitions.mapM (·.category) = .ok categories)
    (hchecked : ∀ c ∈ definitions, c.check = .ok ()) :
    List.Forall₂ CategoryDefinition.Gives definitions categories := by
  induction definitions generalizing categories with
  | nil =>
    cases h
    exact .nil
  | cons first definitions ih =>
    rw [List.mapM_cons] at h
    obtain ⟨c, hc, h⟩ := bind_eq_ok.mp h
    obtain ⟨rest, hrest, h⟩ := bind_eq_ok.mp h
    cases h
    exact .cons ⟨isIdentifier_of_check (hchecked first List.mem_cons_self), hc⟩
      (ih hrest fun c hc => hchecked c (List.mem_cons_of_mem _ hc))

/-- Categories keep the names and tags of their definitions. -/
theorem styles_of_forall₂_gives {definitions : List CategoryDefinition}
    {categories : List Category}
    (h : List.Forall₂ CategoryDefinition.Gives definitions categories) :
    categories.map (fun c => (c.name, c.tag)) = definitions.map fun c => (c.name, c.tag) := by
  induction h with
  | nil => rfl
  | cons hfirst _ ih =>
    obtain ⟨-, hname, htag⟩ := hfirst.kept
    rw [List.map_cons, List.map_cons, hname, htag, ih]

/-- The token pattern of a language is the choice of its alternatives. -/
theorem tokens_of_read {definition : RuleDefinition} {tokens : Option Pattern}
    (h : read? {} definition.joined = .ok tokens) {categories : List Category}
    (hgives : List.Forall₂ CategoryDefinition.Gives definition.categories categories) :
    ∃ alternatives, List.Forall₂ Category.IsAlternative categories alternatives ∧
      tokens = if categories.isEmpty then none else some (Pattern.choice alternatives) := by
  unfold joined at h
  cases hlist : definition.categories with
  | nil =>
    rw [hlist] at h hgives
    cases h
    cases hgives
    exact ⟨[], .nil, rfl⟩
  | cons first rest =>
    rw [hlist] at h hgives
    have hne : categories.isEmpty = false := by
      cases hgives
      rfl
    obtain ⟨p, hparse, rfl⟩ := map_eq_ok.mp (mapError_eq_ok.mp h)
    obtain ⟨lexemes, source, hlexemes, hread, -⟩ := Pattern.exists_of_parse_eq_ok hparse
    obtain ⟨alternatives, halternatives, rfl⟩ := alternatives_of_readAlternatives hgives
      (List.cons_ne_nil first rest) (s := ⟨lexemes, 1, [], {}, false, false⟩) hlexemes rfl
      (Nat.le_refl 1) hread
    refine ⟨alternatives, halternatives, ?_⟩
    rw [hne]
    rfl

/-- **A language divides texts by the categories that define it.** -/
theorem dividesBy_of_compile {definition : RuleDefinition} {rule : Rule}
    (h : definition.compile = .ok rule) {categories : List Category}
    (hcategories : definition.categories.mapM (·.category) = .ok categories) :
    rule.DividesBy categories := by
  obtain ⟨hchecked, hdistinct, htokens, hstyles⟩ := exists_of_compile_eq_ok h
  have hgives := forall₂_gives_of_mapM hcategories hchecked
  have hsame := styles_of_forall₂_gives hgives
  refine ⟨hstyles.trans hsame.symm, ?_, tokens_of_read htokens hgives⟩
  have hnames : categories.map (·.name) = definition.categories.map (·.name) := by
    have hfirsts := congrArg (List.map Prod.fst) hsame
    rw [List.map_map, List.map_map] at hfirsts
    exact hfirsts
  rw [hnames]
  exact hdistinct

end RuleDefinition

end SourceLens
