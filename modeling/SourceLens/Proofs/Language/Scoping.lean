import Mathlib
import SourceLens.Proofs.Language.Categories
import SourceLens.Proofs.Pattern.Pasting

/-!
# Categories that behave as they do alone

The joined pattern of a definition is a text, so what its categories mean there
has to be read again. This module says when the reading succeeds and what it
gives: if every pattern can be read under the options that are kept, has no
groups, and does not start with options for the whole pattern, then the joined
pattern is the one that the library would make of these categories
(`RuleDefinition.read_joined`), whatever stands next to each other.

A category that has been accepted satisfies the first two for its own options.
So it behaves in a language as it does alone, as long as its options without a
letter make no difference to its pattern and it does not set options for the
whole pattern (`RuleDefinition.readsApart`). Neither is checked when it is
accepted, and without them it need not (`RuleDefinition.not_forall_readsApart`).
-/

namespace SourceLens

open Pattern.Parser

namespace Pattern

/-! ## Patterns that are read -/

/-- Every look-behind of a pattern that is read has one width. -/
theorem lookBehindsFixed_of_parse {options : PatternOptions} {written : List Char} {p : Pattern}
    (h : parse options written = .ok p) : lookBehindsFixed p = true := by
  unfold parse at h
  obtain ⟨lexemes, -, h⟩ := bind_eq_ok.mp h
  obtain ⟨⟨q, source⟩, -, h⟩ := bind_eq_ok.mp h
  dsimp only at h
  split at h
  · cases h
  split at h
  · cases h
  split at h
  · cases h
  · rename_i hfixed
    cases h
    rwa [Bool.not_eq_true, Bool.not_eq_false'] at hfixed

/-- A pattern is read if its alternatives are read to the end. -/
theorem parse_eq_ok {options : PatternOptions} {written : List Char} {lexemes : List Lexeme}
    (hlexemes : Lexeme.ofChars written = .ok lexemes) {p : Pattern} {r : Source}
    (hread : readAlternatives false options (3 * lexemes.length + 3) []
      ⟨lexemes, 1, [], options, options.asciiOnly, false⟩ = .ok (p, r))
    (hrest : r.rest = []) (hascii : r.asciiAsked = false) (hfixed : lookBehindsFixed p = true) :
    parse options written = .ok p := by
  unfold parse
  rw [hlexemes]
  refine bind_eq_ok.mpr ⟨lexemes, rfl, bind_eq_ok.mpr ⟨(p, r), hread, ?_⟩⟩
  dsimp only
  rw [hrest, hascii, hfixed]
  rfl

theorem lookBehindsFixed_choice {ps : List Pattern} (h : ∀ p ∈ ps, lookBehindsFixed p = true) :
    lookBehindsFixed (choice ps) = true := by
  induction ps with
  | nil => rfl
  | cons p rest ih =>
    obtain ⟨hp, hrest⟩ := List.forall_mem_cons.mp h
    cases rest with
    | nil => exact hp
    | cons q rest => exact Bool.and_eq_true_iff.mpr ⟨hp, ih hrest⟩

/-! ## Reading what is pasted -/

/-- A single part that nothing follows is a sequence. -/
theorem readSequence_eq_ok_of_single {atStart : Bool} {options : PatternOptions} {part : Part}
    {s : Source} (hstop : readNext options [part] s.rest = .ok .stop) {fuel : Nat}
    (hfuel : 1 ≤ fuel) : readSequence atStart options fuel [part] s = .ok (part.pattern, s) := by
  obtain ⟨more, rfl⟩ := Nat.exists_eq_add_of_le' hfuel
  rw [readSequence, hstop]
  rfl

/-- A group around all that a body has is read as the body inside it. -/
theorem readBody_eq_ok_of_group {options : PatternOptions} {add remove : List Char}
    {rest t later : List Lexeme} (hhead : readHead rest = .ok (.plain add remove, t)) {s : Source}
    (hrest : s.rest = .plain '(' :: rest) {fuel : Nat} {p : Pattern}
    (hbody : readBody (switchAll options add remove) (fuel + 1) { s with rest := t }
      = .ok (p, { s with rest := .plain ')' :: later })) :
    readBody options (fuel + 4) s = .ok (p, { s with rest := later }) := by
  have hsequence : readSequence false options (fuel + 2) [] s
      = .ok (p, { s with rest := .plain ')' :: later }) := by
    rw [readSequence, hrest, readNext_open hhead]
    show (readBody _ (fuel + 1) { s with rest := t } >>= fun read => _) = _
    rw [hbody]
    rfl
  rw [readBody, readAlternatives]
  show ((readSequence false options (fuel + 2) [] s >>= fun read => _) >>= fun read => _) = _
  rw [hsequence]
  rfl

end Pattern

namespace CategoryDefinition

/-- The pattern of a category starts with options for the whole pattern. -/
def StartsWithOptions (definition : CategoryDefinition) : Prop :=
  ∃ lexemes, Lexeme.ofChars definition.pattern.toList = .ok lexemes ∧
    OptionsFirst definition.keptOptions lexemes

/-- **A definition pastes a category**: its pattern can be read under the options
that are kept, has no groups, and does not start with options for the whole
pattern. -/
structure Pastes (definition : CategoryDefinition) (c : Category) : Prop where
  gives : definition.Gives c
  bare : c.pattern.groupCount = 0
  part : ¬ definition.StartsWithOptions

variable {definition : CategoryDefinition} {c : Category}

/-- **What is pasted for a category** is read as its pattern. -/
theorem Pastes.readBody (h : definition.Pastes c) {lexemes t : List Lexeme}
    (hlexemes : Lexeme.ofChars definition.pattern.toList = .ok lexemes) {fuel : Nat}
    (hfuel : 3 * lexemes.length + 7 ≤ fuel) {s : Source}
    (hrest : s.rest = Lexeme.underLetters definition.optionLetters lexemes t) :
    Pattern.Parser.readBody {} fuel s = .ok (c.pattern, { s with rest := t }) := by
  have hpasted {fuel : Nat} (hfuel : 3 * lexemes.length + 4 ≤ fuel) {s : Source}
      {t : List Lexeme} (hrest : s.rest = closed lexemes t) :
      Pattern.Parser.readBody definition.keptOptions fuel s
        = .ok (c.pattern, { s with rest := t }) :=
    Pattern.readBody_pasted rfl h.gives.kept.1 h.bare hlexemes
      (fun hfirst => h.part ⟨lexemes, hlexemes, hfirst⟩) hfuel hrest
  unfold Lexeme.underLetters at hrest
  split at hrest
  · -- without letters, the pattern itself is the body
    rename_i hempty
    have hoptions : definition.keptOptions = {} := by
      rw [← definition.switchAll_optionLetters, List.isEmpty_iff.mp hempty]
      rfl
    rw [← hoptions]
    exact hpasted (by omega) hrest
  · -- with letters, the body is one group more
    obtain ⟨more, rfl⟩ := Nat.exists_eq_add_of_le hfuel
    rw [show 3 * lexemes.length + 7 + more = 3 * lexemes.length + 3 + more + 4 by omega]
    refine Pattern.readBody_eq_ok_of_group (Pattern.readHead_optionLetters definition _) hrest ?_
    rw [definition.switchAll_optionLetters]
    exact hpasted (s := { s with rest := _ }) (by omega) rfl

/-- **The alternative of a category is read as a group** with its name, where a
bar or the end follows and the name is not taken. -/
theorem Pastes.readSequence (h : definition.Pastes c) {lexemes t : List Lexeme}
    (hlexemes : Lexeme.ofChars definition.pattern.toList = .ok lexemes)
    (hend : ∀ parts, readNext {} parts t = .ok .stop) (atStart : Bool)
    {fuel : Nat} (hfuel : 3 * lexemes.length + 8 ≤ fuel) {s : Source}
    (hrest : s.rest = Lexeme.opening definition.name.toList
      (Lexeme.underLetters definition.optionLetters lexemes t))
    (hname : definition.name ∉ s.names) :
    Pattern.Parser.readSequence atStart {} fuel [] s
      = .ok (.group s.nextGroup (some c.name) c.pattern,
          { s with
            rest := t, nextGroup := s.nextGroup + 1, names := definition.name :: s.names }) := by
  obtain ⟨more, rfl⟩ := Nat.exists_eq_add_of_le hfuel
  have hcount : Source.count { s with
        rest := Lexeme.underLetters definition.optionLetters lexemes t } (some definition.name)
      = .ok { s with
          rest := Lexeme.underLetters definition.optionLetters lexemes t,
          nextGroup := s.nextGroup + 1, names := definition.name :: s.names } := by
    rw [Source.count, if_neg (by rw [List.contains_iff_mem]; exact hname)]
  rw [show 3 * lexemes.length + 8 + more = 3 * lexemes.length + 7 + more + 1 by omega,
    Pattern.Parser.readSequence, hrest, Lexeme.opening,
    Pattern.readNext_open (Pattern.readHead_opening h.gives.identifier _)]
  refine bind_eq_ok.mpr ⟨_, rfl, bind_eq_ok.mpr ⟨_, hcount, bind_eq_ok.mpr ⟨_, h.readBody hlexemes
    (Nat.le_add_right _ _) rfl, ?_⟩⟩⟩
  rw [h.gives.kept.2.1]
  exact Pattern.readSequence_eq_ok_of_single (hend _) (by omega)

end CategoryDefinition

/-! ## The joined pattern -/

theorem Lexeme.length_opening (name : List Char) (rest : List Lexeme) :
    (opening name rest).length = name.length + rest.length + 5 := by
  simp [opening]
  omega

theorem Lexeme.length_underLetters_le (letters : List Char) (lexemes t : List Lexeme) :
    lexemes.length + t.length + 1 ≤ (underLetters letters lexemes t).length := by
  unfold underLetters closed
  split
  · simp
  · simp
    omega

namespace RuleDefinition

/-- **The joined pattern is read as the numbered alternatives of the categories**,
after those that have been read before. The fuel that is left is enough for what
is left to be read. -/
theorem readAlternatives_joinedText {definitions : List CategoryDefinition}
    {categories : List Category} (h : List.Forall₂ CategoryDefinition.Pastes definitions categories)
    (hne : definitions ≠ []) (hdistinct : (definitions.map (·.name)).Nodup)
    (options : PatternOptions) (fuel : Nat) (ps : List Pattern) (s : Source)
    (hlexemes : Lexeme.ofChars (joinedText definitions) = .ok s.rest) (hoptions : s.options = {})
    (hnames : ∀ definition ∈ definitions, definition.name ∉ s.names)
    (hfuel : 3 * s.rest.length + 3 ≤ fuel) :
    ∃ r, readAlternatives false options fuel ps s
        = .ok (Pattern.choice (ps.reverse ++ Rule.alternatives s.nextGroup categories), r) ∧
      r.rest = [] ∧ r.asciiAsked = s.asciiAsked := by
  induction h generalizing options fuel ps s with
  | nil => exact absurd rfl hne
  | @cons definition c definitions categories hfirst hrest ih =>
    obtain ⟨more, rfl⟩ := Nat.exists_eq_add_of_le' (Nat.le_of_add_left_le hfuel : 1 ≤ fuel)
    obtain ⟨lexemes, -, hpattern, -⟩ := Pattern.exists_of_parse_eq_ok hfirst.gives.kept.1
    have hname := hnames definition List.mem_cons_self
    rw [List.map_cons, List.nodup_cons] at hdistinct
    have hlength : ∀ t, s.rest = Lexeme.opening definition.name.toList
        (Lexeme.underLetters definition.optionLetters lexemes t) →
        lexemes.length + t.length + 6 ≤ s.rest.length := by
      intro t ht
      have hunder := Lexeme.length_underLetters_le definition.optionLetters lexemes t
      rw [ht, Lexeme.length_opening]
      omega
    rw [readAlternatives, if_neg Bool.false_ne_true, hoptions]
    cases definitions with
    | nil =>
      rw [joinedText_singleton,
        CategoryDefinition.ofChars_alternative hfirst.gives.identifier hpattern] at hlexemes
      obtain ⟨t, ht, hsource⟩ := map_eq_ok.mp hlexemes
      cases ht
      have hshort := hlength _ hsource.symm
      have hmore : 3 * lexemes.length + 8 ≤ more := by
        rw [List.length_nil] at hshort
        omega
      have hread := hfirst.readSequence hpattern (t := []) (fun _ => rfl)
        (!false && ps.isEmpty) hmore hsource.symm hname
      cases hrest
      refine ⟨{ s with
          rest := [], nextGroup := s.nextGroup + 1, names := definition.name :: s.names },
        bind_eq_ok.mpr ⟨_, hread, ?_⟩, rfl, rfl⟩
      dsimp only
      rw [List.reverse_cons]
      rfl
    | cons second definitions =>
      rw [joinedText_cons_cons,
        CategoryDefinition.ofChars_alternative hfirst.gives.identifier hpattern,
        Lexeme.ofChars_cons (by decide)] at hlexemes
      obtain ⟨t, ht, hsource⟩ := map_eq_ok.mp hlexemes
      obtain ⟨left, hleft, rfl⟩ := map_eq_ok.mp ht
      have hshort := hlength _ hsource.symm
      rw [List.length_cons] at hshort
      have hmore : 3 * lexemes.length + 8 ≤ more := by omega
      have hread := hfirst.readSequence hpattern (t := .plain '|' :: left) (fun _ => rfl)
        (!false && ps.isEmpty) hmore hsource.symm hname
      -- the name of this category is taken from here on
      have htaken : ∀ other ∈ second :: definitions, other.name ∉ definition.name :: s.names := by
        intro other hother hmem
        obtain heq | hmem := List.mem_cons.mp hmem
        · exact hdistinct.1 (heq ▸ List.mem_map_of_mem hother)
        · exact hnames other (List.mem_cons_of_mem _ hother) hmem
      obtain ⟨r, halternatives, hend, hascii⟩ := ih (List.cons_ne_nil _ _) hdistinct.2 {} more
        (.group s.nextGroup (some c.name) c.pattern :: ps)
        { s with rest := left, nextGroup := s.nextGroup + 1, names := definition.name :: s.names }
        hleft hoptions htaken (by dsimp only; omega)
      refine ⟨r, bind_eq_ok.mpr ⟨_, hread, ?_⟩, hend, hascii⟩
      rw [List.reverse_cons, List.append_assoc] at halternatives
      exact halternatives

/-- Every look-behind of the alternatives has one width. -/
theorem lookBehindsFixed_of_mem_alternatives {definitions : List CategoryDefinition}
    {categories : List Category} (h : List.Forall₂ CategoryDefinition.Pastes definitions categories)
    (index : Nat) : ∀ p ∈ Rule.alternatives index categories, lookBehindsFixed p = true := by
  induction h generalizing index with
  | nil => exact fun p hp => nomatch hp
  | cons hfirst _ ih =>
    have hfixed := Pattern.lookBehindsFixed_of_parse hfirst.gives.kept.1
    exact List.forall_mem_cons.mpr ⟨hfixed, ih (index + 1)⟩

/-- The joined text can be divided into lexemes. -/
theorem exists_ofChars_joinedText {definitions : List CategoryDefinition}
    {categories : List Category} (h : List.Forall₂ CategoryDefinition.Pastes definitions categories)
    (hne : definitions ≠ []) :
    ∃ lexemes, Lexeme.ofChars (joinedText definitions) = .ok lexemes := by
  induction h with
  | nil => exact absurd rfl hne
  | @cons definition c definitions categories hfirst _ ih =>
    obtain ⟨lexemes, -, hpattern, -⟩ := Pattern.exists_of_parse_eq_ok hfirst.gives.kept.1
    cases definitions with
    | nil =>
      rw [joinedText_singleton,
        CategoryDefinition.ofChars_alternative hfirst.gives.identifier hpattern]
      exact ⟨_, rfl⟩
    | cons second definitions =>
      obtain ⟨left, hleft⟩ := ih (List.cons_ne_nil _ _)
      rw [joinedText_cons_cons,
        CategoryDefinition.ofChars_alternative hfirst.gives.identifier hpattern,
        Lexeme.ofChars_cons (by decide), hleft]
      exact ⟨_, rfl⟩

/-- **The joined pattern can be read**, as text, and is the pattern that the
library makes of the categories. -/
theorem parse_joinedText {definitions : List CategoryDefinition} {categories : List Category}
    (h : List.Forall₂ CategoryDefinition.Pastes definitions categories) (hne : definitions ≠ [])
    (hdistinct : (definitions.map (·.name)).Nodup) :
    Pattern.parse {} (joinedText definitions)
      = .ok (Pattern.choice (Rule.alternatives 1 categories)) := by
  obtain ⟨lexemes, hlexemes⟩ := exists_ofChars_joinedText h hne
  obtain ⟨r, hread, hrest, hascii⟩ := readAlternatives_joinedText h hne hdistinct
    {} (3 * lexemes.length + 3) [] ⟨lexemes, 1, [], {}, false, false⟩ hlexemes rfl
    (fun _ _ => List.not_mem_nil)
    (Nat.le_refl _)
  exact Pattern.parse_eq_ok hlexemes hread hrest hascii
    (Pattern.lookBehindsFixed_choice (lookBehindsFixed_of_mem_alternatives h 1))

/-- **The joined pattern of a definition** is read as the pattern that the
library makes of its categories. -/
theorem read_joined {definition : RuleDefinition} {categories : List Category}
    (h : List.Forall₂ CategoryDefinition.Pastes definition.categories categories)
    (hdistinct : (definition.categories.map (·.name)).Nodup) :
    read? {} definition.joined = .ok (Rule.join categories) := by
  unfold joined Rule.join
  cases hlist : definition.categories with
  | nil =>
    rw [hlist] at h
    cases h
    rfl
  | cons first rest =>
    rw [hlist] at h hdistinct
    have hne : categories.isEmpty = false := by
      cases h
      rfl
    rw [hne]
    show ((Pattern.parse {} (joinedText (first :: rest))).map some).mapError
      DefinitionError.pattern = _
    rw [parse_joinedText h (List.cons_ne_nil _ _) hdistinct]
    rfl

end RuleDefinition

/-! ## What has been accepted -/

namespace CategoryDefinition

/-- An alternative of a joined pattern behaves as a category does alone: it is a
group with the name of the category, and matches where the pattern of the
category matches under all its options, with the same end. -/
def BehavesAs (definition : CategoryDefinition) (alternative : Pattern) : Prop :=
  ∃ p index body, definition.alone = .ok p ∧
    alternative = .group index (some definition.name) body ∧
    ∀ (text : Text) (offset : Nat),
      (alternative.matchAt text offset).map (·.stop) = (p.matchAt text offset).map (·.stop)

variable {definition : CategoryDefinition}

/-- A category that has been accepted has no groups. -/
theorem exists_of_check (h : definition.check = .ok ()) :
    CharClass.isIdentifier definition.name.toList = true ∧
      ∃ p, definition.alone = .ok p ∧ p.groupCount = 0 := by
  refine ⟨RuleDefinition.isIdentifier_of_check h, ?_⟩
  obtain ⟨p, halone⟩ := RuleDefinition.exists_alone_of_check h
  refine ⟨p, halone, ?_⟩
  unfold check at h
  split at h
  · cases h
  · rw [halone] at h
    dsimp only [Except.mapError] at h
    by_contra hgroups
    rw [show (Except.ok p >>= _ : Except DefinitionError Unit)
      = if p.groupCount != 0 then .error _ else .ok () from rfl] at h
    rw [if_pos (bne_iff_ne.mpr hgroups)] at h
    cases h

/-- The category that a definition which has been accepted pastes. -/
theorem exists_pastes_of_check (h : definition.check = .ok ())
    (hkept : definition.kept = definition.alone) (hpart : ¬ definition.StartsWithOptions) :
    ∃ c, definition.Pastes c ∧ definition.alone = .ok c.pattern := by
  obtain ⟨hname, p, halone, hbare⟩ := exists_of_check h
  refine ⟨⟨definition.name, definition.tag, p⟩, ⟨⟨hname, ?_⟩, hbare, hpart⟩, halone⟩
  rw [category, hkept, halone]
  rfl

/-- The alternative of a category matches where its pattern does. -/
theorem behavesAs_group {p : Pattern} (h : definition.alone = .ok p) (index : Nat) :
    definition.BehavesAs (.group index (some definition.name) p) := by
  refine ⟨p, index, p, h, rfl, fun text offset => ?_⟩
  rw [Pattern.matchAt_eq_head?, Pattern.matchAt_eq_head?, Pattern.ways, List.head?_map,
    Option.map_map, Option.map_map, Option.map_map]
  rfl

/-- A pattern that starts with options for the whole pattern starts with a
parenthesis. -/
theorem StartsWithOptions.exists_eq_cons (h : definition.StartsWithOptions) :
    ∃ rest, definition.pattern.toList = '(' :: rest := by
  obtain ⟨lexemes, hlexemes, hfirst⟩ := h
  have hopens : ∃ later, lexemes = .plain '(' :: later := by
    have hopens {next : Next} (hnext : readNext definition.keptOptions [] lexemes = .ok next)
        (hparts : ∀ parts later, next ≠ .parts parts later) (hstop : next ≠ .stop) :
        ∃ later, lexemes = .plain '(' :: later := by
      cases lexemes with
      | nil =>
        cases hnext
        exact absurd rfl hstop
      | cons first rest =>
        rw [readNext] at hnext
        split at hnext
        · cases hnext
          exact absurd rfl hstop
        rw [show definition.keptOptions.spaced = false from rfl, Bool.false_and,
          if_neg Bool.false_ne_true, Bool.false_and, if_neg Bool.false_ne_true] at hnext
        split at hnext
        · rename_i hfirst
          exact ⟨rest, by rw [beq_iff_eq.mp hfirst]⟩
        obtain ⟨bounds, -, hnext⟩ := bind_eq_ok.mp hnext
        cases bounds with
        | none =>
          obtain ⟨_, -, hnext⟩ := bind_eq_ok.mp hnext
          cases hnext
          exact absurd rfl (hparts _ _)
        | some bounds =>
          obtain ⟨_, -, hnext⟩ := bind_eq_ok.mp hnext
          cases hnext
          exact absurd rfl (hparts _ _)
    cases hfirst with
    | here next => exact hopens next (by rintro _ _ ⟨⟩) (by rintro ⟨⟩)
    | comment next => exact hopens next (by rintro _ _ ⟨⟩) (by rintro ⟨⟩)
    | skip next => exact hopens next (by rintro _ _ ⟨⟩) (by rintro ⟨⟩)
  obtain ⟨later, rfl⟩ := hopens
  cases hchars : definition.pattern.toList with
  | nil =>
    rw [hchars] at hlexemes
    cases hlexemes
  | cons c rest =>
    rw [hchars] at hlexemes
    by_cases hc : c = '\\'
    · subst hc
      cases rest with
      | nil => cases hlexemes
      | cons d rest =>
        obtain ⟨_, -, hcons⟩ := map_eq_ok.mp hlexemes
        cases hcons
    · rw [Lexeme.ofChars_cons hc] at hlexemes
      obtain ⟨_, -, hcons⟩ := map_eq_ok.mp hlexemes
      cases hcons
      exact ⟨rest, rfl⟩

end CategoryDefinition

namespace RuleDefinition

/-- **The categories of a definition behave as they do alone**: the joined
pattern can be read, and its alternatives behave as the categories do. -/
def ReadsApart (definition : RuleDefinition) : Prop :=
  ∃ alternatives,
    read? {} definition.joined = .ok
      (if definition.categories.isEmpty then none else some (Pattern.choice alternatives)) ∧
    List.Forall₂ CategoryDefinition.BehavesAs definition.categories alternatives

/-- Some categories behave as their numbered alternatives. -/
theorem forall₂_behavesAs {definitions : List CategoryDefinition}
    (h : ∀ d ∈ definitions, ∃ c, d.Pastes c ∧ d.alone = .ok c.pattern) (index : Nat) :
    ∃ categories, List.Forall₂ CategoryDefinition.Pastes definitions categories ∧
      List.Forall₂ CategoryDefinition.BehavesAs definitions
        (Rule.alternatives index categories) := by
  induction definitions generalizing index with
  | nil => exact ⟨[], .nil, .nil⟩
  | cons d definitions ih =>
    obtain ⟨hfirst, hrest⟩ := List.forall_mem_cons.mp h
    obtain ⟨c, hpastes, halone⟩ := hfirst
    obtain ⟨categories, hcategories, hbehave⟩ := ih hrest (index + 1)
    refine ⟨c :: categories, .cons hpastes hcategories, .cons ?_ hbehave⟩
    rw [hpastes.gives.kept.2.1]
    exact CategoryDefinition.behavesAs_group halone index

/-- A definition whose joined pattern and header can be read makes a language. -/
theorem compile_eq_ok {definition : RuleDefinition} {tokens header : Option Pattern}
    (hchecked : ∀ c ∈ definition.categories, c.check = .ok ())
    (hdistinct : (definition.categories.map (·.name)).Nodup)
    (htokens : read? {} definition.joined = .ok tokens)
    (hheader : read? { multiline := true } definition.header? = .ok header)
    (hstyle : definition.header?.isSome →
      (definition.blockStyle.bind BlockStyle.ofName?).isSome) :
    definition.compile = .ok {
      key := definition.key
      aliases := definition.aliases
      extension := definition.extension
      styles := definition.categories.map fun c => (c.name, c.tag)
      tokens
      functions := do return ⟨← definition.blockStyle.bind BlockStyle.ofName?, ← header⟩ } := by
  have hforM : ∀ definitions : List CategoryDefinition,
      (∀ c ∈ definitions, c.check = .ok ()) → definitions.forM (·.check) = .ok () := by
    intro definitions hchecked
    induction definitions with
    | nil => rfl
    | cons first rest ih =>
      obtain ⟨hfirst, hrest⟩ := List.forall_mem_cons.mp hchecked
      exact bind_eq_ok.mpr ⟨(), hfirst, ih hrest⟩
  have hstyled : ¬ (definition.header?.isSome
      && (definition.blockStyle.bind BlockStyle.ofName?).isNone) = true := by
    rw [Bool.and_eq_true, Option.isNone_iff_eq_none]
    rintro ⟨hsome, hnone⟩
    have hstyle := hstyle hsome
    rw [hnone] at hstyle
    cases hstyle
  unfold compile
  rw [hforM _ hchecked]
  refine bind_eq_ok.mpr ⟨(), rfl, ?_⟩
  dsimp only
  rw [if_neg (by simpa using hdistinct), if_neg hstyled]
  exact bind_eq_ok.mpr ⟨tokens, htokens, bind_eq_ok.mpr ⟨header, hheader, rfl⟩⟩

/-- **A category behaves in a language as it does alone**, with the flags of no
category changing what another matches: if all categories have been accepted,
have different names, mean the same without the options that have no letter, and
do not start with options for the whole pattern, then the joined pattern can be
read, and every alternative matches where its category does, with the same end.
So does the alternative that is read by itself. If the header can be read, the
definition makes a language. -/
theorem readsApart {definition : RuleDefinition}
    (hchecked : ∀ c ∈ definition.categories, c.check = .ok ())
    (hdistinct : (definition.categories.map (·.name)).Nodup)
    (hkept : ∀ c ∈ definition.categories, c.kept = c.alone)
    (hpart : ∀ c ∈ definition.categories, ¬ c.StartsWithOptions) :
    definition.ReadsApart ∧
    (∀ c ∈ definition.categories, ∃ alternative,
      Pattern.parse {} c.alternative.toList = .ok alternative ∧ c.BehavesAs alternative) ∧
    ∀ header, read? { multiline := true } definition.header? = .ok header →
      (definition.header?.isSome → (definition.blockStyle.bind BlockStyle.ofName?).isSome) →
      ∃ rule, definition.compile = .ok rule ∧
        read? {} definition.joined = .ok rule.tokens := by
  have hpastes : ∀ d ∈ definition.categories, ∃ c, d.Pastes c ∧ d.alone = .ok c.pattern :=
    fun d hd => CategoryDefinition.exists_pastes_of_check (hchecked d hd) (hkept d hd) (hpart d hd)
  obtain ⟨categories, hcategories, hbehave⟩ := forall₂_behavesAs hpastes 1
  have hread := read_joined hcategories hdistinct
  refine ⟨⟨_, ?_, hbehave⟩, fun d hd => ?_, fun header hheader hstyle => ?_⟩
  · have hempty : definition.categories.isEmpty = categories.isEmpty := by
      rw [Bool.eq_iff_iff, List.isEmpty_iff_length_eq_zero, List.isEmpty_iff_length_eq_zero,
        hcategories.length_eq]
    rw [hread, Rule.join, hempty]
  · obtain ⟨c, hc, halone⟩ := hpastes d hd
    have hparse := parse_joinedText (.cons hc .nil) (List.cons_ne_nil d [])
      (List.nodup_singleton _)
    rw [joinedText_singleton, List.append_nil] at hparse
    refine ⟨_, hparse, ?_⟩
    show d.BehavesAs (.group 1 (some c.name) c.pattern)
    rw [hc.gives.kept.2.1]
    exact CategoryDefinition.behavesAs_group halone 1
  · exact ⟨_, compile_eq_ok hchecked hdistinct hread hheader hstyle, hread⟩

/-- Two categories, one without regard to case. -/
def twoCategories : RuleDefinition :=
  { single "if|else" 2 with
    categories := [⟨"w", "if|else", "t", 2⟩, ⟨"n", "[a-z]+$|.\\Z", "t", 24⟩] }

theorem readsApart_twoCategories : twoCategories.ReadsApart := by
  refine (@readsApart twoCategories ?_ (by decide) ?_ ?_).1
  · exact List.forall_mem_cons.mpr ⟨by cbv, List.forall_mem_singleton.mpr (by cbv)⟩
  · exact List.forall_mem_cons.mpr ⟨rfl, List.forall_mem_singleton.mpr rfl⟩
  · refine List.forall_mem_cons.mpr ⟨fun h => ?_, List.forall_mem_singleton.mpr fun h => ?_⟩
    · obtain ⟨rest, heq⟩ := h.exists_eq_cons
      simp at heq
    · obtain ⟨rest, heq⟩ := h.exists_eq_cons
      simp at heq

/-- **A category that has been accepted need not behave in a language as it does
alone**: the spaced pattern `a b` matches two letters, and without that option
there is a blank between them. -/
theorem not_forall_readsApart :
    ¬ ∀ definition : RuleDefinition, (∀ c ∈ definition.categories, c.check = .ok ()) →
      (definition.categories.map (·.name)).Nodup → definition.ReadsApart := by
  intro h
  obtain ⟨alternatives, hread, hbehave⟩ := h (single "a b" 64)
    (List.forall_mem_singleton.mpr (by cbv)) (List.nodup_singleton _)
  cases hbehave with
  | cons hfirst hrest =>
    cases hrest
    obtain ⟨p, index, body, halone, -, hstop⟩ := hfirst
    have halone' : (⟨"n", "a b", "t", 64⟩ : CategoryDefinition).alone.map
        (fun p => (p.matchAt #['a', 'b'] 0).map (·.stop)) = .ok (some 2) := by cbv
    have hread' : (read? {} (single "a b" 64).joined).map
        (fun tokens => tokens.bind fun p => (p.matchAt #['a', 'b'] 0).map (·.stop))
          = .ok none := by cbv
    rw [halone] at halone'
    rw [hread] at hread'
    have hstop := (hstop #['a', 'b'] 0).trans (Except.ok.inj halone')
    cases (Except.ok.inj hread').symm.trans hstop

/-- Nor can every pattern be read behind the name of its group. -/
example : (single "(?i)a" 0).categories.map (·.check) = [.ok ()] ∧
    (single "(?i)a" 0).compile.map (·.key) = .error (.pattern .misplacedOptions) := by cbv

end RuleDefinition

end SourceLens
