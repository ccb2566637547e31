import SourceLens.Proofs.Pattern.Reading

/-!
# Reading a pattern inside a group

The pattern of a category is read by itself and once more as the body of a
group, behind groups that have been counted and named before. Both readings
give one pattern, except for the numbers of its groups (`readAlternatives_within`):
the two run in step, with what is left to be read, the numbers and the names
related by `Source.Within` all the way.

Neither reading is derived from the other. A pattern can be readable by itself
and not inside a group – for having options for the whole pattern, or the name
of a group that is taken – and, with comments in it, inside a group only. So the
statement assumes that both succeed.
-/

namespace SourceLens

namespace Pattern.Parser

/-- A source is **within** another: with a parenthesis and more behind it, and
some groups counted and named before it. -/
structure Source.Within (t : List Lexeme) (d : Nat) (outer : List String) (s s' : Source) :
    Prop where
  rest : s'.rest = closed s.rest t
  nextGroup : s'.nextGroup = s.nextGroup + d
  names : s'.names = s.names ++ outer

/-- A source **follows** another in a reading: the options of the whole pattern
are kept, and groups are only ever counted up. -/
structure Source.Follows (s r : Source) : Prop where
  options : r.options = s.options
  counted : s.nextGroup ≤ r.nextGroup

theorem Source.Follows.refl (s : Source) : s.Follows s :=
  ⟨rfl, Nat.le_refl _⟩

theorem Source.Follows.trans {s r q : Source} (h : s.Follows r) (h' : r.Follows q) :
    s.Follows q :=
  ⟨h'.options.trans h.options, Nat.le_trans h.counted h'.counted⟩

/-- What is left to be read does not matter. -/
theorem Source.Follows.of_rest {s r : Source} {rest : List Lexeme}
    (h : Source.Follows { s with rest } r) : s.Follows r :=
  ⟨h.options, h.counted⟩

/-- What a group that opens leaves of the source. -/
theorem Source.eq_of_count {s inner : Source} {name : Option String}
    (h : s.count name = .ok inner) :
    inner = { s with nextGroup := s.nextGroup + 1, names := name.toList ++ s.names } := by
  cases name with
  | none =>
    cases h
    rfl
  | some name =>
    rw [Source.count] at h
    split at h
    · cases h
    · cases h
      rfl

theorem Source.Follows.of_count {s inner : Source} {name : Option String}
    (h : s.count name = .ok inner) : s.Follows inner := by
  rw [Source.eq_of_count h]
  exact ⟨rfl, Nat.le_succ _⟩

theorem sequenceOf_renumber (d : Nat) (parts : List Part) :
    sequenceOf (parts.map (.renumber d)) = (sequenceOf parts).renumber d := by
  rw [sequenceOf, sequenceOf, renumber_concat, ← List.map_reverse, List.map_map, List.map_map]
  rfl

/-- The width of a pattern does not depend on the numbers of its groups. -/
theorem width_renumber (d : Nat) (p : Pattern) : width (p.renumber d) = width p := by
  induction p with
  | empty | char | anchor | chars | ahead | behind => rfl
  | seq p q ihp ihq | alt p q ihp ihq => rw [renumber, width, width, ihp, ihq]
  | repeated p least most greedy ih => rw [renumber, width, width, ih]
  | group index name p ih => rw [renumber, width, width, ih]

/-- A sequence with nothing to read leaves nothing. -/
theorem rest_of_readSequence_nil {atStart : Bool} {options : PatternOptions} {fuel : Nat}
    {parts : List Part} {s r : Source} {p : Pattern}
    (h : readSequence atStart options fuel parts s = .ok (p, r)) (hs : s.rest = []) :
    r.rest = [] := by
  cases fuel with
  | zero => cases h
  | succ fuel =>
    rw [readSequence, hs] at h
    cases h
    exact hs

section Within

variable (t : List Lexeme) (d : Nat) (outer : List String)

/-- What the two readings of something have in common: the pattern but for the
numbers of its groups, and where they have come to. -/
structure SameReading (s s' : Source) (read read' : Pattern × Source) : Prop where
  pattern : read'.1 = read.1.renumber d
  within : read.2.Within t d outer read'.2
  follows : s.Follows read.2
  follows' : s'.Follows read'.2

/-- Alternatives with some fuel read the same inside a group. -/
def SameAlternatives (fuel : Nat) : Prop :=
  ∀ (nested : Bool) (options : PatternOptions) (fuel' : Nat) (ps : List Pattern) (s s' : Source)
    (read read' : Pattern × Source),
    readAlternatives nested options fuel ps s = .ok read →
    readAlternatives true options fuel' (ps.map (renumber d)) s' = .ok read' →
    s.Within t d outer s' → (options.spaced = true → read.2.rest ≠ []) →
    (nested = false → s.options = options) → SameReading t d outer s s' read read'

/-- A sequence with some fuel reads the same inside a group. -/
def SameSequence (fuel : Nat) : Prop :=
  ∀ (atStart : Bool) (options : PatternOptions) (fuel' : Nat) (parts : List Part) (s s' : Source)
    (read read' : Pattern × Source),
    readSequence atStart options fuel parts s = .ok read →
    readSequence false options fuel' (parts.map (.renumber d)) s' = .ok read' →
    s.Within t d outer s' → (options.spaced = true → read.2.rest ≠ []) →
    SameReading t d outer s s' read read'

/-- The body of a group with some fuel reads the same inside a group. -/
def SameBody (fuel : Nat) : Prop :=
  ∀ (options : PatternOptions) (fuel' : Nat) (s s' : Source) (read read' : Pattern × Source),
    readBody options fuel s = .ok read → readBody options fuel' s' = .ok read' →
    s.Within t d outer s' → SameReading t d outer s s' read read'

variable {t d outer}

/-- What is left to be read at first does not matter. -/
theorem SameReading.of_rest {s s' : Source} {rest rest' : List Lexeme}
    {read read' : Pattern × Source}
    (h : SameReading t d outer { s with rest } { s' with rest := rest' } read read') :
    SameReading t d outer s s' read read' :=
  ⟨h.pattern, h.within, h.follows.of_rest, h.follows'.of_rest⟩

/-- What is read after something else that is the same. -/
theorem SameReading.after {s s' r r' : Source} {read read' : Pattern × Source}
    (h : SameReading t d outer r r' read read') (hs : s.Follows r) (hs' : s'.Follows r') :
    SameReading t d outer s s' read read' :=
  ⟨h.pattern, h.within, hs.trans h.follows, hs'.trans h.follows'⟩

/-- A group that is counted in both readings is counted alike. -/
theorem within_of_count {s s' inner inner' : Source} {name : Option String}
    (hwithin : s.Within t d outer s') (h : s.count name = .ok inner)
    (h' : s'.count name = .ok inner') : inner.Within t d outer inner' := by
  rw [Source.eq_of_count h, Source.eq_of_count h']
  refine ⟨hwithin.rest, ?_, ?_⟩
  · show s'.nextGroup + 1 = s.nextGroup + 1 + d
    rw [hwithin.nextGroup]
    omega
  · show name.toList ++ s'.names = name.toList ++ s.names ++ outer
    rw [hwithin.names, List.append_assoc]

theorem sameAlternatives_succ {fuel : Nat} (hsequence : SameSequence t d outer fuel)
    (halternatives : SameAlternatives t d outer fuel) : SameAlternatives t d outer (fuel + 1) := by
  intro nested options fuel' ps s s' read read' h h' hwithin hend hoptions
  cases fuel' with
  | zero => cases h'
  | succ fuel' =>
    rw [readAlternatives] at h h'
    have hsame : (if nested = true then options else s.options) = options := by
      cases nested with
      | true => rfl
      | false => exact hoptions rfl
    dsimp only at h h'
    rw [hsame] at h
    obtain ⟨⟨p, r⟩, hp, h⟩ := bind_eq_ok.mp h
    obtain ⟨⟨p', r'⟩, hp', h'⟩ := bind_eq_ok.mp h'
    dsimp only at h h'
    -- a sequence that leaves nothing is the last one, and leaves nothing at the end
    have hnonempty : options.spaced = true → r.rest ≠ [] := by
      intro hspaced hnil
      rw [hnil] at h
      cases h
      exact hend hspaced hnil
    obtain ⟨rfl, hafter, hkept, hkept'⟩ := hsequence _ options fuel' [] s s' _ _ hp
      (by rw [Bool.not_true, Bool.false_and] at hp'; exact hp') hwithin hnonempty
    dsimp only at hafter hkept hkept' h h'
    split at h
    · rename_i rest hrest
      have hrest' : r'.rest = .plain '|' :: closed rest t := by
        rw [hafter.rest, hrest]
        rfl
      rw [hrest'] at h'
      have hlater := halternatives nested options fuel' (p :: ps) { r with rest }
        { r' with rest := closed rest t } _ _ h h' ⟨rfl, hafter.nextGroup, hafter.names⟩ hend
        (fun hnested => hkept.options.trans (hoptions hnested))
      exact hlater.of_rest.after hkept hkept'
    · rename_i hbar
      cases h
      split at h'
      · -- a bar inside the group is a bar of the pattern
        rename_i rest hrest
        rw [hafter.rest] at hrest
        obtain ⟨left, hleft, -⟩ := eq_cons_of_closed_eq (by decide) hrest
        exact (hbar left hleft).elim
      · cases h'
        refine ⟨?_, hafter, hkept, hkept'⟩
        rw [renumber_choice, List.map_reverse, List.map_cons]

/-- A sequence that goes on with a group reads the same, given what the group
becomes a part of it as. -/
theorem sameReading_group {fuel fuel' : Nat} (hsequence : SameSequence t d outer fuel)
    (hbody : SameBody t d outer fuel) {atStart : Bool} {options inner : PatternOptions}
    {parts : List Part} (make make' : Pattern → Part)
    (hmake : ∀ p, make' (p.renumber d) = (make p).renumber d) {s s' : Source}
    {read read' : Pattern × Source}
    (h : (readBody inner fuel s >>= fun body =>
      readSequence atStart options fuel (make body.1 :: parts) body.2) = .ok read)
    (h' : (readBody inner fuel' s' >>= fun body =>
      readSequence false options fuel' (make' body.1 :: parts.map (.renumber d)) body.2)
        = .ok read')
    (hwithin : s.Within t d outer s') (hend : options.spaced = true → read.2.rest ≠ []) :
    SameReading t d outer s s' read read' := by
  obtain ⟨⟨body, r⟩, hread, h⟩ := bind_eq_ok.mp h
  obtain ⟨⟨body', r'⟩, hread', h'⟩ := bind_eq_ok.mp h'
  obtain ⟨rfl, hafter, hkept, hkept'⟩ := hbody inner fuel' s s' _ _ hread hread' hwithin
  dsimp only at hafter hkept hkept' h h'
  rw [hmake, ← List.map_cons] at h'
  have hlater := hsequence atStart options fuel' (make body :: parts) r r' _ _ h h' hafter hend
  exact hlater.after hkept hkept'

theorem sameSequence_succ {fuel : Nat} (hsequence : SameSequence t d outer fuel)
    (hbody : SameBody t d outer fuel) : SameSequence t d outer (fuel + 1) := by
  intro atStart options fuel' parts s s' read read' h h' hwithin hend
  cases fuel' with
  | zero => cases h'
  | succ fuel' =>
    rw [readSequence] at h h'
    obtain ⟨next, hnext, h⟩ := bind_eq_ok.mp h
    -- a comment up to the end would take the parenthesis inside the group
    have hskip : options.spaced = true → next ≠ .skip [] := by
      rintro hspaced rfl
      exact hend hspaced (rest_of_readSequence_nil h rfl)
    rw [hwithin.rest, readNext_closed t hnext hskip d] at h'
    obtain ⟨_, hok, h'⟩ := bind_eq_ok.mp h'
    cases hok
    cases next with
    | stop =>
      cases h
      cases h'
      exact ⟨sequenceOf_renumber d parts, hwithin, .refl s, .refl s'⟩
    | skip rest =>
      exact SameReading.of_rest (hsequence atStart options fuel' parts { s with rest }
        { s' with rest := closed rest t } _ _ h h' ⟨rfl, hwithin.nextGroup, hwithin.names⟩ hend)
    | parts parts rest =>
      exact SameReading.of_rest (hsequence atStart options fuel' parts { s with rest }
        { s' with rest := closed rest t } _ _ h h' ⟨rfl, hwithin.nextGroup, hwithin.names⟩ hend)
    | opens head rest =>
      have hopened : Source.Within t d outer { s with rest } { s' with rest := closed rest t } :=
        ⟨rfl, hwithin.nextGroup, hwithin.names⟩
      refine (?_ : SameReading t d outer { s with rest } { s' with rest := closed rest t }
        read read').of_rest
      cases head with
      | comment =>
        exact hsequence atStart options fuel' parts { s with rest }
          { s' with rest := closed rest t } _ _ h h' hopened hend
      | options add => cases h'
      | plain add remove =>
        exact sameReading_group hsequence hbody (⟨·, .other⟩) (⟨·, .other⟩) (fun p => rfl) h h'
          hopened hend
      | ahead holds =>
        exact sameReading_group hsequence hbody (⟨.ahead holds ·, .other⟩)
          (⟨.ahead holds ·, .other⟩) (fun p => rfl) h h' hopened hend
      | behind holds =>
        refine sameReading_group hsequence hbody (fun p => ⟨.behind holds (width p).1 p, .other⟩)
          (fun p => ⟨.behind holds (width p).1 p, .other⟩) (fun p => ?_) h h' hopened hend
        rw [width_renumber]
        rfl
      | capture name =>
        obtain ⟨inner, hinner, h⟩ := bind_eq_ok.mp h
        obtain ⟨inner', hinner', h'⟩ := bind_eq_ok.mp h'
        have hlater := sameReading_group hsequence hbody (⟨.group s.nextGroup name ·, .other⟩)
          (⟨.group s'.nextGroup name ·, .other⟩) (fun p => by rw [hwithin.nextGroup]; rfl) h h'
          (within_of_count hopened hinner hinner') hend
        exact hlater.after (.of_count hinner) (.of_count hinner')

theorem sameBody_succ {fuel : Nat} (halternatives : SameAlternatives t d outer fuel) :
    SameBody t d outer (fuel + 1) := by
  intro options fuel' s s' read read' h h' hwithin
  cases fuel' with
  | zero => cases h'
  | succ fuel' =>
    rw [readBody] at h h'
    obtain ⟨⟨p, r⟩, hp, h⟩ := bind_eq_ok.mp h
    obtain ⟨⟨p', r'⟩, hp', h'⟩ := bind_eq_ok.mp h'
    dsimp only at h h'
    split at h
    · rename_i rest hrest
      have hmore : options.spaced = true → r.rest ≠ [] := by
        intro _
        rw [hrest]
        exact List.cons_ne_nil _ _
      obtain ⟨hpattern, hafter, hkept, hkept'⟩ := halternatives true options fuel' [] s s' _ _
        hp hp' hwithin hmore (fun hnested => nomatch hnested)
      have hrest' : r'.rest = .plain ')' :: closed rest t := by
        rw [hafter.rest, hrest]
        rfl
      rw [hrest'] at h'
      cases h
      cases h'
      exact ⟨hpattern, ⟨rfl, hafter.nextGroup, hafter.names⟩, ⟨hkept.options, hkept.counted⟩,
        ⟨hkept'.options, hkept'.counted⟩⟩
    · cases h

/-- **Whatever is read by itself and inside a group is read alike.** The
induction is on the fuel of the first reading: every call spends some. -/
theorem sameReading (fuel : Nat) :
    SameAlternatives t d outer fuel ∧ SameSequence t d outer fuel ∧ SameBody t d outer fuel := by
  induction fuel with
  | zero =>
    refine ⟨?_, ?_, ?_⟩
    · intro _ _ _ _ _ _ _ _ h
      cases h
    · intro _ _ _ _ _ _ _ _ h
      cases h
    · intro _ _ _ _ _ _ h
      cases h
  | succ fuel ih =>
    obtain ⟨halternatives, hsequence, hbody⟩ := ih
    exact ⟨sameAlternatives_succ hsequence halternatives, sameSequence_succ hsequence hbody,
      sameBody_succ halternatives⟩

end Within

end Pattern.Parser

open Pattern.Parser

namespace Pattern

/-- What it takes to read a pattern. -/
theorem exists_of_parse_eq_ok {options : PatternOptions} {written : List Char} {p : Pattern}
    (h : parse options written = .ok p) :
    ∃ lexemes source, Lexeme.ofChars written = .ok lexemes ∧
      readAlternatives false options (3 * lexemes.length + 3) []
        ⟨lexemes, 1, [], options, options.asciiOnly, false⟩ = .ok (p, source) ∧
      source.rest = [] := by
  unfold parse at h
  obtain ⟨lexemes, hlexemes, h⟩ := bind_eq_ok.mp h
  obtain ⟨⟨q, source⟩, hread, h⟩ := bind_eq_ok.mp h
  refine ⟨lexemes, source, hlexemes, ?_⟩
  dsimp only at h
  split at h
  · cases h
  · split at h
    · cases h
    · rename_i hrest
      split at h
      · cases h
      · cases h
        refine ⟨hread, ?_⟩
        cases hnil : source.rest with
        | nil => rfl
        | cons first rest =>
          rw [hnil] at hrest
          exact absurd rfl hrest

/-- **A pattern reads the same as the body of a group.** Spaced patterns are
left out: the closing parenthesis may be part of a comment there. -/
theorem readAlternatives_eq_renumber {options : PatternOptions} (hspaced : options.spaced = false)
    {written : List Char} {p : Pattern} (hparse : parse options written = .ok p)
    {lexemes t : List Lexeme} (hlexemes : Lexeme.ofChars written = .ok lexemes)
    {fuel : Nat} {s : Source} (hrest : s.rest = closed lexemes t) (hpos : 1 ≤ s.nextGroup)
    {q : Pattern} {r : Source} (hread : readAlternatives true options fuel [] s = .ok (q, r)) :
    q = p.renumber (s.nextGroup - 1) ∧ r.rest = .plain ')' :: t ∧ s.Follows r := by
  obtain ⟨lexemes', source, hlexemes', halone, hend⟩ := exists_of_parse_eq_ok hparse
  rw [hlexemes] at hlexemes'
  cases hlexemes'
  have hwithin : Source.Within t (s.nextGroup - 1) s.names
      ⟨lexemes, 1, [], options, options.asciiOnly, false⟩ s :=
    ⟨hrest, (Nat.add_sub_cancel' hpos).symm, rfl⟩
  have hsame := (sameReading _).1 false options fuel [] _ s _ _ halone hread hwithin
    (fun hon => absurd hon (by rw [hspaced]; exact Bool.false_ne_true)) (fun _ => rfl)
  refine ⟨hsame.pattern, ?_, hsame.follows'⟩
  rw [hsame.within.rest, hend]
  rfl

end Pattern

end SourceLens
