import Mathlib
import SourceLens.Proofs.Pattern.Nested

/-!
# Pasting a pattern into a group

A pattern that can be read by itself can be read as the body of a group, and is
the same pattern there, if it has no groups and no options for the whole pattern
(`Pattern.readBody_pasted`). Nothing else of a pattern depends on where it
stands: groups are numbered through the whole pattern, and options for the whole
pattern are refused behind the parenthesis of a group.

The reading inside the group is the one by itself step for step, and needs no
more fuel. It gives a result, so here, other than in the comparison of two given
readings, the assumptions are on the reading by itself only.
-/

namespace SourceLens

open Pattern.Parser

namespace Pattern

/-! ## Patterns without groups -/

theorem groupCount_concat_eq_zero_iff {ps : List Pattern} :
    (concat ps).groupCount = 0 ↔ ∀ p ∈ ps, p.groupCount = 0 := by
  induction ps with
  | nil => exact ⟨fun _ p hp => (nomatch hp), fun _ => rfl⟩
  | cons p rest ih =>
    cases rest with
    | nil => rw [concat, List.forall_mem_singleton]
    | cons q rest =>
      rw [List.forall_mem_cons, ← ih]
      exact Nat.max_eq_zero_iff

theorem groupCount_choice_eq_zero_iff {ps : List Pattern} :
    (choice ps).groupCount = 0 ↔ ∀ p ∈ ps, p.groupCount = 0 := by
  induction ps with
  | nil => exact ⟨fun _ p hp => (nomatch hp), fun _ => rfl⟩
  | cons p rest ih =>
    cases rest with
    | nil => rw [choice, List.forall_mem_singleton]
    | cons q rest =>
      rw [List.forall_mem_cons, ← ih]
      exact Nat.max_eq_zero_iff

theorem groupCount_times (p : Pattern) (least : Nat) (most : Option Nat) (greedy : Bool) :
    (p.times least most greedy).groupCount = p.groupCount := by
  cases p <;> rfl

/-- Adding nothing to the numbers of the groups changes nothing. -/
theorem renumber_zero (p : Pattern) : p.renumber 0 = p := by
  induction p with
  | empty | char | anchor | chars => rfl
  | seq p q ihp ihq | alt p q ihp ihq => rw [renumber, ihp, ihq]
  | repeated p least most greedy ih => rw [renumber, ih]
  | group index name p ih => rw [renumber, ih, Nat.add_zero]
  | ahead holds p ih => rw [renumber, ih]
  | behind holds width p ih => rw [renumber, ih]

namespace Parser

theorem map_renumber_zero (parts : List Part) : parts.map (.renumber 0) = parts := by
  have hpart (part : Part) : part.renumber 0 = part := by rw [Part.renumber, renumber_zero]
  rw [funext hpart]
  exact List.map_id parts

/-- No part has a group. -/
def Bare (parts : List Part) : Prop :=
  ∀ part ∈ parts, part.pattern.groupCount = 0

theorem bare_of_groupCount_sequenceOf {parts : List Part}
    (h : (sequenceOf parts).groupCount = 0) : Bare parts := by
  intro part hpart
  exact groupCount_concat_eq_zero_iff.mp h _
    (List.mem_map_of_mem (List.mem_reverse.mpr hpart))

theorem Bare.tail {part : Part} {parts : List Part} (h : Bare (part :: parts)) : Bare parts :=
  fun q hq => h q (List.mem_cons_of_mem _ hq)

/-- A repetition makes a part of the last one. -/
theorem exists_of_repeatLast {parts parts' : List Part} {least : Nat} {most : Option Nat}
    {rest later : List Lexeme} (h : repeatLast parts least most rest = .ok (parts', later)) :
    ∃ last before greedy, parts = last :: before ∧
      parts' = ⟨last.pattern.times least most greedy, .repetition⟩ :: before := by
  cases parts with
  | nil => cases h
  | cons last parts =>
    unfold repeatLast at h
    dsimp only at h
    split at h
    · cases h
    · cases h
    · split at h
      · cases h
        exact ⟨last, parts, false, rfl, rfl⟩
      · cases h
      · cases h
        exact ⟨last, parts, true, rfl, rfl⟩

/-- **What comes next** is one part more, or a repetition of the last one. -/
theorem exists_of_readNext {options : PatternOptions} {parts parts' : List Part}
    {rest later : List Lexeme} (h : readNext options parts rest = .ok (.parts parts' later)) :
    (∃ part, parts' = part :: parts) ∨
      ∃ last before least most greedy, parts = last :: before ∧
        parts' = ⟨last.pattern.times least most greedy, .repetition⟩ :: before := by
  cases rest with
  | nil => cases h
  | cons first rest =>
    rw [readNext] at h
    split at h
    · cases h
    split at h
    · cases h
    split at h
    · cases h
    split at h
    · obtain ⟨_, -, h⟩ := bind_eq_ok.mp h
      cases h
    obtain ⟨bounds, -, h⟩ := bind_eq_ok.mp h
    cases bounds with
    | none =>
      obtain ⟨⟨part, _⟩, -, h⟩ := bind_eq_ok.mp h
      cases h
      exact Or.inl ⟨part, rfl⟩
    | some bounds =>
      obtain ⟨_, hrepeat, h⟩ := bind_eq_ok.mp h
      cases h
      obtain ⟨last, before, greedy, hparts, hparts'⟩ := exists_of_repeatLast hrepeat
      exact Or.inr ⟨last, before, _, _, greedy, hparts, hparts'⟩

theorem ne_nil_of_readNext {options : PatternOptions} {parts parts' : List Part}
    {rest later : List Lexeme} (h : readNext options parts rest = .ok (.parts parts' later)) :
    parts' ≠ [] := by
  obtain ⟨_, rfl⟩ | ⟨_, _, _, _, _, -, rfl⟩ := exists_of_readNext h
  · exact List.cons_ne_nil _ _
  · exact List.cons_ne_nil _ _

/-- What comes next keeps the groups that there are. -/
theorem bare_of_readNext {options : PatternOptions} {parts parts' : List Part}
    {rest later : List Lexeme} (h : readNext options parts rest = .ok (.parts parts' later))
    (hbare : Bare parts') : Bare parts := by
  obtain ⟨_, rfl⟩ | ⟨last, before, least, most, greedy, rfl, rfl⟩ := exists_of_readNext h
  · exact hbare.tail
  · refine List.forall_mem_cons.mpr ⟨?_, hbare.tail⟩
    rw [← groupCount_times last.pattern least most greedy]
    exact hbare _ List.mem_cons_self

/-- **A sequence without groups** has none in its first parts. -/
theorem bare_of_readSequence {atStart : Bool} {options : PatternOptions} {fuel : Nat}
    {parts : List Part} {s r : Source} {p : Pattern}
    (h : readSequence atStart options fuel parts s = .ok (p, r)) (hp : p.groupCount = 0) :
    Bare parts := by
  induction fuel generalizing options parts s with
  | zero => cases h
  | succ fuel ih =>
    rw [readSequence] at h
    obtain ⟨next, hnext, h⟩ := bind_eq_ok.mp h
    cases next with
    | stop =>
      cases h
      exact bare_of_groupCount_sequenceOf hp
    | skip rest => exact ih h
    | parts parts' rest => exact bare_of_readNext hnext (ih h)
    | opens head rest =>
      cases head with
      | comment => exact ih h
      | options add =>
        dsimp only at h
        split at h
        · cases h
        · exact ih h
      | capture name =>
        obtain ⟨_, -, h⟩ := bind_eq_ok.mp h
        obtain ⟨_, -, h⟩ := bind_eq_ok.mp h
        exact (ih h).tail
      | plain | ahead | behind =>
        obtain ⟨_, -, h⟩ := bind_eq_ok.mp h
        exact (ih h).tail

/-- **Alternatives without groups** have none in the first of them. -/
theorem bare_of_readAlternatives {nested : Bool} {options : PatternOptions} {fuel : Nat}
    {ps : List Pattern} {s r : Source} {p : Pattern}
    (h : readAlternatives nested options fuel ps s = .ok (p, r)) (hp : p.groupCount = 0) :
    ∀ q ∈ ps, q.groupCount = 0 := by
  induction fuel generalizing options ps s with
  | zero => cases h
  | succ fuel ih =>
    rw [readAlternatives] at h
    obtain ⟨⟨q, later⟩, -, h⟩ := bind_eq_ok.mp h
    dsimp only at h
    split at h
    · exact (List.forall_mem_cons.mp (ih h)).2
    · cases h
      intro q hq
      exact groupCount_choice_eq_zero_iff.mp hp q
        (List.mem_reverse.mpr (List.mem_cons_of_mem _ hq))

/-! ## Options for the whole pattern -/

/-- **Options for the whole pattern stand first**, perhaps behind comments and
blanks that do not count. -/
inductive OptionsFirst (options : PatternOptions) : List Lexeme → Prop where
  | here {rest later : List Lexeme} {add : List Char}
      (next : readNext options [] rest = .ok (.opens (.options add) later)) :
      OptionsFirst options rest
  | comment {rest later : List Lexeme}
      (next : readNext options [] rest = .ok (.opens .comment later))
      (behind : OptionsFirst options later) : OptionsFirst options rest
  | skip {rest later : List Lexeme} (next : readNext options [] rest = .ok (.skip later))
      (behind : OptionsFirst options later) : OptionsFirst options rest

/-! ## Reading inside a group -/

section Pasted

variable (t : List Lexeme)

/-- Alternatives that can be read with some fuel can be read inside a group. -/
def PastesAlternatives (fuel : Nat) : Prop :=
  ∀ (nested : Bool) (options : PatternOptions) (fuel' : Nat) (ps : List Pattern) (s s' : Source)
    (p : Pattern) (r : Source),
    readAlternatives nested options fuel ps s = .ok (p, r) → fuel ≤ fuel' →
    s'.rest = closed s.rest t → 1 ≤ s.nextGroup → p.groupCount = 0 →
    (options.spaced = true → r.rest ≠ []) →
    (nested = false → s.options = options ∧ (ps = [] → ¬ OptionsFirst options s.rest)) →
    readAlternatives true options fuel' ps s' = .ok (p, { s' with rest := closed r.rest t }) ∧
      r = { s with rest := r.rest }

/-- A sequence that can be read with some fuel can be read inside a group. -/
def PastesSequence (fuel : Nat) : Prop :=
  ∀ (atStart : Bool) (options : PatternOptions) (fuel' : Nat) (parts : List Part) (s s' : Source)
    (p : Pattern) (r : Source),
    readSequence atStart options fuel parts s = .ok (p, r) → fuel ≤ fuel' →
    s'.rest = closed s.rest t → 1 ≤ s.nextGroup → p.groupCount = 0 →
    (options.spaced = true → r.rest ≠ []) →
    (atStart = true → parts = [] → ¬ OptionsFirst options s.rest) →
    readSequence false options fuel' parts s' = .ok (p, { s' with rest := closed r.rest t }) ∧
      r = { s with rest := r.rest }

/-- The body of a group that can be read with some fuel can be read inside
another group. -/
def PastesBody (fuel : Nat) : Prop :=
  ∀ (options : PatternOptions) (fuel' : Nat) (s s' : Source) (p : Pattern) (r : Source),
    readBody options fuel s = .ok (p, r) → fuel ≤ fuel' → s'.rest = closed s.rest t →
    1 ≤ s.nextGroup → p.groupCount = 0 →
    readBody options fuel' s' = .ok (p, { s' with rest := closed r.rest t }) ∧
      r = { s with rest := r.rest }

variable {t}

theorem pastesAlternatives_succ {fuel : Nat} (hsequence : PastesSequence t fuel)
    (halternatives : PastesAlternatives t fuel) : PastesAlternatives t (fuel + 1) := by
  intro nested options fuel' ps s s' p r h hfuel hrest hpos hp hend hwhole
  obtain ⟨more, rfl⟩ := Nat.exists_eq_add_of_lt hfuel
  have hmore : fuel ≤ fuel + more := Nat.le_add_right fuel more
  rw [readAlternatives] at h ⊢
  have hsame : (if nested = true then options else s.options) = options := by
    cases nested with
    | true => rfl
    | false => exact (hwhole rfl).1
  dsimp only at h ⊢
  rw [hsame] at h
  obtain ⟨⟨q, later⟩, hq, h⟩ := bind_eq_ok.mp h
  dsimp only at h
  have hbare : q.groupCount = 0 := by
    split at h
    · exact bare_of_readAlternatives h hp q List.mem_cons_self
    · cases h
      exact groupCount_choice_eq_zero_iff.mp hp q (List.mem_reverse.mpr List.mem_cons_self)
  have hnonempty : options.spaced = true → later.rest ≠ [] := by
    intro hspaced hnil
    rw [hnil] at h
    cases h
    exact hend hspaced hnil
  have hfirst : (!nested && ps.isEmpty) = true → ([] : List Part) = [] →
      ¬ OptionsFirst options s.rest := by
    intro hstart _
    obtain ⟨hnested, hempty⟩ := Bool.and_eq_true_iff.mp hstart
    exact (hwhole (by simpa using hnested)).2 (List.isEmpty_iff.mp hempty)
  obtain ⟨hq', hlater⟩ :=
    hsequence _ options (fuel + more) [] s s' q later hq hmore hrest hpos hbare hnonempty hfirst
  rw [if_pos rfl, Bool.not_true, Bool.false_and, hq']
  -- the rest of the alternatives goes on where the first one has ended
  rw [hlater] at h ⊢
  dsimp only [bind, Except.bind] at h ⊢
  split at h
  · rename_i rest hbar
    have hclosed : closed later.rest t = .plain '|' :: closed rest t := by
      rw [hbar]
      rfl
    rw [hclosed]
    exact halternatives nested options (fuel + more) (q :: ps) { s with rest }
      { s' with rest := closed rest t } p r h hmore rfl hpos hp hend
      fun hnested => ⟨(hwhole hnested).1, fun hnil => absurd hnil (List.cons_ne_nil _ _)⟩
  · rename_i hbar
    cases h
    refine ⟨?_, rfl⟩
    split
    · rename_i heq
      obtain ⟨left, hleft, -⟩ := eq_cons_of_closed_eq (by decide) heq
      exact (hbar left hleft).elim
    · rfl

/-- A sequence that goes on with a group, given what the group becomes a part
of it as. -/
theorem pastes_group {fuel fuel' : Nat} (hsequence : PastesSequence t fuel)
    (hbody : PastesBody t fuel) (hfuel : fuel ≤ fuel') {atStart : Bool}
    {options inner : PatternOptions} {parts : List Part} (make : Pattern → Part)
    (hmake : ∀ q, (make q).pattern.groupCount = q.groupCount) (s s' : Source) {r : Source}
    {p : Pattern}
    (h : (readBody inner fuel s >>= fun body =>
      readSequence atStart options fuel (make body.1 :: parts) body.2) = .ok (p, r))
    (hrest : s'.rest = closed s.rest t) (hpos : 1 ≤ s.nextGroup) (hp : p.groupCount = 0)
    (hend : options.spaced = true → r.rest ≠ []) :
    (readBody inner fuel' s' >>= fun body =>
        readSequence false options fuel' (make body.1 :: parts) body.2)
      = .ok (p, { s' with rest := closed r.rest t }) ∧ r = { s with rest := r.rest } := by
  obtain ⟨⟨q, later⟩, hq, h⟩ := bind_eq_ok.mp h
  dsimp only at h
  have hbare : q.groupCount = 0 := by
    rw [← hmake]
    exact bare_of_readSequence h hp _ List.mem_cons_self
  obtain ⟨hq', hlater⟩ := hbody inner fuel' s s' q later hq hfuel hrest hpos hbare
  rw [hq']
  rw [hlater] at h ⊢
  exact hsequence atStart options fuel' (make q :: parts) { s with rest := later.rest }
    { s' with rest := closed later.rest t } p r h hfuel rfl hpos hp hend
    fun _ h => (nomatch h)

theorem pastesSequence_succ {fuel : Nat} (hsequence : PastesSequence t fuel)
    (hbody : PastesBody t fuel) : PastesSequence t (fuel + 1) := by
  intro atStart options fuel' parts s s' p r h hfuel hrest hpos hp hend hwhole
  obtain ⟨more, rfl⟩ := Nat.exists_eq_add_of_lt hfuel
  have hmore : fuel ≤ fuel + more := Nat.le_add_right fuel more
  rw [readSequence] at h ⊢
  obtain ⟨next, hnext, h⟩ := bind_eq_ok.mp h
  -- a comment up to the end would take the parenthesis inside the group
  have hskip : options.spaced = true → next ≠ .skip [] := by
    rintro hspaced rfl
    exact hend hspaced (rest_of_readSequence_nil h rfl)
  have hnext' := readNext_closed t hnext hskip 0
  rw [map_renumber_zero, ← hrest] at hnext'
  rw [hnext']
  cases next with
  | stop =>
    cases h
    exact ⟨by rw [← hrest]; rfl, rfl⟩
  | skip rest =>
    exact hsequence atStart options (fuel + more) parts { s with rest }
      { s' with rest := closed rest t } p r h hmore rfl hpos hp hend
      fun hstart hparts hfirst => hwhole hstart hparts (.skip (hparts ▸ hnext) hfirst)
  | parts parts' rest =>
    dsimp only [Next.closed]
    rw [map_renumber_zero]
    have hcons : parts' ≠ [] := ne_nil_of_readNext hnext
    exact hsequence atStart options (fuel + more) parts' { s with rest }
      { s' with rest := closed rest t } p r h hmore rfl hpos hp hend
      fun _ hnil => absurd hnil hcons
  | opens head rest =>
    cases head with
    | comment =>
      exact hsequence atStart options (fuel + more) parts { s with rest }
        { s' with rest := closed rest t } p r h hmore rfl hpos hp hend
        fun hstart hparts hfirst => hwhole hstart hparts (.comment (hparts ▸ hnext) hfirst)
    | options add =>
      dsimp only at h
      split at h
      · cases h
      · rename_i hplace
        rw [Bool.or_eq_true, not_or, Bool.not_eq_true, Bool.not_eq_true, Bool.not_eq_false',
          Bool.not_eq_false', List.isEmpty_iff] at hplace
        obtain ⟨hstart, rfl⟩ := hplace
        exact absurd (.here hnext) (hwhole hstart rfl)
    | capture name =>
      obtain ⟨_, -, h⟩ := bind_eq_ok.mp h
      obtain ⟨_, -, h⟩ := bind_eq_ok.mp h
      -- the number of the group is not zero
      have hcount : max s.nextGroup _ = 0 := bare_of_readSequence h hp _ List.mem_cons_self
      omega
    | plain add remove =>
      exact pastes_group hsequence hbody hmore (⟨·, .other⟩) (fun _ => rfl)
        { s with rest } { s' with rest := closed rest t } h rfl hpos hp hend
    | ahead holds =>
      exact pastes_group hsequence hbody hmore (⟨.ahead holds ·, .other⟩) (fun _ => rfl)
        { s with rest } { s' with rest := closed rest t } h rfl hpos hp hend
    | behind holds =>
      exact pastes_group hsequence hbody hmore
        (fun q => ⟨.behind holds (width q).1 q, .other⟩) (fun _ => rfl)
        { s with rest } { s' with rest := closed rest t } h rfl hpos hp hend

theorem pastesBody_succ {fuel : Nat} (halternatives : PastesAlternatives t fuel) :
    PastesBody t (fuel + 1) := by
  intro options fuel' s s' p r h hfuel hrest hpos hp
  obtain ⟨more, rfl⟩ := Nat.exists_eq_add_of_lt hfuel
  rw [readBody] at h ⊢
  obtain ⟨⟨q, later⟩, hq, h⟩ := bind_eq_ok.mp h
  dsimp only at h
  split at h
  · rename_i rest hclose
    cases h
    have hmore : options.spaced = true → later.rest ≠ [] := by
      intro _
      rw [hclose]
      exact List.cons_ne_nil _ _
    obtain ⟨hq', hlater⟩ := halternatives true options (fuel + more) [] s s' p later hq
      (Nat.le_add_right _ _) hrest hpos hp hmore fun hnested =>
        absurd hnested.symm Bool.false_ne_true
    rw [hq', hclose]
    refine ⟨rfl, ?_⟩
    rw [hlater]
  · cases h

/-- **Whatever is read by itself is read inside a group**, if it has no groups
and does not start with options for the whole pattern. The induction is on the
fuel of the reading by itself: every call spends some. -/
theorem pastes (t : List Lexeme) (fuel : Nat) :
    PastesAlternatives t fuel ∧ PastesSequence t fuel ∧ PastesBody t fuel := by
  induction fuel with
  | zero =>
    refine ⟨?_, ?_, ?_⟩
    · intro _ _ _ _ _ _ _ _ h
      cases h
    · intro _ _ _ _ _ _ _ _ h
      cases h
    · intro _ _ _ _ _ _ h
      cases h
  | succ fuel ih =>
    obtain ⟨halternatives, hsequence, hbody⟩ := ih
    exact ⟨pastesAlternatives_succ hsequence halternatives, pastesSequence_succ hsequence hbody,
      pastesBody_succ halternatives⟩

end Pasted

end Parser

/-- **A pattern that is pasted into a group is the body of the group**, and the
reading goes on behind the parenthesis. -/
theorem readBody_pasted {options : PatternOptions} (hspaced : options.spaced = false)
    {written : List Char} {p : Pattern} (hparse : parse options written = .ok p)
    (hp : p.groupCount = 0) {lexemes t : List Lexeme}
    (hlexemes : Lexeme.ofChars written = .ok lexemes) (hwhole : ¬ OptionsFirst options lexemes)
    {fuel : Nat} (hfuel : 3 * lexemes.length + 4 ≤ fuel) {s : Source}
    (hrest : s.rest = closed lexemes t) :
    readBody options fuel s = .ok (p, { s with rest := t }) := by
  obtain ⟨lexemes', source, hlexemes', halone, hend⟩ := exists_of_parse_eq_ok hparse
  rw [hlexemes] at hlexemes'
  cases hlexemes'
  obtain ⟨more, rfl⟩ := Nat.exists_eq_add_of_le hfuel
  have hread := ((pastes t _).1 false options (3 * lexemes.length + 3 + more) [] _ s p source halone
    (Nat.le_add_right _ _) hrest (Nat.le_refl 1) hp
    (fun hon => absurd hon (by rw [hspaced]; exact Bool.false_ne_true))
    (fun _ => ⟨rfl, fun _ => hwhole⟩)).1
  rw [show 3 * lexemes.length + 4 + more = 3 * lexemes.length + 3 + more + 1 by omega, readBody,
    hread, hend]
  rfl

end Pattern

end SourceLens
