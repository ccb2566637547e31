import SourceLens.Proofs.Pattern.Bounds

/-!
# Patterns that spare an opener

A comment starts where its opener stands, unless something that started earlier
has swallowed the opener. What matters about any other pattern is therefore
where its matches do not go: it **spares** an offset if none of its ways that
start at or before the offset ends behind it (`Pattern.Spares`).

That a pattern spares every place of an opener can be read off it
(`Pattern.avoids`). Mostly none of its characters is the first one of the
opener. Where one is, it is read alone, and what comes next in the pattern does
not match in front of the second character of the opener: a slash that no star
may follow, or the sign of an exponent, which digits have to follow. What the
parts of a pattern spare, the pattern spares, so this is an induction over the
pattern (`Pattern.spares_of_avoids`).
-/

namespace SourceLens

namespace Pattern

variable {text : Text} {offset : Nat} {p q : Pattern}

/-- **A pattern spares an offset**: no way that starts at or before it ends
behind it. -/
def Spares (text : Text) (offset : Nat) (p : Pattern) : Prop :=
  ∀ cur next, next ∈ p.ways text cur → cur.offset ≤ offset → next.offset ≤ offset

/-- A match that starts at or before an offset that is spared ends there or
earlier. -/
theorem Spares.stop_le {start : Nat} {m : Match} (h : p.Spares text offset)
    (hm : p.matchAt text start = some m) (hle : start ≤ offset) : m.stop ≤ offset := by
  obtain ⟨-, cur, hcur, hstop⟩ := exists_way_of_matchAt hm
  exact hstop ▸ h _ cur hcur hle

/-! ## Reading it off the pattern -/

/-- The pattern reads one character at most. -/
def isBrief : Pattern → Bool
  | .char _ => true
  | .chars _ least most _ => least ≤ 1 && most.any (· ≤ 1)
  | _ => false

/-- The pattern does not match in front of a given character. -/
def refuses (c : Char) : Pattern → Bool
  | .char set => !set.contains c
  | .chars set least _ _ => 0 < least && !set.contains c
  | .ahead false (.char set) => set.contains c
  | _ => false

/-- **The pattern avoids an opener**, given by its first character and the
second one, if there is one: it spares every offset at which the opener
stands. -/
def avoids (first : Char) (second : Option Char) : Pattern → Bool
  | .empty | .anchor _ | .ahead .. | .behind .. => true
  | .char set | .chars set .. => !set.contains first
  | .alt p q => p.avoids first second && q.avoids first second
  | .seq p q =>
    q.avoids first second && (p.avoids first second || (p.isBrief && second.any q.refuses))
  | .repeated body .. | .group _ _ body => body.avoids first second

/-- A brief pattern moves on by one character at most. -/
theorem le_of_isBrief (h : p.isBrief = true) {cur next : Cursor} (hnext : next ∈ p.ways text cur) :
    next.offset ≤ cur.offset + 1 := by
  cases p with
  | char set =>
    obtain ⟨-, -, -, rfl⟩ := exists_of_mem_ways_char hnext
    exact Nat.le_refl _
  | chars set least most greedy =>
    obtain ⟨hleast, hmost⟩ := Bool.and_eq_true_iff.mp h
    obtain ⟨bound, rfl, hbound⟩ := (Option.any_eq_true _ _).mp hmost
    obtain ⟨stop, rfl, -, hstop, -⟩ := exists_of_mem_charsWays hnext
    have hle := hstop bound rfl
    rw [decide_eq_true_eq] at hleast hbound
    rw [Cursor.offset_move]
    omega
  | empty | anchor | seq | alt | repeated | group | ahead | behind => cases h

/-- A pattern that refuses a character has no way from where it stands. -/
theorem not_mem_ways_of_refuses {c : Char} (h : p.refuses c = true) {cur next : Cursor}
    (hc : text[cur.offset]? = some c) : next ∉ p.ways text cur := by
  intro hnext
  unfold refuses at h
  split at h
  · obtain ⟨d, hd, hset, -⟩ := exists_of_mem_ways_char hnext
    obtain rfl : c = d := Option.some.inj (hc.symm.trans hd)
    simp [hset] at h
  · obtain ⟨hleast, hset⟩ := Bool.and_eq_true_iff.mp h
    rw [decide_eq_true_eq] at hleast
    obtain ⟨stop, -, hle, -, hfills⟩ := exists_of_mem_charsWays hnext
    obtain ⟨d, hd, hin⟩ := hfills cur.offset (Nat.le_refl _) (by omega)
    obtain rfl : c = d := Option.some.inj (hc.symm.trans hd)
    simp [hin] at hset
  · -- what must not follow does follow
    rename_i set
    rw [ways, ways, hc] at hnext
    simp [h, lookWays] at hnext
  · cases h

/-! ## Patterns that avoid an opener spare it -/

/-- A stretch of characters that are not the one at an offset does not go
beyond it. -/
theorem le_of_fills {set : CharSet} {c : Char} {start stop : Nat} (h : set.Fills text start stop)
    (hc : text[offset]? = some c) (hset : set.contains c = false) (hle : start ≤ offset) :
    stop ≤ offset := by
  by_contra hlt
  obtain ⟨d, hd, hin⟩ := h offset hle (by omega)
  obtain rfl : c = d := Option.some.inj (hc.symm.trans hd)
  rw [hset] at hin
  cases hin

/-- What comes after a brief pattern and refuses the character behind an offset
keeps the brief one from taking the character at it. -/
theorem spares_seq_of_isBrief {c : Char} (hp : p.isBrief = true) (hq : q.Spares text offset)
    (hrefuses : q.refuses c = true) (hc : text[offset + 1]? = some c) :
    (seq p q).Spares text offset := by
  intro cur next hnext hle
  obtain ⟨mid, hmid, hnext⟩ := List.mem_flatMap.mp hnext
  have hstep := le_of_isBrief hp hmid
  obtain hlt | hmid_le := Nat.lt_or_ge offset mid.offset
  · -- then the brief pattern has read the character at the offset
    have hbehind : mid.offset = offset + 1 := by omega
    exact absurd hnext (not_mem_ways_of_refuses hrefuses (hbehind ▸ hc))
  · exact hq mid next hnext hmid_le

/-- **A pattern that avoids an opener spares the places where it stands.** -/
theorem spares_of_avoids {first : Char} {second : Option Char} (h : p.avoids first second = true)
    (hfirst : text[offset]? = some first)
    (hsecond : ∀ c, second = some c → text[offset + 1]? = some c) : p.Spares text offset := by
  induction p with
  | empty =>
    intro cur next hnext hle
    exact List.mem_singleton.mp hnext ▸ hle
  | anchor condition =>
    intro cur next hnext hle
    unfold ways at hnext
    split at hnext
    · exact List.mem_singleton.mp hnext ▸ hle
    · cases hnext
  | ahead holds body | behind holds width body =>
    intro cur next hnext hle
    exact offset_of_mem_lookWays hnext ▸ hle
  | char set =>
    intro cur next hnext hle
    obtain ⟨c, hc, hset, rfl⟩ := exists_of_mem_ways_char hnext
    exact le_of_fills (.single hc hset) hfirst (by simpa [avoids] using h) hle
  | chars set least most greedy =>
    intro cur next hnext hle
    obtain ⟨stop, rfl, -, -, hfills⟩ := exists_of_mem_charsWays hnext
    exact le_of_fills hfills hfirst (by simpa [avoids] using h) hle
  | seq p q ihp ihq =>
    obtain ⟨hq, hp⟩ := Bool.and_eq_true_iff.mp h
    obtain hp | hbrief := Bool.or_eq_true_iff.mp hp
    · intro cur next hnext hle
      obtain ⟨mid, hmid, hnext⟩ := List.mem_flatMap.mp hnext
      exact ihq hq mid next hnext (ihp hp cur mid hmid hle)
    · obtain ⟨hbrief, hrefuses⟩ := Bool.and_eq_true_iff.mp hbrief
      obtain ⟨c, hc, hrefuses⟩ := (Option.any_eq_true _ _).mp hrefuses
      exact spares_seq_of_isBrief hbrief (ihq hq) hrefuses (hsecond c hc)
  | alt p q ihp ihq =>
    obtain ⟨hp, hq⟩ := Bool.and_eq_true_iff.mp h
    intro cur next hnext hle
    obtain hnext | hnext := List.mem_append.mp hnext
    · exact ihp hp cur next hnext hle
    · exact ihq hq cur next hnext hle
  | repeated body least most greedy ih =>
    intro cur next hnext hle
    have hreaches := reaches_of_mem_repeated hnext
    clear hnext
    induction hreaches with
    | refl => exact hle
    | tail _ hround hsofar => exact ih h _ _ hround hsofar
  | group index name body ih =>
    intro cur next hnext hle
    obtain ⟨inner, hinner, rfl⟩ := List.mem_map.mp hnext
    exact ih h cur inner hinner hle

end Pattern

end SourceLens
