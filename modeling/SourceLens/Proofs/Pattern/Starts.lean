import SourceLens.Proofs.Pattern.Bounds

/-!
# What a pattern can start with

Most patterns can be seen not to match at a place from the character that
stands there: a keyword does not start with a quote, and a name not with a
blank. Two things are read off a pattern for this. `Pattern.mayStay` tells
whether it can match without reading anything, and `Pattern.mayRead` whether it
can read a given character first; both answer yes where they do not know. A
pattern that can do neither has no way from where the character stands
(`Pattern.ways_eq_nil_of_shuns`).
-/

namespace SourceLens

namespace Pattern

variable {text : Text} {p : Pattern} {c : Char} {cur next : Cursor}

/-- The pattern may match without reading anything. -/
def mayStay : Pattern → Bool
  | .empty | .anchor _ | .ahead .. | .behind .. => true
  | .char _ => false
  | .chars _ least _ _ => least == 0
  | .seq p q => p.mayStay && q.mayStay
  | .alt p q => p.mayStay || q.mayStay
  | .repeated body least _ _ => least == 0 || body.mayStay
  | .group _ _ body => body.mayStay

/-- The pattern may read a given character first. -/
def mayRead (c : Char) : Pattern → Bool
  | .empty | .anchor _ | .ahead .. | .behind .. => false
  | .char set | .chars set .. => set.contains c
  | .seq p q => p.mayRead c || (p.mayStay && q.mayRead c)
  | .alt p q => p.mayRead c || q.mayRead c
  | .repeated body .. | .group _ _ body => body.mayRead c

/-- **The pattern shuns a character**: it does not match where the character
stands. -/
def shuns (c : Char) (p : Pattern) : Bool :=
  !p.mayStay && !p.mayRead c

/-- **A pattern that may not stay** moves on, along every way. -/
theorem lt_of_mayStay_eq_false (h : p.mayStay = false) (hnext : next ∈ p.ways text cur) :
    cur.offset < next.offset := by
  induction p generalizing cur next with
  | char set =>
    obtain ⟨-, -, -, rfl⟩ := exists_of_mem_ways_char hnext
    exact Nat.lt_succ_self _
  | chars set least most greedy =>
    obtain ⟨stop, rfl, hle, -, -⟩ := exists_of_mem_charsWays hnext
    have hleast : ¬ least = 0 := beq_eq_false_iff_ne.mp h
    rw [Cursor.offset_move]
    omega
  | seq p q ihp ihq =>
    obtain ⟨mid, hmid, hnext⟩ := List.mem_flatMap.mp hnext
    obtain hp | hq := Bool.and_eq_false_iff.mp h
    · exact Nat.lt_of_lt_of_le (ihp hp hmid) (leads_of_mem_ways hnext).le
    · exact Nat.lt_of_le_of_lt (leads_of_mem_ways hmid).le (ihq hq hnext)
  | alt p q ihp ihq =>
    obtain ⟨hp, hq⟩ := Bool.or_eq_false_iff.mp h
    obtain hnext | hnext := List.mem_append.mp hnext
    · exact ihp hp hnext
    · exact ihq hq hnext
  | repeated body least most greedy ih =>
    obtain ⟨hleast, hbody⟩ := Bool.or_eq_false_iff.mp h
    obtain ⟨rounds, rfl⟩ := Nat.exists_eq_succ_of_ne_zero (beq_eq_false_iff_ne.mp hleast)
    -- the first round is one that has to be made
    obtain ⟨last, hlast, hmore⟩ := List.mem_flatMap.mp hnext
    obtain ⟨first, hfirst, hrest⟩ := List.mem_flatMap.mp hlast
    have hreaches : Relation.ReflTransGen (fun a b => b ∈ body.ways text a) first next :=
      (reaches_of_mem_exactlyWays hrest).trans (reaches_of_mem_moreWays hmore)
    clear hnext hmore
    induction hreaches with
    | refl => exact ih hbody hfirst
    | tail _ hround hsofar => exact Nat.lt_of_lt_of_le hsofar (leads_of_mem_ways hround).le
  | group index name body ih =>
    obtain ⟨inner, hinner, rfl⟩ := List.mem_map.mp hnext
    show cur.offset < inner.offset
    exact ih h hinner
  | empty | anchor | ahead | behind => cases h

/-- A pattern with a last character reads it. -/
theorem mayStay_eq_false_of_endsIn (h : p.endsIn c = true) : p.mayStay = false := by
  induction p with
  | char => rfl
  | seq p q _ ihq => exact Bool.and_eq_false_iff.mpr (Or.inr (ihq h))
  | alt p q ihp ihq =>
    obtain ⟨hp, hq⟩ := Bool.and_eq_true_iff.mp h
    exact Bool.or_eq_false_iff.mpr ⟨ihp hp, ihq hq⟩
  | group index name body ih => exact ih h
  | empty | anchor | chars | repeated | ahead | behind => cases h

/-- **A pattern that may not read a character** stays where the character
stands, along every way. -/
theorem offset_eq_of_mayRead_eq_false (h : p.mayRead c = false)
    (hc : text[cur.offset]? = some c) (hnext : next ∈ p.ways text cur) :
    next.offset = cur.offset := by
  induction p generalizing cur next with
  | empty =>
    rw [ways, List.mem_singleton] at hnext
    rw [hnext]
  | anchor condition =>
    unfold ways at hnext
    split at hnext
    · rw [List.mem_singleton.mp hnext]
    · cases hnext
  | char set =>
    obtain ⟨d, hd, hset, -⟩ := exists_of_mem_ways_char hnext
    obtain rfl : c = d := Option.some.inj (hc.symm.trans hd)
    exact absurd hset (Bool.eq_false_iff.mp h)
  | chars set least most greedy =>
    obtain ⟨stop, rfl, -, -, hfills⟩ := exists_of_mem_charsWays hnext
    by_contra hne
    rw [Cursor.offset_move] at hne
    have hle := (leads_of_mem_ways hnext).le
    rw [Cursor.offset_move] at hle
    -- a run that moves has read the character
    obtain ⟨d, hd, hset⟩ := hfills cur.offset (Nat.le_refl _) (by omega)
    obtain rfl : c = d := Option.some.inj (hc.symm.trans hd)
    exact absurd hset (Bool.eq_false_iff.mp h)
  | seq p q ihp ihq =>
    obtain ⟨hp, hq⟩ := Bool.or_eq_false_iff.mp h
    obtain ⟨mid, hmid, hnext⟩ := List.mem_flatMap.mp hnext
    have hstays := ihp hp hc hmid
    obtain hmoves | hq := Bool.and_eq_false_iff.mp hq
    · exact absurd hstays (Nat.ne_of_gt (lt_of_mayStay_eq_false hmoves hmid))
    · exact (ihq hq (hstays ▸ hc) hnext).trans hstays
  | alt p q ihp ihq =>
    obtain ⟨hp, hq⟩ := Bool.or_eq_false_iff.mp h
    obtain hnext | hnext := List.mem_append.mp hnext
    · exact ihp hp hc hnext
    · exact ihq hq hc hnext
  | repeated body least most greedy ih =>
    have hreaches := reaches_of_mem_repeated hnext
    clear hnext
    induction hreaches with
    | refl => rfl
    | tail _ hround hsofar => exact (ih h (hsofar ▸ hc) hround).trans hsofar
  | group index name body ih =>
    obtain ⟨inner, hinner, rfl⟩ := List.mem_map.mp hnext
    show inner.offset = cur.offset
    exact ih h hc hinner
  | ahead holds body | behind holds width body => exact offset_of_mem_lookWays hnext

/-- A way that moves on starts with a character that the pattern may read. -/
theorem exists_mayRead_of_mem_ways (h : p.mayStay = false) (hin : cur.offset ≤ text.size)
    (hnext : next ∈ p.ways text cur) :
    ∃ c, text[cur.offset]? = some c ∧ p.mayRead c = true := by
  have hmoves := lt_of_mayStay_eq_false h hnext
  have hlt : cur.offset < text.size :=
    Nat.lt_of_lt_of_le hmoves ((leads_of_mem_ways hnext).inText hin)
  refine ⟨_, Array.getElem?_eq_getElem hlt, ?_⟩
  by_contra hread
  have hstays := offset_eq_of_mayRead_eq_false (Bool.eq_false_iff.mpr hread)
    (Array.getElem?_eq_getElem hlt) hnext
  exact Nat.ne_of_gt hmoves hstays

/-- **A pattern that shuns a character** does not match where it stands. -/
theorem ways_eq_nil_of_shuns (h : p.shuns c = true) (hc : text[cur.offset]? = some c) :
    p.ways text cur = [] := by
  rw [shuns, Bool.and_eq_true, Bool.not_eq_true', Bool.not_eq_true'] at h
  rw [List.eq_nil_iff_forall_not_mem]
  intro next hnext
  have hmoves := lt_of_mayStay_eq_false h.1 hnext
  rw [offset_eq_of_mayRead_eq_false h.2 hc hnext] at hmoves
  exact Nat.lt_irrefl _ hmoves

/-- There is no match where a character stands that the pattern shuns. -/
theorem matchAt_eq_none_of_shuns {offset : Nat} (h : p.shuns c = true)
    (hc : text[offset]? = some c) : p.matchAt text offset = none := by
  have hnone : p.ways text (.start offset) = [] := ways_eq_nil_of_shuns h hc
  rw [matchAt_eq_head?, hnone]
  rfl

end Pattern

end SourceLens
