import Mathlib.Data.List.Pairwise
import SourceLens.Proofs.Pattern.Starts

/-!
# All matches of a pattern that moves on

A pattern that never matches without reading anything (`Pattern.mayStay`) is
searched for in the plain way: the next search starts where the last match has
ended. Its matches are therefore the matches at their own offsets
(`Pattern.matchAt_of_mem_findAll`), one behind the other
(`Pattern.pairwise_findAll`), and no offset is left out at which there is
a match, unless one that started earlier goes beyond it
(`Pattern.exists_mem_findAll`).
-/

namespace SourceLens

namespace Pattern

variable {text : Text} {p : Pattern} (hmoves : p.mayStay = false)
include hmoves

/-- A match of a pattern that moves on is not empty. -/
theorem start_lt_stop {offset : Nat} {m : Match} (h : p.matchAt text offset = some m) :
    m.start = offset ∧ offset < m.stop := by
  obtain ⟨hstart, cur, hcur, hstop⟩ := exists_way_of_matchAt h
  have hlt := lt_of_mayStay_eq_false hmoves hcur
  rw [hstop] at hlt
  exact ⟨hstart, hlt⟩

/-- Every search starts where the last match has ended. -/
theorem findFrom_succ (steps offset : Nat) :
    p.findFrom text (steps + 1) offset true
      = if text.size < offset then []
        else (p.search text offset).elim [] fun m => m :: p.findFrom text steps m.stop true := by
  rw [findFrom]
  dsimp only
  rw [if_pos rfl]
  split
  · rfl
  · cases hsearch : p.search text offset with
    | none => rfl
    | some m =>
      obtain ⟨-, hlt⟩ := start_lt_stop hmoves (searchWithin_eq_some hsearch).2.2.1
      have hmoved : (m.start != m.stop) = true := bne_iff_ne.mpr (Nat.ne_of_lt hlt)
      dsimp only [Option.elim]
      rw [hmoved]

/-- The matches from an offset on are matches at their own offsets, none before
it. -/
theorem matchAt_of_mem_findFrom {steps offset : Nat} {m : Match}
    (h : m ∈ p.findFrom text steps offset true) :
    p.matchAt text m.start = some m ∧ offset ≤ m.start := by
  induction steps generalizing offset with
  | zero => cases h
  | succ steps ih =>
    rw [findFrom_succ hmoves] at h
    split at h
    · cases h
    · cases hsearch : p.search text offset with
      | none =>
        rw [hsearch] at h
        cases h
      | some first =>
        rw [hsearch] at h
        obtain ⟨hle, -, hfirst, -⟩ := searchWithin_eq_some hsearch
        obtain rfl | h := List.mem_cons.mp h
        · exact ⟨hfirst, hle⟩
        · obtain ⟨hm, hbehind⟩ := ih h
          have hlt := (start_lt_stop hmoves hfirst).2
          exact ⟨hm, by omega⟩

/-- Searching passes over no match, except for those that start inside another
one. -/
theorem exists_mem_findFrom {steps offset : Nat} (hsteps : text.size < steps + offset) {at' : Nat}
    (hfrom : offset ≤ at') (hto : at' ≤ text.size) {m : Match}
    (hm : p.matchAt text at' = some m) :
    ∃ found ∈ p.findFrom text steps offset true,
      found.start = at' ∨ found.start < at' ∧ at' < found.stop := by
  induction steps generalizing offset with
  | zero => omega
  | succ steps ih =>
    rw [findFrom_succ hmoves, if_neg (by omega)]
    cases hsearch : p.search text offset with
    | none =>
      have hnone := searchWithin_eq_none hsearch hfrom (by omega)
      rw [hm] at hnone
      cases hnone
    | some first =>
      obtain ⟨hle, -, hfirst, hbefore⟩ := searchWithin_eq_some hsearch
      have hlt := (start_lt_stop hmoves hfirst).2
      obtain hbehind | hinside := Nat.lt_or_ge at' first.stop
      · refine ⟨first, List.mem_cons_self, ?_⟩
        obtain hearly | heq | hlate := Nat.lt_trichotomy at' first.start
        · rw [hbefore at' hfrom hearly] at hm
          cases hm
        · exact Or.inl heq.symm
        · exact Or.inr ⟨hlate, hbehind⟩
      · obtain ⟨found, hfound, hat⟩ := @ih first.stop (by omega) hinside
        exact ⟨found, List.mem_cons_of_mem _ hfound, hat⟩

/-- **Every match of a text** is the match at its offset. -/
theorem matchAt_of_mem_findAll {m : Match} (h : m ∈ p.findAll text) :
    p.matchAt text m.start = some m :=
  (matchAt_of_mem_findFrom hmoves h).1

/-- **Matches of a text follow each other**: they come in the order in which they
start. -/
theorem pairwise_findAll : (p.findAll text).Pairwise (·.start < ·.start) := by
  refine (pairwise_stop_le_start p text).imp_of_mem fun hfirst _ hle => ?_
  exact ((start_lt_stop hmoves (matchAt_of_mem_findAll hmoves hfirst)).2).trans_le hle

/-- **No match is left out**, except for those that start inside another one. -/
theorem exists_mem_findAll {at' : Nat} (hin : at' ≤ text.size) {m : Match}
    (hm : p.matchAt text at' = some m) :
    ∃ found ∈ p.findAll text, found.start = at' ∨ found.start < at' ∧ at' < found.stop :=
  exists_mem_findFrom hmoves (by omega) (Nat.zero_le _) hin hm

omit hmoves in
/-- A match at the start of a text is its first one. -/
theorem exists_findAll_eq_cons {m : Match} (hm : p.matchAt text 0 = some m) :
    ∃ rest, p.findAll text = m :: rest := by
  have hsearch : p.search text 0 = some m := by
    unfold search
    rw [Nat.sub_zero, searchWithin, hm]
  rw [findAll, findFrom]
  dsimp only
  rw [if_neg (Nat.not_lt_zero _), if_pos rfl, hsearch]
  exact ⟨_, rfl⟩

end Pattern

end SourceLens
