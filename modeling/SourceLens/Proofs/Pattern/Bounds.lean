import SourceLens.Proofs.Pattern.Runs

/-!
# Where the ways of a pattern lead

A way never goes back and never leaves the text: it reads characters one by
one, and look-around returns to where it started. So a match starts at the
offset it was asked for, ends at or after it, and ends within the text
(`Pattern.leads_of_matchAt`) – which is what every slice, span and block taken
from a match rests on.

Some patterns fix how their matches end as well. `Pattern.endsIn` reads off a
pattern that its last part is a given character, along every alternative, and
then every way ends right behind that character in the text
(`Pattern.hasAt_of_endsIn`).
-/

namespace SourceLens

/-- **One offset leads to another**: it is not behind it, and it is in the
text if the first one is. -/
structure Leads (text : Text) (a b : Nat) : Prop where
  le : a ≤ b
  inText : a ≤ text.size → b ≤ text.size

namespace Leads

variable {text : Text} {a b c : Nat}

theorem refl (a : Nat) : Leads text a a := ⟨Nat.le_refl a, id⟩

theorem trans (hab : Leads text a b) (hbc : Leads text b c) : Leads text a c :=
  ⟨Nat.le_trans hab.le hbc.le, fun h => hbc.inText (hab.inText h)⟩

/-- A character of the text leads to the offset behind it. -/
theorem succ {ch : Char} (h : text[a]? = some ch) : Leads text a (a + 1) := by
  obtain ⟨ha, -⟩ := Array.getElem?_eq_some_iff.mp h
  exact ⟨Nat.le_succ a, fun _ => ha⟩

/-- A stretch of characters of a set leads to its end. -/
theorem of_fills {set : CharSet} (hle : a ≤ b) (h : set.Fills text a b) : Leads text a b :=
  ⟨hle, h.le_size hle⟩

end Leads

namespace Pattern

variable {text : Text}

/-! ## Every way leads on -/

/-- Look-around returns to where it started. -/
theorem offset_of_mem_lookWays {holds : Bool} {cur next : Cursor} {seen : Option Cursor}
    (h : next ∈ lookWays holds cur seen) : next.offset = cur.offset := by
  cases seen <;> cases holds <;> simp_all [lookWays, Cursor.move]

/-- **Every way of a pattern leads on** from where it starts. -/
theorem leads_of_mem_ways {p : Pattern} {cur next : Cursor} (h : next ∈ p.ways text cur) :
    Leads text cur.offset next.offset := by
  induction p generalizing cur next with
  | empty =>
    rw [ways, List.mem_singleton] at h
    exact h ▸ Leads.refl _
  | char set =>
    obtain ⟨c, hc, -, rfl⟩ := exists_of_mem_ways_char h
    exact Leads.succ hc
  | anchor condition =>
    unfold ways at h
    split at h
    · rw [List.mem_singleton] at h
      exact h ▸ Leads.refl _
    · cases h
  | seq first second ihFirst ihSecond =>
    obtain ⟨mid, hmid, hnext⟩ := List.mem_flatMap.mp h
    exact (ihFirst hmid).trans (ihSecond hnext)
  | alt first second ihFirst ihSecond =>
    obtain h | h := List.mem_append.mp h
    · exact ihFirst h
    · exact ihSecond h
  | chars set least most greedy =>
    obtain ⟨stop, rfl, hle, -, hfills⟩ := exists_of_mem_charsWays h
    exact Leads.of_fills (Nat.le_trans (Nat.le_add_right _ least) hle) hfills
  | repeated body least most greedy ih =>
    have hreaches := reaches_of_mem_repeated h
    clear h
    induction hreaches with
    | refl => exact Leads.refl _
    | tail _ hround hsofar => exact hsofar.trans (ih hround)
  | group index name body ih =>
    obtain ⟨inner, hinner, rfl⟩ := List.mem_map.mp h
    show Leads text cur.offset inner.offset
    exact ih hinner
  | ahead holds body ih => exact offset_of_mem_lookWays h ▸ Leads.refl _
  | behind holds width body ih => exact offset_of_mem_lookWays h ▸ Leads.refl _

/-! ## Matches lie in the text -/

/-- A match is a way from where it starts. -/
theorem exists_way_of_matchAt {p : Pattern} {offset : Nat} {m : Match}
    (h : p.matchAt text offset = some m) :
    m.start = offset ∧ ∃ cur ∈ p.ways text (.start offset), cur.offset = m.stop := by
  rw [matchAt_eq_head?] at h
  obtain ⟨cur, hcur, rfl⟩ := Option.map_eq_some_iff.mp h
  exact ⟨rfl, cur, List.mem_of_head? hcur, rfl⟩

/-- A match that has to consume something is a way from where it starts. -/
theorem exists_way_of_matchNonemptyAt {p : Pattern} {offset : Nat} {m : Match}
    (h : p.matchNonemptyAt text offset = some m) :
    m.start = offset ∧ ∃ cur ∈ p.ways text (.start offset), cur.offset = m.stop := by
  rw [matchNonemptyAt, run_eq_findSome?] at h
  obtain ⟨cur, hcur, rfl⟩ := Option.map_eq_some_iff.mp h
  obtain ⟨way, hway, hfound⟩ := List.exists_of_findSome?_eq_some hcur
  split at hfound
  · cases hfound
  · exact ⟨rfl, way, hway, by rw [Option.some.inj hfound]⟩

/-- **A match ends in the text**, at or after its start. -/
theorem leads_of_matchAt {p : Pattern} {offset : Nat} {m : Match}
    (h : p.matchAt text offset = some m) : Leads text offset m.stop := by
  obtain ⟨-, cur, hcur, hstop⟩ := exists_way_of_matchAt h
  exact hstop ▸ leads_of_mem_ways hcur

/-! ## Searching -/

/-- **What a search finds** is the match at the first offset that has one. -/
theorem searchWithin_eq_some {p : Pattern} {offset count : Nat} {m : Match}
    (h : p.searchWithin text offset count = some m) :
    offset ≤ m.start ∧ m.start < offset + count ∧ p.matchAt text m.start = some m
      ∧ ∀ before, offset ≤ before → before < m.start → p.matchAt text before = none := by
  induction count generalizing offset with
  | zero => cases h
  | succ count ih =>
    unfold searchWithin at h
    cases hm : p.matchAt text offset with
    | some first =>
      simp only [hm, Option.some.injEq] at h
      subst h
      have hstart := (exists_way_of_matchAt hm).1
      exact ⟨by omega, by omega, hstart ▸ hm, fun before _ _ => by omega⟩
    | none =>
      simp only [hm] at h
      obtain ⟨hle, hlt, hat, hbefore⟩ := ih h
      refine ⟨by omega, by omega, hat, fun before hfrom hto => ?_⟩
      obtain rfl | hne := Nat.eq_or_lt_of_le hfrom
      · exact hm
      · exact hbefore before hne hto

/-- A search that finds nothing passes no match. -/
theorem searchWithin_eq_none {p : Pattern} {offset count : Nat}
    (h : p.searchWithin text offset count = none) {at' : Nat} (hfrom : offset ≤ at')
    (hto : at' < offset + count) : p.matchAt text at' = none := by
  induction count generalizing offset with
  | zero => omega
  | succ count ih =>
    unfold searchWithin at h
    cases hm : p.matchAt text offset with
    | some first => simp [hm] at h
    | none =>
      simp only [hm] at h
      obtain rfl | hne := Nat.eq_or_lt_of_le hfrom
      · exact hm
      · exact ih h hne (by omega)

/-- **One step of finding all matches**: there are none, or there is one at or
behind the offset, and the others are found from where it has ended. -/
theorem findFrom_cases (p : Pattern) (steps offset : Nat) (moved : Bool) :
    p.findFrom text (steps + 1) offset moved = [] ∨
      ∃ m, offset ≤ m.start ∧ (∃ cur ∈ p.ways text (.start m.start), cur.offset = m.stop) ∧
        p.findFrom text (steps + 1) offset moved
          = m :: p.findFrom text steps m.stop (m.start != m.stop) := by
  have hsearch {from' : Nat} {m : Match} (hm : p.search text from' = some m) :
      from' ≤ m.start ∧ ∃ cur ∈ p.ways text (.start m.start), cur.offset = m.stop := by
    obtain ⟨hle, -, hat, -⟩ := searchWithin_eq_some hm
    exact ⟨hle, (exists_way_of_matchAt hat).2⟩
  rw [findFrom]
  dsimp only
  split
  · exact Or.inl rfl
  · split
    · exact Or.inl rfl
    · rename_i m hfound
      suffices h : offset ≤ m.start ∧ ∃ cur ∈ p.ways text (.start m.start), cur.offset = m.stop from
        Or.inr ⟨m, h.1, h.2, rfl⟩
      split at hfound
      · exact hsearch hfound
      · split at hfound
        · rename_i first hfirst
          obtain rfl := Option.some.inj hfound
          obtain ⟨hstart, hway⟩ := exists_way_of_matchNonemptyAt hfirst
          exact ⟨hstart.ge, hstart ▸ hway⟩
        · obtain ⟨hle, hway⟩ := hsearch hfound
          exact ⟨(Nat.le_succ offset).trans hle, hway⟩

/-- A match from an offset on starts at or behind it, and is a way of the pattern
from there. -/
theorem exists_way_of_mem_findFrom {p : Pattern} {steps offset : Nat} {moved : Bool} {m : Match}
    (h : m ∈ p.findFrom text steps offset moved) :
    offset ≤ m.start ∧ ∃ cur ∈ p.ways text (.start m.start), cur.offset = m.stop := by
  induction steps generalizing offset moved with
  | zero => cases h
  | succ steps ih =>
    obtain hnil | ⟨first, hle, ⟨cur, hcur, hstop⟩, hcons⟩ := findFrom_cases p steps offset moved
    · rw [hnil] at h
      cases h
    · rw [hcons] at h
      obtain rfl | h := List.mem_cons.mp h
      · exact ⟨hle, cur, hcur, hstop⟩
      · obtain ⟨hbehind, hway⟩ := ih h
        exact ⟨hle.trans ((hstop ▸ (leads_of_mem_ways hcur).le).trans hbehind), hway⟩

/-- Each match from an offset on starts where the one before it has ended, or
behind that. -/
theorem pairwise_findFrom (p : Pattern) (steps offset : Nat) (moved : Bool) :
    (p.findFrom text steps offset moved).Pairwise (·.stop ≤ ·.start) := by
  induction steps generalizing offset moved with
  | zero => exact .nil
  | succ steps ih =>
    obtain hnil | ⟨first, -, -, hcons⟩ := findFrom_cases p steps offset moved
    · rw [hnil]
      exact .nil
    · rw [hcons]
      exact .cons (fun m hm => (exists_way_of_mem_findFrom hm).1) (ih _ _)

/-- **Every match of a text** is a way of the pattern from where it starts. -/
theorem exists_way_of_mem_findAll {p : Pattern} {m : Match} (h : m ∈ p.findAll text) :
    ∃ cur ∈ p.ways text (.start m.start), cur.offset = m.stop :=
  (exists_way_of_mem_findFrom h).2

/-- **Matches of a text do not overlap.** -/
theorem pairwise_stop_le_start (p : Pattern) (text : Text) :
    (p.findAll text).Pairwise (·.stop ≤ ·.start) :=
  pairwise_findFrom p _ 0 true

/-! ## Patterns with a last character -/

/-- **Every way of the pattern ends behind a character**: the last part of it,
along every alternative, is that character. -/
def endsIn (c : Char) : Pattern → Bool
  | .char set => set == .single c
  | .seq _ second => endsIn c second
  | .alt first second => endsIn c first && endsIn c second
  | .group _ _ body => endsIn c body
  | .empty | .anchor _ | .chars .. | .repeated .. | .ahead .. | .behind .. => false

/-- **A pattern with a last character** ends right behind it, wherever it
matches. -/
theorem hasAt_of_endsIn {p : Pattern} {c : Char} (hends : p.endsIn c = true) {cur next : Cursor}
    (h : next ∈ p.ways text cur) :
    ∃ last, next.offset = last + 1 ∧ text.hasAt last c = true := by
  induction p generalizing cur next with
  | char set =>
    obtain rfl : set = .single c := by simpa [endsIn] using hends
    obtain ⟨d, hd, hset, rfl⟩ := exists_of_mem_ways_char h
    refine ⟨cur.offset, rfl, ?_⟩
    rw [Text.hasAt, hd, CharSet.contains_single.mp hset]
    exact beq_self_eq_true _
  | seq first second ihFirst ihSecond =>
    obtain ⟨mid, -, hnext⟩ := List.mem_flatMap.mp h
    exact ihSecond hends hnext
  | alt first second ihFirst ihSecond =>
    obtain ⟨hfirst, hsecond⟩ := Bool.and_eq_true_iff.mp hends
    obtain h | h := List.mem_append.mp h
    · exact ihFirst hfirst h
    · exact ihSecond hsecond h
  | group index name body ih =>
    obtain ⟨inner, hinner, rfl⟩ := List.mem_map.mp h
    show ∃ last, inner.offset = last + 1 ∧ text.hasAt last c = true
    exact ih hends hinner
  | empty | anchor | chars | repeated | ahead | behind => cases hends

end Pattern

end SourceLens
