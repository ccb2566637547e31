import Mathlib
import SourceLens.Function.Extraction
import SourceLens.Proofs.Pattern.Window
import SourceLens.Proofs.Pattern.Matches
import SourceLens.Proofs.Token.Scan

/-!
# Headers behind their indentation

A header starts with the indentation of its line, and the code of its function
behind it. Along every alternative the indentation comes first
(`Pattern.Indented`), and what follows it does not depend on where it was left
(`Pattern.overlooks`): either it does not match in front of a blank, or it goes
over blanks itself. So a header matches at the start of a line just as the rest
of it matches where the code starts (`Pattern.Indented.head?_ways`).
-/

namespace SourceLens

/-- The end of the indentation at an offset. -/
def Function.indentEnd (text : Text) (offset : Nat) : Nat :=
  skipIndent text offset (text.size - offset)

namespace Pattern

/-- The indentation of a line. -/
def indentation : Pattern := (char Builtin.indent).star

/-- **A header starts with the indentation of a line** along every alternative.
The other argument is what follows it in each of them. -/
inductive Indented : Pattern → List Pattern → Prop where
  | line (rest : Pattern) : Indented (.seq lineStart (.seq indentation rest)) [rest]
  | block (rest : Pattern) : Indented (.seq (.seq lineStart indentation) rest) [rest]
  | alt {p q : Pattern} {ps qs : List Pattern} (first : Indented p ps) (second : Indented q qs) :
      Indented (.alt p q) (ps ++ qs)

/-- The pattern does not match in front of a space or a tab. -/
def shunsIndent (p : Pattern) : Bool :=
  p.shuns ' ' && p.shuns '\t'

/-- There are no groups in the pattern. -/
def groupless : Pattern → Bool
  | .empty | .char _ | .anchor _ | .chars .. => true
  | .seq p q | .alt p q => p.groupless && q.groupless
  | .repeated body .. => body.groupless
  | .group .. | .ahead .. | .behind .. => false

/-- What the pattern matches need not be there. -/
def isOptional : Pattern → Bool
  | .chars _ least _ _ | .repeated _ least _ _ => least == 0
  | _ => false

/-- What the pattern matches need not be there, and is not there in front of a
space or a tab. -/
def yieldsToIndent (p : Pattern) : Bool :=
  p.isOptional && p.groupless && !p.mayRead ' ' && !p.mayRead '\t'

/-- **The pattern overlooks indentation**: if it matches in front of a space or
a tab, it matches behind it. -/
def overlooks : Pattern → Bool
  | .seq first rest =>
    shunsIndent (.seq first rest) || (first == indentation && rest.shunsIndent) ||
      (first.yieldsToIndent && rest.overlooks)
  | p => p.shunsIndent

variable {text : Text} {p : Pattern} {cur next : Cursor}

/-! ## Indentation -/

/-- The characters of indentation are spaces and tabs. -/
theorem contains_indent {c : Char} : Builtin.indent.contains c = CharClass.isIndent c := by
  have hspace : (CharItem.range 32 32).contains .exact false c = true ↔ c = ' ' :=
    CharItem.contains_range_self (c := ' ')
  have htab : (CharItem.range 9 9).contains .exact false c = true ↔ c = '\t' :=
    CharItem.contains_range_self (c := '\t')
  rw [Bool.eq_iff_iff]
  simp [Builtin.indent, CharSet.oneOf, CharSet.ofItems, CharSet.contains, CharClass.isIndent,
    hspace, htab]

/-- Indentation is a run of its characters. -/
theorem skipIndent_eq_runEnd (offset left : Nat) :
    Function.skipIndent text offset left = runEnd text Builtin.indent offset left := by
  induction left generalizing offset with
  | zero => rfl
  | succ left ih =>
    unfold Function.skipIndent runEnd
    cases text[offset]? with
    | none => rfl
    | some c =>
      dsimp only
      rw [contains_indent, ih]

/-- **Where indentation ends**: there are only spaces and tabs before, and none
of them stands there. -/
theorem indentEnd_spec (text : Text) (offset : Nat) :
    offset ≤ Function.indentEnd text offset ∧
      Builtin.indent.Fills text offset (Function.indentEnd text offset) ∧
      ∀ c, text[Function.indentEnd text offset]? = some c → CharClass.isIndent c = false := by
  unfold Function.indentEnd
  rw [skipIndent_eq_runEnd]
  obtain ⟨-, hfills, hends⟩ := runEnd_spec text Builtin.indent offset (text.size - offset)
  refine ⟨le_runEnd _ _ _ _, hfills, fun c hc => ?_⟩
  rw [← contains_indent]
  obtain ⟨hlt, -⟩ := Array.getElem?_eq_some_iff.mp hc
  exact hends (by omega) c hc

/-- The code of a function does not start before its header. -/
theorem start_le_codeStart (text : Text) (m : Match) : m.start ≤ Function.codeStart text m :=
  (indentEnd_spec text m.start).1

/-- There is no indentation where another character stands. -/
theorem indentEnd_eq_self {offset : Nat}
    (h : ∀ c, text[offset]? = some c → CharClass.isIndent c = false) :
    Function.indentEnd text offset = offset := by
  obtain ⟨hle, hfills, -⟩ := indentEnd_spec text offset
  by_contra hne
  obtain ⟨c, hc, hset⟩ := hfills offset (Nat.le_refl _) (by omega)
  rw [contains_indent, h c hc] at hset
  cases hset

/-! ## Overlooking it -/

/-- A pattern without groups closes none. -/
theorem groups_eq_of_groupless (h : p.groupless = true) (hnext : next ∈ p.ways text cur) :
    next.groups = cur.groups := by
  induction p generalizing cur next with
  | empty => rw [List.mem_singleton.mp hnext]
  | anchor condition =>
    unfold ways at hnext
    split at hnext
    · rw [List.mem_singleton.mp hnext]
    · cases hnext
  | char set =>
    obtain ⟨-, -, -, rfl⟩ := exists_of_mem_ways_char hnext
    rfl
  | chars set least most greedy =>
    obtain ⟨stop, rfl, -⟩ := exists_of_mem_charsWays hnext
    rfl
  | seq p q ihp ihq =>
    obtain ⟨hp, hq⟩ := Bool.and_eq_true_iff.mp h
    obtain ⟨mid, hmid, hnext⟩ := List.mem_flatMap.mp hnext
    exact (ihq hq hnext).trans (ihp hp hmid)
  | alt p q ihp ihq =>
    obtain ⟨hp, hq⟩ := Bool.and_eq_true_iff.mp h
    obtain hnext | hnext := List.mem_append.mp hnext
    · exact ihp hp hnext
    · exact ihq hq hnext
  | repeated body least most greedy ih =>
    have hreaches := reaches_of_mem_repeated hnext
    clear hnext
    induction hreaches with
    | refl => rfl
    | tail _ hround hsofar => exact (ih h hround).trans hsofar
  | group | ahead | behind => cases h

/-- What need not be there can be left out. -/
theorem self_mem_ways (h : p.isOptional = true) (cur : Cursor) : cur ∈ p.ways text cur := by
  cases p with
  | chars set least most greedy =>
    obtain rfl : least = 0 := beq_iff_eq.mp h
    have hmem : cur.offset ∈ runEnds text set 0 most cur.offset :=
      mem_runEnds.mpr ⟨Nat.le_refl _, fun _ _ => Nat.le_add_right _ _, fun _ _ _ => by omega⟩
    rw [ways, charsWays_eq]
    refine List.mem_map.mpr ⟨cur.offset, ?_, rfl⟩
    cases greedy with
    | true => exact List.mem_reverse.mpr hmem
    | false => exact hmem
  | repeated body least most greedy =>
    obtain rfl : least = 0 := beq_iff_eq.mp h
    refine List.mem_flatMap.mpr ⟨cur, List.mem_singleton_self cur, ?_⟩
    unfold moreWays
    cases greedy with
    | true => exact List.mem_append_right _ (List.mem_singleton_self cur)
    | false => exact List.mem_cons_self
  | empty | char | anchor | seq | alt | group | ahead | behind => cases h

/-- A space and a tab are indentation, and nothing else is. -/
theorem eq_of_isIndent {c : Char} (h : CharClass.isIndent c = true) : c = ' ' ∨ c = '\t' := by
  simpa [CharClass.isIndent] using h

/-- In front of a space or a tab, what yields to them is left out. -/
theorem eq_of_yieldsToIndent {c : Char} (h : p.yieldsToIndent = true)
    (hc : text[cur.offset]? = some c) (hindent : CharClass.isIndent c = true)
    (hnext : next ∈ p.ways text cur) : next = cur := by
  simp only [yieldsToIndent, Bool.and_eq_true, Bool.not_eq_true'] at h
  obtain ⟨⟨⟨-, hgroups⟩, hspace⟩, htab⟩ := h
  have hread : p.mayRead c = false := by
    obtain rfl | rfl := eq_of_isIndent hindent
    · exact hspace
    · exact htab
  have hoffset := offset_eq_of_mayRead_eq_false hread hc hnext
  have hgroups := groups_eq_of_groupless hgroups hnext
  cases next
  cases cur
  cases hoffset
  cases hgroups
  rfl

/-- A pattern that shuns spaces and tabs does not match in front of one. -/
theorem ways_eq_nil_of_shunsIndent {c : Char} (h : p.shunsIndent = true)
    (hc : text[cur.offset]? = some c) (hindent : CharClass.isIndent c = true) :
    p.ways text cur = [] := by
  obtain ⟨hspace, htab⟩ := Bool.and_eq_true_iff.mp h
  obtain rfl | rfl := eq_of_isIndent hindent
  · exact ways_eq_nil_of_shuns hspace hc
  · exact ways_eq_nil_of_shuns htab hc

/-- **A pattern that overlooks indentation**, and matches in front of a space or a
tab, matches behind it. -/
theorem ways_ne_nil_of_overlooks {c : Char} (h : p.overlooks = true)
    (hc : text[cur.offset]? = some c) (hindent : CharClass.isIndent c = true)
    (hways : p.ways text cur ≠ []) : p.ways text (cur.move (cur.offset + 1)) ≠ [] := by
  induction p with
  | seq first rest ihFirst ihRest =>
    rw [overlooks, Bool.or_eq_true, Bool.or_eq_true, Bool.and_eq_true, Bool.and_eq_true] at h
    obtain ⟨last, hlast⟩ := List.exists_mem_of_ne_nil _ hways
    obtain ⟨mid, hmid, hnext⟩ := List.mem_flatMap.mp hlast
    obtain (hshuns | ⟨hrun, hshuns⟩) | ⟨hyields, hrest⟩ := h
    · exact absurd (ways_eq_nil_of_shunsIndent hshuns hc hindent) hways
    · -- the blanks are read, and all of them but the first can be read from behind it
      obtain rfl := beq_iff_eq.mp hrun
      obtain ⟨stop, rfl, hle, -, hfills⟩ := exists_of_mem_charsWays hmid
      have hbehind : cur.offset ≠ stop := by
        rintro rfl
        have hnone : rest.ways text (cur.move cur.offset) = [] :=
          ways_eq_nil_of_shunsIndent hshuns hc hindent
        rw [hnone] at hnext
        cases hnext
      refine List.ne_nil_of_mem (List.mem_flatMap.mpr ⟨cur.move stop, ?_, hnext⟩)
      rw [indentation, star, times, ways, charsWays_eq]
      refine List.mem_map.mpr ⟨stop, List.mem_reverse.mpr (mem_runEnds.mpr ⟨?_, ?_, ?_⟩), rfl⟩
      · rw [Cursor.offset_move]
        omega
      · rintro _ ⟨⟩
      · exact fun offset hfrom hto => hfills offset (by rw [Cursor.offset_move] at hfrom; omega) hto
    · obtain rfl := eq_of_yieldsToIndent hyields hc hindent hmid
      have hmoved := ihRest hrest (List.ne_nil_of_mem hnext)
      obtain ⟨after, hafter⟩ := List.exists_mem_of_ne_nil _ hmoved
      simp only [yieldsToIndent, Bool.and_eq_true] at hyields
      exact List.ne_nil_of_mem
        (List.mem_flatMap.mpr ⟨_, self_mem_ways hyields.1.1.1 _, hafter⟩)
  | empty | char | anchor | alt | chars | repeated | group | ahead | behind =>
    exact absurd (ways_eq_nil_of_shunsIndent h hc hindent) hways

/-! ## Headers -/

/-- What overlooks indentation matches behind it, if it matches somewhere in
it. -/
theorem ways_ne_nil_of_fills (h : p.overlooks = true) {offset stop : Nat}
    (hfills : Builtin.indent.Fills text offset stop) (hle : offset ≤ stop)
    (hways : p.ways text (.start offset) ≠ []) : p.ways text (.start stop) ≠ [] := by
  obtain ⟨count, rfl⟩ := Nat.exists_eq_add_of_le hle
  induction count with
  | zero => exact hways
  | succ count ih =>
    have hbefore := ih (fun o hfrom hto => hfills o hfrom (by omega)) (by omega)
    obtain ⟨c, hc, hset⟩ := hfills (offset + count) (by omega) (by omega)
    exact ways_ne_nil_of_overlooks h hc (contains_indent ▸ hset) hbefore

/-- **Behind indentation**, what overlooks it matches first where the indentation
ends. -/
theorem head?_ways_indentation (h : p.overlooks = true) (offset : Nat) :
    (ways text (.seq indentation p) (.start offset)).head?
      = (p.ways text (.start (Function.indentEnd text offset))).head? := by
  obtain ⟨hle, hfills, -⟩ := indentEnd_spec text offset
  have hrun : ways text indentation (.start offset)
      = .start (Function.indentEnd text offset)
        :: (List.range' offset (Function.indentEnd text offset - offset)).reverse.map .start := by
    have hend : runEnd text Builtin.indent (Cursor.start offset).offset
        (text.size - (Cursor.start offset).offset) = Function.indentEnd text offset :=
      (skipIndent_eq_runEnd _ _).symm
    rw [indentation, star, times, ways, charsWays_unbounded, hend]
    show (List.range' offset (Function.indentEnd text offset - offset + 1)).reverse.map _ = _
    rw [List.range'_concat, List.reverse_append, Nat.one_mul, Nat.add_sub_cancel' hle]
    rfl
  rw [ways, hrun, List.flatMap_cons, List.head?_append]
  cases hways : p.ways text (.start (Function.indentEnd text offset)) with
  | cons first rest => rfl
  | nil =>
    have hnone : ((List.range' offset (Function.indentEnd text offset - offset)).reverse.map
        Cursor.start).flatMap (ways text p) = [] := by
      refine List.flatMap_eq_nil_iff.mpr fun cur hcur => ?_
      obtain ⟨before, hbefore, rfl⟩ := List.mem_map.mp hcur
      obtain ⟨hfrom, hto⟩ := List.mem_range'_1.mp (List.mem_reverse.mp hbefore)
      by_contra hne
      exact ways_ne_nil_of_fills h (fun o hle hlt => hfills o (by omega) hlt) (by omega) hne hways
    rw [hnone]
    rfl

/-- The first members of what is put together tell the first member of the
whole. -/
theorem head?_flatMap_congr {α β : Type} {as : List α} {f g : α → List β}
    (h : ∀ a ∈ as, (f a).head? = (g a).head?) : (as.flatMap f).head? = (as.flatMap g).head? := by
  induction as with
  | nil => rfl
  | cons a as ih =>
    obtain ⟨hfirst, hrest⟩ := List.forall_mem_cons.mp h
    rw [List.flatMap_cons, List.flatMap_cons, List.head?_append, List.head?_append, hfirst,
      ih hrest]

namespace Indented

variable {header : Pattern} {rests : List Pattern}

theorem ne_nil (h : header.Indented rests) : rests ≠ [] := by
  induction h with
  | line | block => exact List.cons_ne_nil _ _
  | alt _ _ ih => exact List.append_ne_nil_of_left_ne_nil ih _

/-- A header matches at the starts of lines, along each of its alternatives. -/
theorem ways_eq (h : header.Indented rests) (cur : Cursor) :
    header.ways text cur = if Anchor.lineStart.holds text cur.offset then
      rests.flatMap fun rest => ways text (.seq indentation rest) cur else [] := by
  induction h with
  | line rest =>
    rw [lineStart, ways, ways, List.flatMap_singleton]
    split
    · exact List.flatMap_singleton _ _
    · rfl
  | block rest =>
    rw [lineStart, ways, ways, ways, List.flatMap_singleton]
    split
    · rw [List.flatMap_singleton]
      rfl
    · rfl
  | alt _ _ ihFirst ihSecond =>
    rw [ways, ihFirst, ihSecond, List.flatMap_append]
    split <;> rfl

/-- Where a line starts, a header matches as what follows the indentation
does. -/
theorem mem_ways (h : header.Indented rests) (hline : Anchor.lineStart.holds text cur.offset = true)
    (hnext : next ∈ (choice rests).ways text cur) : next ∈ header.ways text cur := by
  rw [ways_choice text h.ne_nil] at hnext
  obtain ⟨rest, hrest, hnext⟩ := List.mem_flatMap.mp hnext
  rw [h.ways_eq, if_pos hline]
  have hoptional : indentation.isOptional = true := rfl
  exact List.mem_flatMap.mpr
    ⟨rest, hrest, List.mem_flatMap.mpr ⟨cur, self_mem_ways hoptional cur, hnext⟩⟩

/-- **A header matches at the start of a line** just as what follows the
indentation does where the code starts. -/
theorem head?_ways (h : header.Indented rests) (hoverlooks : ∀ rest ∈ rests, rest.overlooks = true)
    (offset : Nat) :
    (header.ways text (.start offset)).head?
      = if Anchor.lineStart.holds text offset then
          ((choice rests).ways text (.start (Function.indentEnd text offset))).head?
        else none := by
  rw [h.ways_eq, ways_choice text h.ne_nil, apply_ite List.head?,
    head?_flatMap_congr fun rest hrest => head?_ways_indentation (hoverlooks rest hrest) offset]
  rfl

end Indented

end Pattern

end SourceLens
