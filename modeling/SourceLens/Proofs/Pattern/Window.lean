import Mathlib
import SourceLens.Proofs.Pattern.Bounds

/-!
# Matching in a window of a text

A pattern without anchors, whose look-ahead is at single characters, sees of a
text no more than the characters that it reads and the next one
(`Pattern.isLocal`). So it matches in a part that is taken out of a text as it
does in the text: up to a cut before which the two show the same characters, the
ways are the same ones in the same order, moved to where the part was taken
from (`Pattern.ways_of_shows`).

Behind the cut nothing is the same. A run can go on there in the text, and the
bound on the rounds of a repetition comes from the length of the text, so the
statement is about the ways that end before the cut, on both sides.
-/

namespace SourceLens

/-- **A part shows a text** from an offset on, up to a cut: it does not reach
beyond the text, and before the cut both have the same characters. A cut behind
the end of both says that they end together. -/
structure Text.Shows (part text : Text) (start cut : Nat) : Prop where
  size_le : start + part.size ≤ text.size
  same : ∀ offset, start + offset < cut → part[offset]? = text[start + offset]?

/-- The cut up to which a slice that ends at an offset shows the text. It is
behind the end where the text ends as well. -/
def Text.cutAt (text : Text) (stop : Nat) : Nat :=
  if stop = text.size then stop + 1 else stop

theorem Text.cutAt_le {text : Text} {stop : Nat} : text.cutAt stop ≤ stop + 1 := by
  unfold cutAt
  split <;> omega

theorem Text.le_cutAt {text : Text} {stop : Nat} : stop ≤ text.cutAt stop := by
  unfold cutAt
  split <;> omega

/-- A text shows itself. -/
theorem Text.Shows.refl (text : Text) (cut : Nat) : text.Shows text 0 cut :=
  ⟨(Nat.zero_add _).le, fun offset _ => by rw [Nat.zero_add]⟩

/-- A slice shows its text. -/
theorem Text.shows_slice {text : Text} {start stop : Nat} (hle : start ≤ stop)
    (hin : stop ≤ text.size) : (text.slice start stop).Shows text start (text.cutAt stop) := by
  refine ⟨by rw [size_slice hin]; omega, fun offset hcut => ?_⟩
  obtain hinside | hbehind := Nat.lt_or_ge (start + offset) stop
  · exact getElem?_slice hin hinside
  · -- then the text ends where the slice does
    unfold cutAt at hcut
    split at hcut
    · have hsize : (text.slice start stop).size = stop - start := size_slice hin
      rw [Array.getElem?_eq_none (by omega), Array.getElem?_eq_none (by omega)]
    · omega

/-- A group of a part, as a group of the text. -/
def GroupMatch.shift (start : Nat) (g : GroupMatch) : GroupMatch :=
  { g with start := start + g.start, stop := start + g.stop }

/-- A cursor in a part, as a cursor in the text. -/
def Cursor.shift (start : Nat) (cur : Cursor) : Cursor where
  offset := start + cur.offset
  groups := cur.groups.map (.shift start)

/-- The cursor is before a cut. -/
def Cursor.before (cut : Nat) (cur : Cursor) : Bool :=
  cur.offset < cut

namespace Cursor

@[simp] theorem offset_shift (start : Nat) (cur : Cursor) :
    (cur.shift start).offset = start + cur.offset := rfl

/-- The cursor behind a group that closes. -/
def close (index : Nat) (name : Option String) (start : Nat) (cur : Cursor) : Cursor :=
  { cur with groups := ⟨index, name, start, cur.offset⟩ :: cur.groups }

theorem shift_comp_close (start index : Nat) (name : Option String) (opened : Nat) :
    shift start ∘ close index name opened = close index name (start + opened) ∘ shift start := rfl

theorem before_eq_true {cut : Nat} {cur : Cursor} : cur.before cut = true ↔ cur.offset < cut :=
  decide_eq_true_iff

end Cursor

namespace Pattern

/-- **The pattern is local**: it has no anchors and no look-behind, and looks
ahead at single characters only. -/
def isLocal : Pattern → Bool
  | .empty | .char _ | .chars .. | .ahead _ (.char _) => true
  | .seq p q | .alt p q => p.isLocal && q.isLocal
  | .repeated body .. | .group _ _ body => body.isLocal
  | .anchor _ | .ahead .. | .behind .. => false

/-! ## The ends of a run -/

/-- The offsets at which a run of characters can end, in ascending order. -/
def runEnds (text : Text) (set : CharSet) (least : Nat) (most : Option Nat) (offset : Nat) :
    List Nat :=
  let low := runEnd text set offset least
  if low < offset + least then []
  else List.range' low (runEnd text set low (charsLeft text least most low) - low + 1)

variable {text part : Text} {start cut : Nat}

theorem charsWays_eq (set : CharSet) (least : Nat) (most : Option Nat) (greedy : Bool)
    (cur : Cursor) :
    charsWays text set least most greedy cur
      = (if greedy then (runEnds text set least most cur.offset).reverse
          else runEnds text set least most cur.offset).map cur.move := by
  unfold charsWays runEnds
  dsimp only
  split
  · cases greedy <;> rfl
  · rfl

theorem pairwise_runEnds (set : CharSet) (least : Nat) (most : Option Nat) (offset : Nat) :
    (runEnds text set least most offset).Pairwise (· < ·) := by
  unfold runEnds
  dsimp only
  split
  · exact .nil
  · exact List.pairwise_lt_range'

/-- A stretch that a set fills is passed by a run that may go so far. -/
theorem le_runEnd_of_fills {set : CharSet} {offset stop limit : Nat}
    (h : set.Fills text offset stop) (hlimit : stop ≤ offset + limit) :
    stop ≤ runEnd text set offset limit := by
  obtain ⟨-, -, hends⟩ := runEnd_spec text set offset limit
  have hle := le_runEnd text set offset limit
  by_contra hlt
  obtain ⟨c, hc, hset⟩ := h (runEnd text set offset limit) hle (by omega)
  have hnot := hends (by omega) c hc
  rw [hset] at hnot
  cases hnot

/-- **Where a run can end**: behind no fewer characters than it has to pass and
no more than it may, all of them in its set. -/
theorem mem_runEnds {set : CharSet} {least : Nat} {most : Option Nat} {offset stop : Nat} :
    stop ∈ runEnds text set least most offset ↔ offset + least ≤ stop ∧
      (∀ bound, most = some bound → stop ≤ offset + max least bound) ∧
      set.Fills text offset stop := by
  constructor
  · intro h
    have hway : (Cursor.start offset).move stop
        ∈ charsWays text set least most false (.start offset) := by
      rw [charsWays_eq]
      exact List.mem_map_of_mem h
    obtain ⟨stop', heq, hleast, hmost, hfills⟩ := exists_of_mem_charsWays hway
    obtain rfl : stop = stop' := congrArg Cursor.offset heq
    exact ⟨hleast, hmost, hfills⟩
  · rintro ⟨hleast, hmost, hfills⟩
    have hfirst : set.Fills text offset (offset + least) :=
      fun o hfrom hto => hfills o hfrom (by omega)
    have hlow : runEnd text set offset least = offset + least :=
      Nat.le_antisymm (runEnd_spec text set offset least).1
        (le_runEnd_of_fills hfirst (Nat.le_refl _))
    have hrest : set.Fills text (offset + least) stop :=
      fun o hfrom hto => hfills o (by omega) hto
    unfold runEnds
    dsimp only
    rw [hlow, if_neg (Nat.lt_irrefl _), List.mem_range'_1]
    have hstop : stop ≤ runEnd text set (offset + least)
        (charsLeft text least most (offset + least)) := by
      obtain heq | hlt := Nat.eq_or_lt_of_le hleast
      · exact heq ▸ le_runEnd text set _ _
      · refine le_runEnd_of_fills hrest ?_
        -- the last character of the stretch is in the text
        obtain ⟨c, hc, -⟩ := hrest (stop - 1) (by omega) (by omega)
        obtain ⟨hlast, -⟩ := Array.getElem?_eq_some_iff.mp hc
        unfold charsLeft
        cases most with
        | none => dsimp only; omega
        | some bound =>
          have hbound := hmost bound rfl
          dsimp only
          omega
    omega

/-- A part shows the same stretches as the text. -/
theorem fills_iff_of_shows (hshows : part.Shows text start cut) {set : CharSet}
    {offset stop : Nat} (hstop : start + stop ≤ cut) :
    set.Fills part offset stop ↔ set.Fills text (start + offset) (start + stop) := by
  constructor
  · intro h o hfrom hto
    obtain ⟨c, hc, hset⟩ := h (o - start) (by omega) (by omega)
    have hsame := hshows.same (o - start) (by omega)
    rw [Nat.add_sub_cancel' (by omega : start ≤ o)] at hsame
    exact ⟨c, hsame ▸ hc, hset⟩
  · intro h o hfrom hto
    obtain ⟨c, hc, hset⟩ := h (start + o) (by omega) (by omega)
    exact ⟨c, (hshows.same o (by omega)).trans hc, hset⟩

/-- **A run ends at the same offsets** before the cut. -/
theorem runEnds_of_shows (hshows : part.Shows text start cut) (set : CharSet) (least : Nat)
    (most : Option Nat) (offset : Nat) :
    ((runEnds part set least most offset).map (start + ·)).filter (· < cut)
      = (runEnds text set least most (start + offset)).filter (· < cut) := by
  have hpart : ((runEnds part set least most offset).map (start + ·)).Pairwise (· < ·) :=
    List.pairwise_map.mpr ((pairwise_runEnds set least most offset).imp
      fun h => Nat.add_lt_add_left h start)
  refine List.Pairwise.eq_of_mem_iff (r := (· < ·)) (hpart.filter _)
    ((pairwise_runEnds set least most (start + offset)).filter _) fun stop => ?_
  rw [List.mem_filter, List.mem_filter, List.mem_map, mem_runEnds, decide_eq_true_eq]
  refine and_congr_left fun hcut => ⟨?_, fun ⟨hleast, hmost, hfills⟩ => ?_⟩
  · rintro ⟨stop, hmem, rfl⟩
    obtain ⟨hleast, hmost, hfills⟩ := mem_runEnds.mp hmem
    refine ⟨by omega, fun bound hbound => ?_, (fills_iff_of_shows hshows hcut.le).mp hfills⟩
    have hle := hmost bound hbound
    omega
  · have hstop : start + (stop - start) = stop := by omega
    refine ⟨stop - start, mem_runEnds.mpr ⟨by omega, fun bound hbound => ?_, ?_⟩, hstop⟩
    · have hle := hmost bound hbound
      omega
    · rw [fills_iff_of_shows hshows (by omega), hstop]
      exact hfills

/-! ## The ways before the cut -/

/-- **Two lists of cursors are the same before the cut**: one in a part, the
other in the text. -/
def SameBefore (start cut : Nat) (inPart inText : List Cursor) : Prop :=
  (inPart.map (.shift start)).filter (Cursor.before cut) = inText.filter (Cursor.before cut)

/-- Of cursors that are not before the cut, nothing that leads on is. -/
def NoneBefore (cut : Nat) (f : Cursor → List Cursor) : Prop :=
  ∀ cur, cur.before cut = false → (f cur).filter (Cursor.before cut) = []

theorem noneBefore_of_le {f : Cursor → List Cursor}
    (h : ∀ cur, ∀ next ∈ f cur, cur.offset ≤ next.offset) : NoneBefore cut f := by
  intro cur hcur
  refine List.filter_eq_nil_iff.mpr fun next hnext => ?_
  have hle := h cur next hnext
  rw [Cursor.before, decide_eq_false_iff_not] at hcur
  rw [Cursor.before_eq_true]
  omega

theorem flatMap_filter_of_nil {α β : Type} {l : List α} {p : α → Bool} {f : α → List β}
    (h : ∀ a ∈ l, p a = false → f a = []) : (l.filter p).flatMap f = l.flatMap f := by
  induction l with
  | nil => rfl
  | cons a l ih =>
    obtain ⟨hfirst, hrest⟩ := List.forall_mem_cons.mp h
    rw [List.filter_cons, List.flatMap_cons, ← ih hrest]
    cases hp : p a with
    | true => rfl
    | false => rw [hfirst hp]; rfl

/-- What comes after the same cursors is the same, if it is the same after each
of them. -/
theorem SameBefore.flatMap {inPart inText : List Cursor} (h : SameBefore start cut inPart inText)
    {f f' : Cursor → List Cursor} (hf' : NoneBefore cut f')
    (hsame : ∀ cur ∈ inPart, SameBefore start cut (f cur) (f' (cur.shift start))) :
    SameBefore start cut (inPart.flatMap f) (inText.flatMap f') := by
  have hdrop (l : List Cursor) : (l.filter (Cursor.before cut)).flatMap
      (fun cur => (f' cur).filter (Cursor.before cut)) = l.flatMap fun cur =>
        (f' cur).filter (Cursor.before cut) :=
    flatMap_filter_of_nil fun cur _ hcur => hf' cur hcur
  unfold SameBefore
  rw [List.map_flatMap, List.filter_flatMap, List.filter_flatMap, ← hdrop inText, ← h, hdrop,
    List.flatMap_map]
  exact List.flatMap_congr hsame

theorem SameBefore.append {inPart inText inPart' inText' : List Cursor}
    (h : SameBefore start cut inPart inText) (h' : SameBefore start cut inPart' inText') :
    SameBefore start cut (inPart ++ inPart') (inText ++ inText') := by
  unfold SameBefore at *
  rw [List.map_append, List.filter_append, List.filter_append, h, h']

theorem SameBefore.single (cur : Cursor) : SameBefore start cut [cur] [cur.shift start] := rfl

theorem SameBefore.nil : SameBefore start cut [] [] := rfl

section Rounds

/-- Rounds that lead on lead on. -/
theorem le_of_reaches {body : Cursor → List Cursor}
    (hle : ∀ cur, ∀ next ∈ body cur, cur.offset ≤ next.offset) {cur next : Cursor}
    (h : Relation.ReflTransGen (fun a b => b ∈ body a) cur next) : cur.offset ≤ next.offset := by
  induction h with
  | refl => exact Nat.le_refl _
  | tail _ hround hsofar => exact hsofar.trans (hle _ _ hround)

variable {body body' : Cursor → List Cursor}
  (hle : ∀ cur, ∀ next ∈ body cur, cur.offset ≤ next.offset ∧
    (cur.offset ≤ part.size → next.offset ≤ part.size))
  (hle' : ∀ cur, ∀ next ∈ body' cur, cur.offset ≤ next.offset)
  (hsame : ∀ cur, cur.offset ≤ part.size →
    SameBefore start cut (body cur) (body' (cur.shift start)))
include hle hle' hsame

theorem sameBefore_exactlyWays (rounds : Nat) (cur : Cursor) (hcur : cur.offset ≤ part.size) :
    SameBefore start cut (exactlyWays body rounds cur)
      (exactlyWays body' rounds (cur.shift start)) := by
  induction rounds generalizing cur with
  | zero => exact .single cur
  | succ rounds ih =>
    exact (hsame cur hcur).flatMap
      (noneBefore_of_le fun cur next hnext => le_of_reaches hle' (reaches_of_mem_exactlyWays hnext))
      fun next hnext => ih next ((hle cur next hnext).2 hcur)

/-- **Further rounds are the same before the cut**, if on both sides as many may
be made as characters are left. -/
theorem sameBefore_moreWays (hsize : start + part.size ≤ text.size) (greedy : Bool)
    {steps steps' : Nat} (left : Option Nat) {cur : Cursor} (hcur : cur.offset ≤ part.size)
    (hsteps : part.size < steps + cur.offset)
    (hsteps' : text.size < steps' + (start + cur.offset)) :
    SameBefore start cut (moreWays body greedy steps left cur)
      (moreWays body' greedy steps' left (cur.shift start)) := by
  induction steps generalizing steps' left cur with
  | zero => omega
  | succ steps ih =>
    obtain ⟨steps', rfl⟩ : ∃ more, steps' = more + 1 := ⟨steps' - 1, by omega⟩
    have hround : SameBefore start cut
        (if left == some 0 then []
          else (body cur).flatMap fun next =>
            if next.offset == cur.offset then [next]
            else moreWays body greedy steps (left.map (· - 1)) next)
        (if left == some 0 then []
          else (body' (cur.shift start)).flatMap fun next =>
            if next.offset == (cur.shift start).offset then [next]
            else moreWays body' greedy steps' (left.map (· - 1)) next) := by
      split
      · exact .nil
      · refine (hsame cur hcur).flatMap (noneBefore_of_le fun cur next hnext => ?_)
          fun next hnext => ?_
        · split at hnext
          · exact (List.mem_singleton.mp hnext) ▸ Nat.le_refl _
          · exact le_of_reaches hle' (reaches_of_mem_moreWays hnext)
        · obtain ⟨hforward, hinside⟩ := hle cur next hnext
          by_cases heq : next.offset = cur.offset
          · rw [if_pos (beq_iff_eq.mpr heq), if_pos (by simp [heq])]
            exact .single next
          · rw [if_neg (by simpa using heq), if_neg (by simpa using heq)]
            exact ih _ (hinside hcur) (by omega) (by omega)
    unfold moreWays
    dsimp only
    cases greedy with
    | true => exact hround.append (.single cur)
    | false => exact (SameBefore.single cur).append hround

end Rounds

/-- Behind the cut there is nothing to compare. -/
theorem sameBefore_of_le {p q : Pattern} {cur : Cursor} (h : cut ≤ start + cur.offset) :
    SameBefore start cut (p.ways part cur) (q.ways text (cur.shift start)) := by
  have hpart : ((p.ways part cur).map (.shift start)).filter (Cursor.before cut) = [] := by
    refine List.filter_eq_nil_iff.mpr fun next hnext => ?_
    obtain ⟨inner, hinner, rfl⟩ := List.mem_map.mp hnext
    have hle := (leads_of_mem_ways hinner).le
    rw [Cursor.before_eq_true, Cursor.offset_shift]
    omega
  have htext : (q.ways text (cur.shift start)).filter (Cursor.before cut) = [] := by
    refine List.filter_eq_nil_iff.mpr fun next hnext => ?_
    have hle := (leads_of_mem_ways hnext).le
    rw [Cursor.offset_shift] at hle
    rw [Cursor.before_eq_true]
    omega
  exact hpart.trans htext.symm

theorem sameBefore_chars (hshows : part.Shows text start cut) (set : CharSet) (least : Nat)
    (most : Option Nat) (greedy : Bool) (cur : Cursor) :
    SameBefore start cut (charsWays part set least most greedy cur)
      (charsWays text set least most greedy (cur.shift start)) := by
  have hends (ends : List Nat) : ((ends.map cur.move).map (.shift start)).filter (Cursor.before cut)
      = ((ends.map (start + ·)).filter (· < cut)).map (cur.shift start).move := by
    rw [List.map_map, List.filter_map, List.filter_map, List.map_map]
    rfl
  have hends' (ends : List Nat) : (ends.map (cur.shift start).move).filter (Cursor.before cut)
      = (ends.filter (· < cut)).map (cur.shift start).move := by
    rw [List.filter_map]
    rfl
  have hsame := runEnds_of_shows hshows set least most cur.offset
  rw [charsWays_eq, charsWays_eq, SameBefore, hends, hends', Cursor.offset_shift]
  cases greedy with
  | true => simp only [if_true, List.map_reverse, List.filter_reverse, hsame]
  | false => simp only [Bool.false_eq_true, if_false, hsame]

/-- **A local pattern matches in a part as it does in the text**: up to the cut
the ways are the same, in the same order and with the same groups. -/
theorem ways_of_shows (hshows : part.Shows text start cut) {p : Pattern}
    (hlocal : p.isLocal = true) {cur : Cursor} (hcur : cur.offset ≤ part.size) :
    SameBefore start cut (p.ways part cur) (p.ways text (cur.shift start)) := by
  have hforward {text : Text} (p : Pattern) (cur next : Cursor) (h : next ∈ p.ways text cur) :
      cur.offset ≤ next.offset := (leads_of_mem_ways h).le
  have hinside (p : Pattern) {cur next : Cursor} (h : next ∈ p.ways part cur)
      (hcur : cur.offset ≤ part.size) : next.offset ≤ part.size :=
    (leads_of_mem_ways h).inText hcur
  have hnone (p : Pattern) : NoneBefore cut (p.ways text) := noneBefore_of_le (hforward p)
  induction p generalizing cur with
  | empty => exact .single cur
  | char set =>
    obtain hcut | hcut := Nat.lt_or_ge (start + cur.offset) cut
    · rw [ways, ways, hshows.same _ hcut, Cursor.offset_shift]
      cases text[start + cur.offset]? with
      | none => exact .nil
      | some c =>
        dsimp only
        split
        · exact .single _
        · exact .nil
    · exact sameBefore_of_le hcut
  | seq p q ihp ihq =>
    obtain ⟨hp, hq⟩ := Bool.and_eq_true_iff.mp hlocal
    exact (ihp hp hcur).flatMap (hnone q) fun next hnext => ihq hq (hinside p hnext hcur)
  | alt p q ihp ihq =>
    obtain ⟨hp, hq⟩ := Bool.and_eq_true_iff.mp hlocal
    exact (ihp hp hcur).append (ihq hq hcur)
  | chars set least most greedy => exact sameBefore_chars hshows set least most greedy cur
  | repeated body least most greedy ih =>
    have hbody (cur next : Cursor) (h : next ∈ body.ways part cur) :
        cur.offset ≤ next.offset ∧ (cur.offset ≤ part.size → next.offset ≤ part.size) :=
      ⟨hforward body cur next h, hinside body h⟩
    refine (sameBefore_exactlyWays hbody (hforward body) (fun cur => ih hlocal) least cur
      hcur).flatMap (noneBefore_of_le fun cur next hnext =>
        le_of_reaches (hforward body) (reaches_of_mem_moreWays hnext)) fun next hnext => ?_
    have hnext : next.offset ≤ part.size := by
      have hreaches := reaches_of_mem_exactlyWays hnext
      clear hnext
      induction hreaches with
      | refl => exact hcur
      | tail _ hround hsofar => exact hinside body hround hsofar
    rw [Cursor.offset_shift]
    exact sameBefore_moreWays hbody (hforward body) (fun cur => ih hlocal) hshows.size_le greedy _
      hnext (by omega) (by omega)
  | group index name body ih =>
    -- closing the group and moving the cursor can be done in either order
    show ((((body.ways part cur).map (.close index name cur.offset)).map
        (.shift start)).filter (Cursor.before cut))
      = ((body.ways text (cur.shift start)).map (.close index name (start + cur.offset))).filter
          (Cursor.before cut)
    have hclose (l : List Cursor) :
        (l.map (.close index name (start + cur.offset))).filter (Cursor.before cut)
          = (l.filter (Cursor.before cut)).map (.close index name (start + cur.offset)) :=
      List.filter_map
    rw [List.map_map, Cursor.shift_comp_close, ← List.map_map, hclose, hclose]
    exact congrArg _ (ih hlocal hcur)
  | ahead holds body ih =>
    cases body with
    | char set =>
      obtain hcut | hcut := Nat.lt_or_ge (start + cur.offset) cut
      · rw [ways, ways, ways, ways, hshows.same _ hcut, Cursor.offset_shift]
        cases text[start + cur.offset]? with
        | none => cases holds <;> rfl
        | some c =>
          dsimp only
          cases set.contains c <;> cases holds <;> rfl
      · exact sameBefore_of_le hcut
    | _ => cases hlocal
  | anchor | behind => cases hlocal

/-- **The first way is the same**, if it ends before the cut in the text and all
ways in the part do. -/
theorem head?_ways_of_shows (hshows : part.Shows text start cut) {p : Pattern}
    (hlocal : p.isLocal = true) {cur : Cursor} (hcur : cur.offset ≤ part.size)
    (hpart : ∀ next ∈ p.ways part cur, start + next.offset < cut)
    (htext : ∀ next, (p.ways text (cur.shift start)).head? = some next → next.offset < cut) :
    (p.ways part cur).head?.map (.shift start) = (p.ways text (cur.shift start)).head? := by
  have hsame := ways_of_shows hshows hlocal hcur
  have hall : ((p.ways part cur).map (.shift start)).filter (Cursor.before cut)
      = (p.ways part cur).map (.shift start) := by
    refine List.filter_eq_self.mpr fun next hnext => ?_
    obtain ⟨inner, hinner, rfl⟩ := List.mem_map.mp hnext
    exact Cursor.before_eq_true.mpr (hpart inner hinner)
  rw [SameBefore, hall] at hsame
  rw [← List.head?_map, hsame]
  cases hways : p.ways text (cur.shift start) with
  | nil => rfl
  | cons next rest =>
    rw [List.filter_cons_of_pos (Cursor.before_eq_true.mpr (htext next (by rw [hways]; rfl)))]
    rfl

/-! ## Groups -/

/-- What a local pattern closes lies before where it ends. -/
theorem stop_le_of_mem_groups {p : Pattern} (hlocal : p.isLocal = true) {cur next : Cursor}
    (hnext : next ∈ p.ways text cur) (hcur : ∀ g ∈ cur.groups, g.stop ≤ cur.offset) :
    ∀ g ∈ next.groups, g.stop ≤ next.offset := by
  have hmove {cur : Cursor} {stop : Nat} (hcur : ∀ g ∈ cur.groups, g.stop ≤ cur.offset)
      (hle : cur.offset ≤ stop) : ∀ g ∈ (cur.move stop).groups, g.stop ≤ (cur.move stop).offset :=
    fun g hg => (hcur g hg).trans hle
  induction p generalizing cur next with
  | empty => exact List.mem_singleton.mp hnext ▸ hcur
  | char set =>
    obtain ⟨-, -, -, rfl⟩ := exists_of_mem_ways_char hnext
    exact hmove hcur (Nat.le_succ _)
  | chars set least most greedy =>
    obtain ⟨stop, rfl, hle, -⟩ := exists_of_mem_charsWays hnext
    exact hmove hcur (by omega)
  | seq p q ihp ihq =>
    obtain ⟨hp, hq⟩ := Bool.and_eq_true_iff.mp hlocal
    obtain ⟨mid, hmid, hnext⟩ := List.mem_flatMap.mp hnext
    exact ihq hq hnext (ihp hp hmid hcur)
  | alt p q ihp ihq =>
    obtain ⟨hp, hq⟩ := Bool.and_eq_true_iff.mp hlocal
    obtain hnext | hnext := List.mem_append.mp hnext
    · exact ihp hp hnext hcur
    · exact ihq hq hnext hcur
  | repeated body least most greedy ih =>
    have hreaches := reaches_of_mem_repeated hnext
    clear hnext
    induction hreaches with
    | refl => exact hcur
    | tail _ hround hsofar => exact ih hlocal hround hsofar
  | group index name body ih =>
    obtain ⟨inner, hinner, rfl⟩ := List.mem_map.mp hnext
    exact List.forall_mem_cons.mpr ⟨Nat.le_refl _, ih hlocal hinner hcur⟩
  | ahead holds body ih =>
    cases body with
    | char set =>
      unfold ways lookWays at hnext
      split at hnext
      · rename_i inner hinner
        obtain ⟨-, -, -, rfl⟩ := exists_of_mem_ways_char (List.mem_of_head? hinner)
        split at hnext
        · exact List.mem_singleton.mp hnext ▸ hcur
        · cases hnext
      · split at hnext
        · cases hnext
        · exact List.mem_singleton.mp hnext ▸ hcur
    | _ => cases hlocal
  | anchor | behind => cases hlocal

end Pattern

end SourceLens
