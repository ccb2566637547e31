import Mathlib
import SourceLens.Proofs.Except
import SourceLens.Proofs.Function.Blocks
import SourceLens.Proofs.Function.Indentation
import SourceLens.Proofs.Pattern.Sparing

/-!
# Taking functions out of their text

The code of a function is a part of its text: from behind the indentation of
its header to the end of its body. Taken out of the text, it has the function
again, as its first one and with all of the code
(`Registry.extract_code`).

The header matches at the start of the code as it did behind its indentation,
since the rest of it is local (`Pattern.Detachable.exists_matchAt`). It ends
before the end of the code, so that nothing has been cut off that could have
made a difference: the code of a block ends with a brace that closes it, that of
an indented body with the line before the next header, and none of them is the
end of a header. In the code, a block ends where it did, for the same braces are
counted, and a header that could end an indented body earlier would have done so
in the text.
-/

namespace SourceLens

/-! ## Headers -/

namespace Pattern

/-- A choice between local patterns is local. -/
theorem isLocal_choice {ps : List Pattern} (h : ∀ p ∈ ps, p.isLocal = true) :
    (choice ps).isLocal = true := by
  induction ps with
  | nil => rfl
  | cons p ps ih =>
    obtain ⟨hp, hps⟩ := List.forall_mem_cons.mp h
    cases ps with
    | nil => exact hp
    | cons q ps => exact Bool.and_eq_true_iff.mpr ⟨hp, ih hps⟩

/-- There is no indentation in a part where indentation has ended in the text. -/
theorem indentEnd_of_shows {text part : Text} {start cut offset place : Nat}
    (hshows : part.Shows text start cut) (hcode : Function.indentEnd text place = start + offset)
    (hcut : start + offset < cut) : Function.indentEnd part offset = offset := by
  refine indentEnd_eq_self fun c hc => (indentEnd_spec text place).2.2 c ?_
  rw [hcode, ← hshows.same offset hcut, hc]

/-- A header ends before the code does: in a brace that opens a block, or
before the end of a line. -/
def endsWithin (style : BlockStyle) (header : Pattern) : Bool :=
  match style with
  | .brace => header.endsIn '{'
  | .indent => header.avoids '\n' none

/-- **A header can be taken out of its text**: what follows the indentation of
its line overlooks indentation and is local, and it ends before the code does. -/
structure Detachable (style : BlockStyle) (header : Pattern) (rests : List Pattern) : Prop where
  indented : header.Indented rests
  moves : header.mayStay = false
  overlooks : ∀ rest ∈ rests, rest.overlooks = true
  isLocal : ∀ rest ∈ rests, rest.isLocal = true
  endsWithin : header.endsWithin style = true

namespace Detachable

variable {style : BlockStyle} {header : Pattern} {rests : List Pattern}
  {text part : Text} {start cut : Nat}

/-- **A header matches in a part as it does in the text**, where the code behind
its indentation starts in the part. -/
theorem head?_ways_of_shows (h : header.Detachable style rests) (hshows : part.Shows text start cut)
    (offset place : Nat) (hpartLine : Anchor.lineStart.holds part offset = true)
    (htextLine : Anchor.lineStart.holds text place = true)
    (hcode : Function.indentEnd text place = start + offset) (hin : offset ≤ part.size)
    (hcut : start + offset < cut)
    (hpart : ∀ next ∈ header.ways part (.start offset), start + next.offset < cut)
    (htext : ∀ next, (header.ways text (.start place)).head? = some next → next.offset < cut) :
    (header.ways part (.start offset)).head?.map (.shift start)
      = (header.ways text (.start place)).head? := by
  have hnoIndent := indentEnd_of_shows hshows hcode hcut
  have hfirst : (header.ways text (.start place)).head? = _ :=
    h.indented.head?_ways h.overlooks place
  rw [if_pos htextLine, hcode] at hfirst
  rw [h.indented.head?_ways h.overlooks offset, if_pos hpartLine, hnoIndent, hfirst]
  refine Pattern.head?_ways_of_shows hshows (isLocal_choice h.isLocal) hin (fun next hnext => ?_)
    fun next hnext => htext next (hfirst.trans hnext)
  exact hpart next (h.indented.mem_ways hpartLine hnext)

/-- A header matches at the start of a line. -/
theorem lineStart_of_matchAt (h : header.Detachable style rests) {offset : Nat} {m : Match}
    (hm : header.matchAt text offset = some m) : Anchor.lineStart.holds text offset = true := by
  rw [matchAt_eq_head?, h.indented.head?_ways h.overlooks] at hm
  split at hm
  · assumption
  · cases hm

/-- What a header closes lies before where it ends. -/
theorem stop_le_of_mem_groups (h : header.Detachable style rests) {offset : Nat} {next : Cursor}
    (hnext : next ∈ header.ways text (.start offset)) :
    ∀ g ∈ next.groups, g.stop ≤ next.offset := by
  rw [h.indented.ways_eq] at hnext
  split at hnext
  · obtain ⟨rest, hrest, hnext⟩ := List.mem_flatMap.mp hnext
    have hlocal : (Pattern.seq indentation rest).isLocal = true := h.isLocal rest hrest
    exact Pattern.stop_le_of_mem_groups hlocal hnext fun g hg => nomatch hg
  · cases hnext

end Detachable

end Pattern

/-! ## Names -/

/-- **A match at the start of a part is one of the text**: from behind its
indentation on, the two go over the same stretch with the same groups. -/
structure Match.IsBehind (start : Nat) (inPart inText : Match) : Prop where
  start_eq : inPart.start = 0
  start_le : inText.start ≤ start
  stop_eq : inText.stop = start + inPart.stop
  groups_eq : inText.groups = inPart.groups.map (.shift start)
  groups_le : ∀ g ∈ inPart.groups, g.stop ≤ inPart.stop

/-- **The header of a code** taken out of its text matches at the start of the
code. -/
theorem Pattern.Detachable.exists_matchAt {style : BlockStyle} {header : Pattern}
    {rests : List Pattern} (h : header.Detachable style rests) {text : Text} {m : Match}
    (hm : header.matchAt text m.start = some m) {stop : Nat}
    (hstart : Function.codeStart text m < stop) (hin : stop ≤ text.size)
    (hstop : m.stop < text.cutAt stop)
    (hpart : ∀ next ∈ header.ways (text.slice (Function.codeStart text m) stop) (.start 0),
      Function.codeStart text m + next.offset < text.cutAt stop) :
    ∃ m', header.matchAt (text.slice (Function.codeStart text m) stop) 0 = some m' ∧
      m'.IsBehind (Function.codeStart text m) m := by
  have hshows := Text.shows_slice hstart.le hin
  have hline := h.lineStart_of_matchAt hm
  rw [matchAt_eq_head?] at hm
  obtain ⟨cur, hcur, hmatch⟩ := Option.map_eq_some_iff.mp hm
  have hsame := h.head?_ways_of_shows hshows 0 m.start rfl hline rfl (Nat.zero_le _)
    (hstart.trans_le Text.le_cutAt) hpart
    fun next hnext => by
      obtain rfl := Option.some.inj (hcur.symm.trans hnext)
      rw [← hmatch] at hstop
      exact hstop
  rw [hcur] at hsame
  obtain ⟨cur', hcur', hshift⟩ := Option.map_eq_some_iff.mp hsame
  refine ⟨⟨0, cur'.offset, cur'.groups⟩, by rw [matchAt_eq_head?, hcur']; rfl, rfl, ?_, ?_, ?_, ?_⟩
  · exact start_le_codeStart text m
  · rw [← congrArg Match.stop hmatch, ← hshift]
    rfl
  · rw [← congrArg Match.groups hmatch, ← hshift]
    rfl
  · exact h.stop_le_of_mem_groups (List.mem_of_head? hcur')

namespace Match.IsBehind

variable {start : Nat} {inPart inText : Match}

/-- The groups of the text are those of the part. -/
theorem group?_eq (h : inPart.IsBehind start inText) (index : Nat) :
    inText.group? index = (inPart.group? index).map (.shift start) := by
  rw [group?, group?, h.groups_eq, List.find?_map]
  rfl

/-- The first group that is not empty is the same. -/
theorem findSome?_eq (h : inPart.IsBehind start inText) (indices : List Nat) :
    indices.findSome? (fun index => (inText.group? (index + 1)).filter fun g => g.start < g.stop)
      = (indices.findSome? fun index =>
          (inPart.group? (index + 1)).filter fun g => g.start < g.stop).map (.shift start) := by
  have hempty : (fun g : GroupMatch => decide (g.start < g.stop)) ∘ GroupMatch.shift start
      = fun g => decide (g.start < g.stop) := by
    funext g
    exact decide_eq_decide.mpr Nat.add_lt_add_iff_left
  rw [List.map_findSome?]
  refine congrArg (indices.findSome? ·) (funext fun index => ?_)
  rw [h.group?_eq, Option.filter_map, hempty]
  rfl

/-- **A header names its function in its code as in the text**, and what
stands before the name is the same. -/
theorem nameIn_slice (h : inPart.IsBehind start inText) (text : Text) {stop : Nat}
    (hstop : inText.stop ≤ stop) (groupCount : Nat) :
    (Function.nameIn (text.slice start stop) groupCount inPart).1
        = (Function.nameIn text groupCount inText).1 ∧
      (text.slice start stop).slice 0 (Function.nameIn (text.slice start stop) groupCount inPart).2
        = text.slice start (Function.nameIn text groupCount inText).2 := by
  unfold Function.nameIn
  rw [h.findSome?_eq]
  dsimp only
  cases hnamed : (List.range groupCount).findSome? fun index =>
      (inPart.group? (index + 1)).filter fun g => g.start < g.stop with
  | none =>
    refine ⟨rfl, ?_⟩
    dsimp only [Option.map]
    rw [h.start_eq, Text.slice_eq_empty (Nat.le_refl 0), Text.slice_eq_empty h.start_le]
  | some g =>
    obtain ⟨index, -, hg⟩ := List.exists_of_findSome?_eq_some hnamed
    obtain ⟨hg, hlt⟩ := Option.filter_eq_some_iff.mp hg
    have hlt := of_decide_eq_true hlt
    have hle := h.groups_le g (List.mem_of_find?_eq_some hg)
    have hinside : start + g.stop ≤ stop := by
      have hstops := h.stop_eq
      omega
    constructor
    · exact congrArg Text.toString (Text.slice_slice hinside)
    · exact Text.slice_slice (show start + g.start ≤ stop by omega)

/-- The code starts where the part does. -/
theorem codeStart_slice {text : Text} {m : Match} {stop : Nat}
    (h : inPart.IsBehind (Function.codeStart text m) m) (hlt : Function.codeStart text m < stop)
    (hin : stop ≤ text.size) :
    Function.codeStart (text.slice (Function.codeStart text m) stop) inPart = 0 := by
  have hcode : Function.indentEnd text m.start = Function.codeStart text m + 0 := rfl
  have hends := Pattern.indentEnd_of_shows (Text.shows_slice hlt.le hin) hcode
    (hlt.trans_le Text.le_cutAt)
  rw [← h.start_eq] at hends
  exact hends.trans h.start_eq

end Match.IsBehind

/-- **The first header in a code** is the one that the code was found by. -/
theorem Pattern.Detachable.exists_findAll_slice {style : BlockStyle} {header : Pattern}
    {rests : List Pattern} (h : header.Detachable style rests) {text : Text} {m : Match}
    (hm : m ∈ header.findAll text) {stop : Nat} (hlt : Function.codeStart text m < stop)
    (hin : stop ≤ text.size) (hstop : m.stop < text.cutAt stop)
    (hpart : ∀ next ∈ header.ways (text.slice (Function.codeStart text m) stop) (.start 0),
      Function.codeStart text m + next.offset < text.cutAt stop) :
    ∃ m' rest, header.findAll (text.slice (Function.codeStart text m) stop) = m' :: rest ∧
      m'.IsBehind (Function.codeStart text m) m ∧
      Function.codeStart (text.slice (Function.codeStart text m) stop) m' = 0 := by
  obtain ⟨m', hm', hbehind⟩ :=
    h.exists_matchAt (matchAt_of_mem_findAll h.moves hm) hlt hin hstop hpart
  obtain ⟨rest, hall⟩ := exists_findAll_eq_cons hm'
  exact ⟨m', rest, hall, hbehind, hbehind.codeStart_slice hlt hin⟩

namespace Function

/-! ## Functions with blocks -/

/-- **A function that is found by its block** has a header that declares it, with
a block behind it. -/
theorem exists_of_mem_foundInBlocks {text : Text} {groupCount : Nat} {headers : List Match}
    {found : List Found} (h : foundInBlocks text groupCount headers = .ok found) {f : Found}
    (hf : f ∈ found) : ∃ m ∈ headers,
      isDeclaration (text.slice (codeStart text m) (nameIn text groupCount m).2).toString
        (nameIn text groupCount m).1 = true ∧
      ∃ stop, blockEnd text ((m.stop : Int) - 1) = .ok stop ∧ f.code.hasInk = true ∧
        f = ⟨(nameIn text groupCount m).1, text.slice (codeStart text m) stop⟩ := by
  induction headers generalizing found with
  | nil =>
    obtain rfl := Except.ok.inj h
    cases hf
  | cons m rest ih =>
    unfold foundInBlocks at h
    dsimp only at h
    split at h
    · obtain ⟨m', hm', hspec⟩ := ih h hf
      exact ⟨m', List.mem_cons_of_mem _ hm', hspec⟩
    · rename_i hdeclares
      obtain ⟨stop, hstop, h⟩ := bind_eq_ok.mp h
      obtain ⟨later, hlater, h⟩ := bind_eq_ok.mp h
      obtain rfl := Except.ok.inj h
      have hmember : f ∈ later ∨ f.code.hasInk = true ∧
          f = ⟨(nameIn text groupCount m).1, text.slice (codeStart text m) stop⟩ := by
        split at hf
        · rename_i hink
          obtain rfl | hf := List.mem_cons.mp hf
          · exact Or.inr ⟨hink, rfl⟩
          · exact Or.inl hf
        · exact Or.inl hf
      obtain hf | ⟨hink, heq⟩ := hmember
      · obtain ⟨m', hm', hspec⟩ := ih hlater hf
        exact ⟨m', List.mem_cons_of_mem _ hm', hspec⟩
      · exact ⟨m, List.mem_cons_self, by simpa using hdeclares, stop, hstop, hink, heq⟩

/-- A header that declares a function, with a block behind it, has its function
found first. -/
theorem foundInBlocks_cons {text : Text} {groupCount : Nat} {m : Match} {rest : List Match}
    {stop : Nat} {later : List Found}
    (hdeclares : isDeclaration (text.slice (codeStart text m) (nameIn text groupCount m).2).toString
      (nameIn text groupCount m).1 = true)
    (hstop : blockEnd text ((m.stop : Int) - 1) = .ok stop)
    (hink : (text.slice (codeStart text m) stop).hasInk = true)
    (hlater : foundInBlocks text groupCount rest = .ok later) :
    foundInBlocks text groupCount (m :: rest)
      = .ok (⟨(nameIn text groupCount m).1, text.slice (codeStart text m) stop⟩ :: later) := by
  unfold foundInBlocks
  dsimp only
  rw [hdeclares, hstop, hlater]
  exact congrArg Except.ok (if_pos hink)

end Function

namespace Pattern.Detachable

variable {header : Pattern} {rests : List Pattern} {text : Text} {found : List Function.Found}
  {f : Function.Found}

/-- A header in a block ends before the block: a brace that closes it is not one
that opens another. -/
theorem lt_cutAt_of_blockEnd (h : header.Detachable .brace rests) {offset : Int} {start stop : Nat}
    (hblock : blockEnd text offset = .ok stop) {cur next : Cursor}
    (hnext : next ∈ header.ways (text.slice start stop) cur) :
    start + next.offset < text.cutAt stop := by
  obtain ⟨_, -, -, -, hin, hclosed⟩ := blockEnd_spec hblock
  obtain ⟨last, hlast, hopen⟩ := hasAt_of_endsIn h.endsWithin hnext
  have hinside := Text.lt_size_of_hasAt hopen
  rw [Text.size_slice hin] at hinside
  rw [Text.hasAt_slice hin (by omega)] at hopen
  unfold Text.cutAt
  split
  · omega
  · obtain hend | ⟨-, hclose⟩ := hclosed
    · contradiction
    · by_contra hnot
      rw [show stop - 1 = start + last by omega] at hclose
      cases Text.eq_of_hasAt hopen hclose

/-- **A function with a block** is found in its code, as the first one. -/
theorem find_code_of_blocks (h : header.Detachable .brace rests)
    (hfound : Function.find .brace header text = .ok found) (hf : f ∈ found) :
    ∃ later, Function.find .brace header f.code = .ok (f :: later) := by
  obtain ⟨m, hm, hdeclares, stop, hblock, hink, rfl⟩ :=
    Function.exists_of_mem_foundInBlocks hfound hf
  obtain ⟨first, hfirst, -, hlt, hin, hclosed⟩ := blockEnd_spec hblock
  have hcut : m.stop < text.cutAt stop := by
    unfold Text.cutAt
    split <;> omega
  obtain ⟨m', rest, hall, hbehind, hstart⟩ := h.exists_findAll_slice hm (Text.lt_of_hasInk hink) hin
    hcut fun next hnext => h.lt_cutAt_of_blockEnd hblock hnext
  have hopens : ∀ opening ∈ m' :: rest, ∃ last, opening.stop = last + 1 ∧
      (text.slice (Function.codeStart text m) stop).hasAt last '{' = true := by
    intro opening hopening
    obtain ⟨cur, hcur, hstop⟩ := exists_way_of_mem_findAll (hall ▸ hopening)
    exact hstop ▸ hasAt_of_endsIn h.endsWithin hcur
  obtain ⟨⟨last, hlast, -⟩, hopens⟩ := List.forall_mem_cons.mp hopens
  obtain ⟨later, hlater⟩ : ∃ later, Function.foundInBlocks
      (text.slice (Function.codeStart text m) stop) header.groupCount rest = .ok later :=
    Function.foundInBlocks_of_hasAt hopens
  have hstop : blockEnd (text.slice (Function.codeStart text m) stop) ((m'.stop : Int) - 1)
      = .ok (text.slice (Function.codeStart text m) stop).size := by
    have hplace : (m.stop : Int) - 1 = (Function.codeStart text m + last : Nat) := by
      have hstops := hbehind.stop_eq
      omega
    rw [show (m'.stop : Int) - 1 = last by omega]
    exact blockEnd_slice (hplace ▸ hblock)
  have hinside : m.stop ≤ stop := by omega
  obtain ⟨hname, hbefore⟩ := hbehind.nameIn_slice text hinside header.groupCount
  have hfirst := Function.foundInBlocks_cons (by rw [hstart, hname, hbefore]; exact hdeclares)
    hstop (by rw [hstart, Text.slice_size]; exact hink) hlater
  rw [hstart, Text.slice_size, hname, ← hall] at hfirst
  exact ⟨later, hfirst⟩

end Pattern.Detachable

namespace Function

/-! ## Functions with indented bodies -/

/-- The offsets of the headers that are not indented. -/
def topLevelOffsets (header : Pattern) (text : Text) : List Nat :=
  ((header.findAll text).filter (isTopLevel text)).map (·.start)

/-- Where an indented body ends: at the first of some offsets behind the start of
its code, or with the text. -/
def bodyEnd (text : Text) (offsets : List Nat) (start : Nat) : Nat :=
  (offsets.find? (start < ·)).getD text.size

theorem mem_topLevelOffsets {header : Pattern} {text : Text} {offset : Nat} :
    offset ∈ topLevelOffsets header text ↔
      ∃ m ∈ header.findAll text, isTopLevel text m = true ∧ m.start = offset := by
  rw [topLevelOffsets, List.mem_map]
  refine exists_congr fun m => ?_
  rw [List.mem_filter, and_assoc]

/-- **Where an indented body ends**, among offsets in order: behind none of those
that are behind its start. -/
theorem bodyEnd_spec (text : Text) {offsets : List Nat} (hordered : offsets.Pairwise (· < ·))
    (start : Nat) :
    (bodyEnd text offsets start = text.size ∨
        bodyEnd text offsets start ∈ offsets ∧ start < bodyEnd text offsets start) ∧
      ∀ offset ∈ offsets, start < offset → bodyEnd text offsets start ≤ offset := by
  unfold bodyEnd
  cases hfirst : offsets.find? (start < ·) with
  | none =>
    refine ⟨Or.inl rfl, fun offset hoffset hlt => ?_⟩
    simpa [hlt] using List.find?_eq_none.mp hfirst offset hoffset
  | some first =>
    obtain ⟨hlt, before, behind, rfl, hbefore⟩ := List.find?_eq_some_iff_append.mp hfirst
    refine ⟨Or.inr ⟨List.mem_append_right _ List.mem_cons_self, of_decide_eq_true hlt⟩,
      fun offset hoffset hstart => ?_⟩
    obtain hoffset | hoffset := List.mem_append.mp hoffset
    · simpa [hstart] using hbefore offset hoffset
    · obtain rfl | hoffset := List.mem_cons.mp hoffset
      · exact Nat.le_refl _
      · exact (List.rel_of_pairwise_cons (List.pairwise_append.mp hordered).2.1 hoffset).le

/-- A function that is found by its indentation has a header. -/
theorem exists_of_mem_foundByIndent {text : Text} {groupCount : Nat} {offsets : List Nat}
    {headers : List Match} {f : Found} (hf : f ∈ foundByIndent text groupCount offsets headers) :
    ∃ m ∈ headers, f.code.hasInk = true ∧ f = ⟨(nameIn text groupCount m).1,
      text.slice (codeStart text m) (bodyEnd text offsets (codeStart text m))⟩ := by
  obtain ⟨m, hm, hsome⟩ := List.mem_filterMap.mp hf
  dsimp only at hsome
  split at hsome
  · rename_i hink
    obtain rfl := Option.some.inj hsome
    exact ⟨m, hm, hink, rfl⟩
  · cases hsome

/-- The first header has its function found first. -/
theorem foundByIndent_cons {text : Text} (groupCount : Nat) {offsets : List Nat} {m : Match}
    (rest : List Match) (hink : (text.slice (codeStart text m)
      (bodyEnd text offsets (codeStart text m))).hasInk = true) :
    foundByIndent text groupCount offsets (m :: rest)
      = ⟨(nameIn text groupCount m).1,
          text.slice (codeStart text m) (bodyEnd text offsets (codeStart text m))⟩
        :: foundByIndent text groupCount offsets rest :=
  List.filterMap_cons_some (if_pos hink)

end Function

namespace Pattern.Detachable

variable {header : Pattern} {rests : List Pattern} {text part : Text} {start : Nat}
  {found : List Function.Found} {f : Function.Found}

theorem pairwise_topLevelOffsets (h : header.Detachable .indent rests) (text : Text) :
    (Function.topLevelOffsets header text).Pairwise (· < ·) :=
  List.pairwise_map.mpr ((pairwise_findAll h.moves).filter _)

/-- A header does not go beyond the end of its line. -/
theorem le_of_hasAt_lineFeed (h : header.Detachable .indent rests) {last : Nat}
    (hfeed : text.hasAt last '\n' = true) {cur next : Cursor} (hnext : next ∈ header.ways text cur)
    (hle : cur.offset ≤ last) : next.offset ≤ last :=
  spares_of_avoids h.endsWithin (Text.hasAt_iff.mp hfeed) (fun _ hc => nomatch hc) cur next hnext
    hle

/-- A header in a part that ends with a line ends before the part. -/
theorem lt_cutAt_of_lineEnd (h : header.Detachable .indent rests) {stop : Nat}
    (hshows : part.Shows text start (text.cutAt stop))
    (hend : stop = text.size ∨ text.hasAt (stop - 1) '\n' = true) {cur next : Cursor}
    (hnext : next ∈ header.ways part cur) (hcur : start + cur.offset < stop)
    (hin : cur.offset ≤ part.size) : start + next.offset < text.cutAt stop := by
  have hinside := (leads_of_mem_ways hnext).inText hin
  have hsize := hshows.size_le
  have hle : stop ≤ text.cutAt stop := Text.le_cutAt
  obtain rfl | hfeed := hend
  · rw [Text.cutAt, if_pos rfl]
    omega
  · have hplace : start + (stop - 1 - start) = stop - 1 := by omega
    have hpartFeed : part.hasAt (stop - 1 - start) '\n' = true := by
      rw [Text.hasAt, hshows.same _ (by omega), hplace]
      exact hfeed
    have hstays := h.le_of_hasAt_lineFeed hpartFeed hnext (by omega)
    omega

/-- Where a line starts behind the start of the text, another one has ended. -/
theorem hasAt_of_lineStart {offset : Nat} (h : Anchor.lineStart.holds text offset = true)
    (hlater : 0 < offset) : text.hasAt (offset - 1) '\n' = true := by
  obtain hzero | hfeed := Bool.or_eq_true_iff.mp h
  · exact absurd (beq_iff_eq.mp hzero) (Nat.ne_of_gt hlater)
  · exact hfeed

/-- No header is left out where a line starts, for none goes over the end of a
line. -/
theorem exists_mem_findAll_of_lineFeed (h : header.Detachable .indent rests) {place : Nat}
    (hfeed : text.hasAt (place - 1) '\n' = true) (hin : place ≤ text.size) {m : Match}
    (hm : header.matchAt text place = some m) :
    ∃ found ∈ header.findAll text, found.start = place := by
  obtain ⟨found, hfound, heq | ⟨hbefore, hbehind⟩⟩ := exists_mem_findAll h.moves hin hm
  · exact ⟨found, hfound, heq⟩
  · obtain ⟨cur, hcur, hstop⟩ := exists_way_of_mem_findAll hfound
    have hstays := h.le_of_hasAt_lineFeed hfeed hcur (Nat.le_sub_one_of_lt hbefore)
    omega

/-- A header that is not indented does not start with a space or a tab. -/
theorem isIndent_eq_false_of_isTopLevel {m : Match} (htop : Function.isTopLevel text m = true)
    {c : Char} (hc : text[m.start]? = some c) : CharClass.isIndent c = false := by
  unfold Function.isTopLevel at htop
  rw [hc] at htop
  by_contra hindent
  obtain rfl | rfl := eq_of_isIndent (Bool.not_eq_false _ ▸ hindent)
  all_goals cases htop

/-- A header in a code that is not indented matches in the text. -/
theorem exists_matchAt_of_part (h : header.Detachable .indent rests) {stop : Nat}
    (hshows : part.Shows text start (text.cutAt stop)) (hstop : start + part.size = stop)
    (hend : stop = text.size ∨ text.hasAt (stop - 1) '\n' = true) {m : Match}
    (hm : header.matchAt part m.start = some m) (hlt : m.start < part.size)
    (htop : Function.isTopLevel part m = true)
    (hline : Anchor.lineStart.holds text (start + m.start) = true) :
    ∃ found, header.matchAt text (start + m.start) = some found := by
  have hinside : start + m.start < stop := by omega
  have hin : stop ≤ text.size := hstop ▸ hshows.size_le
  have hcut : start + m.start < text.cutAt stop := hinside.trans_le Text.le_cutAt
  have hcode : Function.indentEnd text (start + m.start) = start + m.start :=
    indentEnd_eq_self fun c hc =>
      isIndent_eq_false_of_isTopLevel htop ((hshows.same m.start hcut).trans hc)
  have hways := h.head?_ways_of_shows hshows m.start (start + m.start) (h.lineStart_of_matchAt hm)
    hline hcode hlt.le hcut
    (fun next hnext => h.lt_cutAt_of_lineEnd hshows hend hnext hinside hlt.le)
    fun next hnext => by
      have hself := h.lt_cutAt_of_lineEnd (Text.Shows.refl text _) hend (List.mem_of_head? hnext)
        ((Nat.zero_add _).trans_lt hinside) (hinside.le.trans hin)
      omega
  rw [matchAt_eq_head?] at hm
  obtain ⟨cur, hcur, -⟩ := Option.map_eq_some_iff.mp hm
  rw [hcur] at hways
  rw [matchAt_eq_head?, ← hways]
  exact ⟨_, rfl⟩

/-- **The headers in a code** are headers of the text, if they are not
indented. -/
theorem mem_topLevelOffsets_of_part (h : header.Detachable .indent rests) {stop : Nat}
    (hshows : part.Shows text start (text.cutAt stop)) (hstop : start + part.size = stop)
    (hend : stop = text.size ∨ text.hasAt (stop - 1) '\n' = true) {offset : Nat}
    (hoffset : offset ∈ Function.topLevelOffsets header part) (hlater : 0 < offset) :
    start + offset < stop ∧ start + offset ∈ Function.topLevelOffsets header text := by
  obtain ⟨m, hm, htop, rfl⟩ := Function.mem_topLevelOffsets.mp hoffset
  have hmatch := matchAt_of_mem_findAll h.moves hm
  have hpartFeed := hasAt_of_lineStart (h.lineStart_of_matchAt hmatch) hlater
  have hbefore := Text.lt_size_of_hasAt hpartFeed
  have hlt : m.start < part.size :=
    (start_lt_stop h.moves hmatch).2.trans_le ((leads_of_matchAt hmatch).inText (by omega))
  have hinside : start + m.start < stop := by omega
  have hin : stop ≤ text.size := hstop ▸ hshows.size_le
  have hcut : stop ≤ text.cutAt stop := Text.le_cutAt
  have hfeed : text.hasAt (start + m.start - 1) '\n' = true := by
    have hplace : start + (m.start - 1) = start + m.start - 1 := by omega
    rw [Text.hasAt, ← hplace, ← hshows.same _ (by omega)]
    exact hpartFeed
  obtain ⟨_, htext⟩ := h.exists_matchAt_of_part hshows hstop hend hmatch hlt htop
    (Bool.or_eq_true_iff.mpr (Or.inr hfeed))
  obtain ⟨found, hfound, hplace⟩ :=
    h.exists_mem_findAll_of_lineFeed hfeed (hinside.le.trans hin) htext
  refine ⟨hinside, Function.mem_topLevelOffsets.mpr ⟨found, hfound, ?_, hplace⟩⟩
  unfold Function.isTopLevel at htop ⊢
  rw [hplace, ← hshows.same m.start (by omega)]
  exact htop

/-- **The code of an indented body** ends with a line, if not with the text,
and before every header behind it that is not indented. -/
theorem exists_of_mem_find_indent (h : header.Detachable .indent rests)
    (hfound : Function.find .indent header text = .ok found) (hf : f ∈ found) :
    ∃ m ∈ header.findAll text, ∃ stop,
      (stop = text.size ∨ text.hasAt (stop - 1) '\n' = true) ∧ stop ≤ text.size ∧
      (∀ offset ∈ Function.topLevelOffsets header text,
        Function.codeStart text m < offset → stop ≤ offset) ∧
      f.code.hasInk = true ∧ f = ⟨(Function.nameIn text header.groupCount m).1,
        text.slice (Function.codeStart text m) stop⟩ := by
  obtain rfl := Except.ok.inj hfound
  obtain ⟨m, hm, hink, heq⟩ := Function.exists_of_mem_foundByIndent hf
  obtain ⟨hstop, hfirst⟩ :=
    Function.bodyEnd_spec text (h.pairwise_topLevelOffsets text) (Function.codeStart text m)
  have hend := hstop.imp_right fun ⟨hnext, hlt⟩ => by
    obtain ⟨next, hnext, -, hplace⟩ := Function.mem_topLevelOffsets.mp hnext
    have hline := h.lineStart_of_matchAt (matchAt_of_mem_findAll h.moves hnext)
    rw [hplace] at hline
    exact hasAt_of_lineStart hline (Nat.zero_lt_of_lt hlt)
  refine ⟨m, hm, _, hend, ?_, hfirst, hink, heq⟩
  obtain heq | hfeed := hend
  · exact heq.le
  · have hlt := Text.lt_size_of_hasAt hfeed
    omega

/-- **A function with an indented body** is found in its code, as the first
one. -/
theorem find_code_of_indent (h : header.Detachable .indent rests)
    (hfound : Function.find .indent header text = .ok found) (hf : f ∈ found) :
    ∃ later, Function.find .indent header f.code = .ok (f :: later) := by
  obtain ⟨m, hm, stop, hend, hin, hfirst, hink, rfl⟩ := h.exists_of_mem_find_indent hfound hf
  have hlt := Text.lt_of_hasInk hink
  have hshows := Text.shows_slice hlt.le hin
  have hsize : (text.slice (Function.codeStart text m) stop).size
      = stop - Function.codeStart text m := Text.size_slice hin
  have hle := start_le_codeStart text m
  have hcut : m.stop < text.cutAt stop := by
    obtain ⟨cur, hcur, hstop⟩ := exists_way_of_mem_findAll hm
    have hself := h.lt_cutAt_of_lineEnd (Text.Shows.refl text _) hend hcur
      ((Nat.zero_add _).trans_lt (hle.trans_lt hlt)) (hle.trans (hlt.le.trans hin))
    omega
  obtain ⟨m', rest, hall, hbehind, hstart⟩ := h.exists_findAll_slice hm hlt hin hcut
    fun next hnext => h.lt_cutAt_of_lineEnd hshows hend hnext hlt (Nat.zero_le _)
  have hinside : m.stop ≤ stop := Nat.lt_succ_iff.mp (hcut.trans_le Text.cutAt_le)
  obtain ⟨hname, -⟩ := hbehind.nameIn_slice text hinside header.groupCount
  have hbody : Function.bodyEnd (text.slice (Function.codeStart text m) stop)
      (Function.topLevelOffsets header (text.slice (Function.codeStart text m) stop)) 0
      = (text.slice (Function.codeStart text m) stop).size := by
    obtain hsame | ⟨hnext, hlater⟩ := (Function.bodyEnd_spec
      (text.slice (Function.codeStart text m) stop)
      (h.pairwise_topLevelOffsets (text.slice (Function.codeStart text m) stop)) 0).1
    · exact hsame
    · -- a header that ends the body earlier would have done so in the text
      obtain ⟨hinside, hnext⟩ :=
        h.mem_topLevelOffsets_of_part hshows (by omega) hend hnext hlater
      have hle := hfirst _ hnext (Nat.lt_add_of_pos_right hlater)
      omega
  have hfirst' := Function.foundByIndent_cons header.groupCount rest
    (by rw [hstart, hbody, Text.slice_size]; exact hink)
  rw [hstart, hbody, Text.slice_size, hname, ← hall] at hfirst'
  exact ⟨_, congrArg Except.ok hfirst'⟩

/-- **A function is found in its code**, as the first one. -/
theorem find_code {style : BlockStyle} (h : header.Detachable style rests)
    (hfound : Function.find style header text = .ok found) (hf : f ∈ found) :
    ∃ later, Function.find style header f.code = .ok (f :: later) := by
  cases style with
  | brace => exact h.find_code_of_blocks hfound hf
  | indent => exact h.find_code_of_indent hfound hf

end Pattern.Detachable

/-! ## Languages -/

/-- **The functions of a language can be taken out of their text.** -/
def Rule.Detachable (rule : Rule) : Prop :=
  ∀ functions, rule.functions = some functions →
    ∃ rests, functions.header.Detachable functions.style rests

/-- A function of a language that can be taken out of its text is found in its code,
as the first one. -/
theorem Rule.Detachable.functionsIn_code {rule : Rule} (h : rule.Detachable) {text : Text}
    {file : SourceFile} {functions : List ExtractedFunction}
    (hfunctions : rule.functionsIn text file = .ok functions) {f : ExtractedFunction}
    (hf : f ∈ functions) (file' : SourceFile) : ∃ again later,
      rule.functionsIn (.ofString f.code) file' = .ok (again :: later) ∧
        again.name = f.name ∧ again.code = f.code := by
  unfold functionsIn at hfunctions ⊢
  cases hgiven : rule.functions with
  | none =>
    rw [hgiven] at hfunctions
    obtain rfl := Except.ok.inj hfunctions
    cases hf
  | some functions =>
    rw [hgiven] at hfunctions
    obtain ⟨found, hfound, rfl⟩ := map_eq_ok.mp hfunctions
    obtain ⟨source, hsource, rfl⟩ := List.mem_map.mp hf
    obtain ⟨rests, hheader⟩ := h functions hgiven
    obtain ⟨later, hagain⟩ := hheader.find_code hfound hsource
    dsimp only
    rw [Text.ofString_toString, hagain]
    exact ⟨_, _, rfl, rfl, rfl⟩

namespace Registry

/-- **The functions of the built-in languages** can be taken out of their text. -/
theorem detachable_builtin {rule : Rule} (hrule : rule ∈ builtin.rules) : rule.Detachable := by
  intro functions hfunctions
  obtain rfl | rfl | rfl | rfl | rfl | rfl | rfl | rfl := mem_rules_builtin.mp hrule
  all_goals cases hfunctions
  · exact ⟨_, .line _, by decide, by decide, by decide, by decide⟩
  · exact ⟨_, .line _, by decide, by decide, by decide, by decide⟩
  · exact ⟨_, .alt (.block _) (.alt (.block _) (.block _)), by decide, by decide, by decide,
      by decide⟩
  · exact ⟨_, .line _, by decide, by decide, by decide, by decide⟩
  · exact ⟨_, .line _, by decide, by decide, by decide, by decide⟩

/-- **Functions can be taken out of their text**: in every built-in language,
looking for functions does not fail, and each one that is found in a text is found
in its own code, as the first one, with the same name and all of the code. -/
theorem extract_code (text : Text) (language : Option String) (file : SourceFile) :
    ∃ functions, (builtin.extract text language file).1 = .ok functions ∧
      ∀ f ∈ functions, ∀ file', ∃ again later,
        (builtin.extract (.ofString f.code) language file').1 = .ok (again :: later) ∧
          again.name = f.name ∧ again.code = f.code := by
  obtain ⟨functions, hfunctions⟩ := opensBlocks_builtin.extract_eq_ok text language file
  refine ⟨functions, hfunctions, fun f hf file' => ?_⟩
  unfold extract at hfunctions ⊢
  cases hrule : builtin.get? language with
  | none =>
    rw [hrule] at hfunctions
    obtain rfl := Except.ok.inj hfunctions
    cases hf
  | some rule =>
    rw [hrule] at hfunctions
    exact (detachable_builtin (mem_of_get?_eq_some hrule)).functionsIn_code hfunctions hf file'

/-- A function behind indentation, and one behind it that is not indented. -/
def twoFunctions : Text := .ofString "  def f(): 1\ndef g"

/-- The first of two functions is found in its code, which ends where the other
one starts. -/
theorem extract_code_twoFunctions : ∃ functions f,
    (builtin.extract twoFunctions (some "python") ⟨⟨.relative, ["a.py"]⟩, "p"⟩).1 = .ok functions ∧
      f ∈ functions ∧ f.name = "f" ∧ f.code = "def f(): 1\n" ∧ ∃ again later,
        (builtin.extract (.ofString f.code) (some "python") ⟨⟨.relative, ["b.py"]⟩, "q"⟩).1
            = .ok (again :: later) ∧ again.name = f.name ∧ again.code = f.code := by
  have hfunctions : (builtin.extract twoFunctions (some "python") ⟨⟨.relative, ["a.py"]⟩, "p"⟩).1
      = .ok [⟨"p", "a.py", "python", "f", "def f(): 1\n", ⟨.relative, ["a.py"]⟩, ".py"⟩,
        ⟨"p", "a.py", "python", "g", "def g", ⟨.relative, ["a.py"]⟩, ".py"⟩] := by
    cbv
  obtain ⟨functions, hfound, hagain⟩ :=
    extract_code twoFunctions (some "python") ⟨⟨.relative, ["a.py"]⟩, "p"⟩
  obtain rfl := Except.ok.inj (hfound.symm.trans hfunctions)
  exact ⟨_, _, hfound, List.mem_cons_self, rfl, rfl, hagain _ List.mem_cons_self _⟩

end Registry

end SourceLens
