import Mathlib
import SourceLens.Proofs.Function.Snippets

/-!
# Functions side by side

Where bodies are indented, a function ends at the next header in the list of those
that are not indented, which is searched for the first offset behind the start of
the code. The search does not know where in the list it is; since headers are in
order, it finds the next header at the margin behind the one that it is made for
(`Function.InLines.bodyEnd_eq_nextMargin`). So the functions of a text can be laid out
from the last header back, each up to the next margin (`Function.layOut`).

Laid out like this, the functions at the margin tile the text from the first of
them on, without gap or overlap. The others lie in them: each ends where the one
at the margin before it does, and if there is none, at the first margin
(`Function.Tiles`).

For Python it remains to be seen that a header shows its keyword where its code
starts, so that the code is not blank and the margin is where no blank stands
(`Builtin.Python.keyword_of_mem_findAll`).
-/

namespace SourceLens

namespace Function

/-- A header stands at the margin: there is no indentation before it. -/
def atMargin (text : Text) (m : Match) : Bool :=
  codeStart text m == m.start

/-- Where the first header at the margin stands, or the end of the text. -/
def nextMargin (text : Text) (headers : List Match) : Nat :=
  ((headers.find? (atMargin text)).map (·.start)).getD text.size

/-- The headers, each with its code: from behind its indentation to the next header
at the margin. -/
def layOut (text : Text) : List Match → List (Match × Text)
  | [] => []
  | m :: rest => (m, text.slice (codeStart text m) (nextMargin text rest)) :: layOut text rest

/-- **Headers stand in lines**: one behind the other, each with something behind
its indentation. -/
structure InLines (text : Text) (headers : List Match) : Prop where
  ordered : headers.Pairwise (·.stop ≤ ·.start)
  stop_le : ∀ m ∈ headers, m.stop ≤ text.size
  codeStart_lt : ∀ m ∈ headers, codeStart text m < m.stop
  ink : ∀ m ∈ headers, ∃ c, text[codeStart text m]? = some c ∧ CharClass.isBlank c = false

/-- **Functions tile a text**, each with its header and its code. A code is a stretch
of the text from behind the indentation of its header. Put together, those at the
margin are the text from the first of them on. Any other one is the end of the last
one at the margin before it, or else it goes up to the first margin. -/
structure Tiles (text : Text) (found : List (Match × Text)) : Prop where
  stretch : ∀ p ∈ found, ∃ stop, p.1.stop ≤ stop ∧ stop ≤ text.size ∧
    p.2 = text.slice (codeStart text p.1) stop
  margin : (found.filter (atMargin text ·.1)).flatMap (·.2.toList)
    = text.toList.drop (nextMargin text (found.map (·.1)))
  inside : ∀ before outer between inner after,
    found = before ++ outer :: (between ++ inner :: after) →
    atMargin text outer.1 = true → (∀ p ∈ between, atMargin text p.1 = false) →
    atMargin text inner.1 = false → inner.2.toList <:+ outer.2.toList ∧ inner.2 ≠ outer.2
  ahead : ∀ before inner after, found = before ++ inner :: after →
    (∀ p ∈ before, atMargin text p.1 = false) → atMargin text inner.1 = false →
    inner.2 = text.slice (codeStart text inner.1) (nextMargin text (found.map (·.1)))

variable {text : Text} {groupCount : Nat} {m : Match} {before after headers : List Match}

/-! ## Margins -/

/-- A header at the margin is the next one. -/
theorem nextMargin_cons_of_atMargin (h : atMargin text m = true) (rest : List Match) :
    nextMargin text (m :: rest) = m.start := by
  rw [nextMargin, List.find?_cons_of_pos h]
  rfl

/-- Headers that are indented are passed over. -/
theorem nextMargin_append (h : ∀ m ∈ before, atMargin text m = false) (after : List Match) :
    nextMargin text (before ++ after) = nextMargin text after := by
  have hnone : before.find? (atMargin text) = none :=
    List.find?_eq_none.mpr fun m hm => Bool.not_eq_true _ ▸ h m hm
  rw [nextMargin, List.find?_append, hnone, Option.none_or, nextMargin]

/-- A header that is indented is passed over. -/
theorem nextMargin_cons_of_not_atMargin (h : atMargin text m = false) (rest : List Match) :
    nextMargin text (m :: rest) = nextMargin text rest :=
  @nextMargin_append text [m] (List.forall_mem_singleton.mpr h) rest

namespace InLines

/-- Headers that stand in lines do so without the first ones. -/
theorem of_append (before : List Match) (h : InLines text (before ++ after)) :
    InLines text after where
  ordered := (List.pairwise_append.mp h.ordered).2.1
  stop_le := fun m hm => h.stop_le m (List.mem_append_right _ hm)
  codeStart_lt := fun m hm => h.codeStart_lt m (List.mem_append_right _ hm)
  ink := fun m hm => h.ink m (List.mem_append_right _ hm)

/-- Where no blank stands, there is no indentation, and the other way round. -/
theorem isTopLevel_eq (h : InLines text headers) (hm : m ∈ headers) :
    isTopLevel text m = atMargin text m := by
  obtain ⟨c, hc, hblank⟩ := h.ink m hm
  refine Bool.eq_iff_iff.mpr ⟨fun htop => ?_, fun hmargin => ?_⟩
  · exact beq_iff_eq.mpr (Pattern.indentEnd_eq_self fun _ hc =>
      Pattern.Detachable.isIndent_eq_false_of_isTopLevel htop hc)
  · have hstart : codeStart text m = m.start := beq_iff_eq.mp hmargin
    rw [isTopLevel, ← hstart, hc]
    exact Bool.not_eq_true' _ ▸ hblank

/-- **The next margin is behind a header**, and in the text. -/
theorem stop_le_nextMargin (h : InLines text (m :: after)) :
    m.stop ≤ nextMargin text after ∧ nextMargin text after ≤ text.size := by
  unfold nextMargin
  cases hnext : after.find? (atMargin text) with
  | none => exact ⟨h.stop_le m List.mem_cons_self, Nat.le_refl _⟩
  | some next =>
    have hmem := List.mem_of_find?_eq_some hnext
    have hlt := h.codeStart_lt next (List.mem_cons_of_mem _ hmem)
    have hin := h.stop_le next (List.mem_cons_of_mem _ hmem)
    have hle := Pattern.start_le_codeStart text next
    exact ⟨List.rel_of_pairwise_cons h.ordered hmem, by show next.start ≤ text.size; omega⟩

/-- **A body ends at the next margin**, in whatever list of headers. -/
theorem bodyEnd_eq_nextMargin (h : InLines text (before ++ m :: after)) :
    bodyEnd text (((before ++ m :: after).filter (isTopLevel text)).map (·.start))
      (codeStart text m) = nextMargin text after := by
  obtain ⟨-, hbehind, hbefore⟩ := List.pairwise_append.mp h.ordered
  have hself := Pattern.start_le_codeStart text m
  have hlt := h.codeStart_lt m (List.mem_append_right _ List.mem_cons_self)
  -- the header and those before it are not behind the start of the code, the others are
  have hnone : (before ++ [m]).find?
      (fun m' => isTopLevel text m' ∧ decide (codeStart text m < m'.start)) = none := by
    refine List.find?_eq_none.mpr (List.forall_mem_append.mpr ⟨fun m' hm' => ?_,
      List.forall_mem_singleton.mpr (by simp [show ¬ codeStart text m < m.start by omega])⟩)
    have hle := hbefore m' hm' m List.mem_cons_self
    have hstart := Pattern.start_le_codeStart text m'
    have hcode := h.codeStart_lt m' (List.mem_append_left _ hm')
    simp [show ¬ codeStart text m < m'.start by omega]
  have hlater : after.find? (fun m' => isTopLevel text m' ∧ decide (codeStart text m < m'.start))
      = after.find? (atMargin text) := by
    refine List.find?_congr fun m' hm' => ?_
    have hle := List.rel_of_pairwise_cons hbehind hm'
    rw [h.isTopLevel_eq (List.mem_append_right _ (List.mem_cons_of_mem _ hm'))]
    simp [show codeStart text m < m'.start by omega]
  have hfirst : (((before ++ m :: after).filter (isTopLevel text)).map (·.start)).find?
      (codeStart text m < ·) = (after.find? (atMargin text)).map (·.start) := by
    rw [List.find?_map, List.find?_filter, List.append_cons, List.find?_append, ← hlater]
    exact congrArg (fun found => (Option.or found _).map (·.start)) hnone
  rw [bodyEnd, hfirst, nextMargin]

/-- **The functions that are found by their indentation** are those that are laid
out. -/
theorem foundByIndent_eq (h : InLines text (before ++ headers)) :
    foundByIndent text groupCount
        (((before ++ headers).filter (isTopLevel text)).map (·.start)) headers
      = (layOut text headers).map fun p => ⟨(nameIn text groupCount p.1).1, p.2⟩ := by
  induction headers generalizing before with
  | nil => rfl
  | cons m rest ih =>
    have hlater := @ih (before ++ [m]) (by rw [List.append_assoc]; exact h)
    rw [List.append_assoc, List.singleton_append] at hlater
    obtain ⟨c, hc, hblank⟩ := h.ink m (List.mem_append_right _ List.mem_cons_self)
    have hlt := h.codeStart_lt m (List.mem_append_right _ List.mem_cons_self)
    have hstop := (h.of_append before).stop_le_nextMargin.1
    have hink : (text.slice (codeStart text m) (nextMargin text rest)).hasInk = true :=
      Text.hasInk_slice (Text.hasAt_iff.mpr hc) hblank (Nat.le_refl _) (hlt.trans_le hstop)
    rw [← h.bodyEnd_eq_nextMargin] at hink
    rw [foundByIndent_cons groupCount rest hink, h.bodyEnd_eq_nextMargin, hlater]
    rfl

/-- The functions of a text are those that are laid out. -/
theorem find_eq {header : Pattern} (h : InLines text (header.findAll text)) :
    find .indent header text = .ok ((layOut text (header.findAll text)).map fun p =>
      ⟨(nameIn text header.groupCount p.1).1, p.2⟩) :=
  congrArg Except.ok (@foundByIndent_eq text header.groupCount [] (header.findAll text) h)

end InLines

/-! ## Laying out -/

theorem map_fst_layOut (text : Text) (headers : List Match) :
    (layOut text headers).map (·.1) = headers := by
  induction headers with
  | nil => rfl
  | cons m rest ih => exact congrArg (m :: ·) ih

/-- Each code goes to the next margin. -/
theorem eq_slice_of_layOut_eq {found later : List (Match × Text)} {p : Match × Text}
    (h : layOut text headers = found ++ p :: later) :
    headers = found.map (·.1) ++ p.1 :: later.map (·.1) ∧
      p.2 = text.slice (codeStart text p.1) (nextMargin text (later.map (·.1))) := by
  have hheaders : headers = found.map (·.1) ++ p.1 :: later.map (·.1) := by
    rw [← map_fst_layOut text headers, h, List.map_append, List.map_cons]
  refine ⟨hheaders, ?_⟩
  clear hheaders
  induction found generalizing headers with
  | nil =>
    cases headers with
    | nil => cases h
    | cons m rest =>
      obtain ⟨rfl, hlater⟩ := List.cons.inj h
      rw [← hlater, map_fst_layOut]
  | cons first found ih =>
    cases headers with
    | nil => cases h
    | cons m rest => exact ih (List.cons.inj h).2

/-- **The functions that are laid out at the margin** are the text from the first of
them on. -/
theorem flatMap_layOut (h : InLines text headers) :
    ((layOut text headers).filter (atMargin text ·.1)).flatMap (·.2.toList)
      = text.toList.drop (nextMargin text headers) := by
  induction headers with
  | nil =>
    show [] = text.toList.drop text.size
    rw [List.drop_eq_nil_of_le (by rw [Array.length_toList])]
  | cons m rest ih =>
    have hlater := ih (h.of_append [m])
    cases hmargin : atMargin text m with
    | true =>
      have hstart : codeStart text m = m.start := beq_iff_eq.mp hmargin
      have hle := (h.codeStart_lt m List.mem_cons_self).le.trans h.stop_le_nextMargin.1
      rw [layOut, List.filter_cons, if_pos hmargin, List.flatMap_cons, hlater,
        nextMargin_cons_of_atMargin hmargin, Text.slice_append_drop hle, hstart]
    | false =>
      rw [layOut, List.filter_cons, if_neg (Bool.not_eq_true _ ▸ hmargin), hlater,
        nextMargin_cons_of_not_atMargin hmargin]

/-- **The functions that are laid out tile the text.** -/
theorem InLines.tiles_layOut (h : InLines text headers) : Tiles text (layOut text headers) where
  stretch := by
    intro p hp
    obtain ⟨found, later, hsplit⟩ := List.append_of_mem hp
    obtain ⟨hheaders, hcode⟩ := eq_slice_of_layOut_eq hsplit
    rw [hheaders] at h
    obtain ⟨hle, hin⟩ := (h.of_append _).stop_le_nextMargin
    exact ⟨_, hle, hin, hcode⟩
  margin := by
    rw [map_fst_layOut]
    exact flatMap_layOut h
  inside := by
    intro before outer between inner after hsplit houter hbetween hinner
    obtain ⟨hheaders, hcode⟩ := eq_slice_of_layOut_eq hsplit
    rw [← List.cons_append, ← List.append_assoc] at hsplit
    obtain ⟨-, hcode'⟩ := eq_slice_of_layOut_eq hsplit
    have hpassed : ∀ m ∈ between.map (·.1) ++ [inner.1], atMargin text m = false :=
      List.forall_mem_append.mpr
        ⟨List.forall_mem_map.mpr hbetween, List.forall_mem_singleton.mpr hinner⟩
    have hsame : nextMargin text ((between ++ inner :: after).map (·.1))
        = nextMargin text (after.map (·.1)) := by
      rw [List.map_append, List.map_cons, List.append_cons, nextMargin_append hpassed]
    rw [hheaders] at h
    have hbehind := h.of_append _
    rw [List.map_append, List.map_cons] at hbehind
    have hinnerFirst := hbehind.of_append (outer.1 :: between.map (·.1))
    obtain ⟨hstop, hin⟩ := hinnerFirst.stop_le_nextMargin
    have houterLt := hbehind.codeStart_lt _ List.mem_cons_self
    have hinnerLt := hinnerFirst.codeStart_lt _ List.mem_cons_self
    have hordered := List.rel_of_pairwise_cons hbehind.ordered
      (List.mem_append_right _ List.mem_cons_self)
    have hstart := Pattern.start_le_codeStart text inner.1
    rw [hcode, hcode', hsame]
    exact ⟨Text.slice_suffix (by omega) (by omega), Text.slice_ne_of_lt (by omega) (by omega) hin⟩
  ahead := by
    intro before inner after hsplit hbefore hinner
    obtain ⟨hheaders, hcode⟩ := eq_slice_of_layOut_eq hsplit
    rw [map_fst_layOut, hheaders, nextMargin_append (List.forall_mem_map.mpr hbefore),
      nextMargin_cons_of_not_atMargin hinner]
    exact hcode

end Function

namespace Builtin.Python

open Pattern

variable {text : Text} {m : Match}

/-- The header of a function behind its indentation. -/
def signature : Pattern :=
  concat [(concat [literal "async", (Pattern.char indent).plus]).opt,
    literal "def", (Pattern.char indent).plus, .group 1 none name]

theorem detachable_header : header.Detachable .indent [signature] :=
  ⟨.line _, by decide, by decide, by decide, by decide⟩

/-- A signature starts with one of two keywords. -/
theorem standsAt_of_mem_ways {cur next : Cursor} (h : next ∈ signature.ways text cur) :
    text.StandsAt "def" cur.offset ∨ text.StandsAt "async" cur.offset := by
  obtain ⟨mid, hmid, hnext⟩ := List.mem_flatMap.mp h
  obtain rfl | ⟨first, hfirst, -⟩ := (reaches_of_mem_repeated hmid).cases_head
  · refine Or.inl ?_
    by_contra hnot
    have hnone := ways_concat_literal_eq_nil hnot [(Pattern.char indent).plus, .group 1 none name]
    exact List.not_mem_nil (hnone ▸ hnext)
  · refine Or.inr ?_
    by_contra hnot
    have hnone := ways_concat_literal_eq_nil hnot [(Pattern.char indent).plus]
    exact List.not_mem_nil (hnone ▸ hfirst)

/-- **A header shows its keyword** where its code starts, behind the indentation of a
line. -/
theorem keyword_of_mem_findAll (hm : m ∈ header.findAll text) :
    Anchor.lineStart.holds text m.start = true ∧ Function.codeStart text m < m.stop ∧
      (text.StandsAt "def" (Function.codeStart text m) ∨
        text.StandsAt "async" (Function.codeStart text m)) := by
  have hmatch := matchAt_of_mem_findAll detachable_header.moves hm
  have hline := detachable_header.lineStart_of_matchAt hmatch
  rw [matchAt_eq_head?, detachable_header.indented.head?_ways detachable_header.overlooks,
    if_pos hline] at hmatch
  obtain ⟨cur, hcur, hsame⟩ := Option.map_eq_some_iff.mp hmatch
  have hway : cur ∈ signature.ways text (.start (Function.codeStart text m)) :=
    List.mem_of_head? hcur
  have hmoves : signature.mayStay = false := by decide
  have hstop : cur.offset = m.stop := congrArg Match.stop hsame
  exact ⟨hline, hstop ▸ lt_of_mayStay_eq_false hmoves hway, standsAt_of_mem_ways hway⟩

/-- Behind its indentation a header has a letter. -/
theorem exists_ink_of_mem_findAll (hm : m ∈ header.findAll text) :
    ∃ c, text[Function.codeStart text m]? = some c ∧ CharClass.isBlank c = false := by
  obtain ⟨-, -, hdef | hasync⟩ := keyword_of_mem_findAll hm
  · exact ⟨'d', hdef.first rfl, by decide⟩
  · exact ⟨'a', hasync.first rfl, by decide⟩

/-- The headers of a text stand in lines. -/
theorem inLines_findAll (text : Text) : Function.InLines text (header.findAll text) where
  ordered := pairwise_stop_le_start header text
  stop_le := by
    intro m hm
    obtain ⟨c, hc, -⟩ := exists_ink_of_mem_findAll hm
    obtain ⟨hlt, -⟩ := Array.getElem?_eq_some_iff.mp hc
    have hmatch := matchAt_of_mem_findAll detachable_header.moves hm
    exact (leads_of_matchAt hmatch).inText ((start_le_codeStart text m).trans hlt.le)
  codeStart_lt := fun m hm => (keyword_of_mem_findAll hm).2.1
  ink := fun m hm => exists_ink_of_mem_findAll hm

/-- **The functions of a text in Python**: there is one for each header, in order,
whose code starts with its keyword behind the indentation of a line. They tile the
text. -/
theorem functionsIn_tiles (text : Text) (file : SourceFile) :
    ∃ found : List (Match × Text), found.map (·.1) = header.findAll text ∧
      rule.functionsIn text file = .ok (found.map fun p =>
        rule.reported file ⟨(Function.nameIn text header.groupCount p.1).1, p.2⟩) ∧
      (∀ m ∈ header.findAll text, Anchor.lineStart.holds text m.start = true ∧
        Builtin.indent.Fills text m.start (Function.codeStart text m) ∧
        (text.StandsAt "def" (Function.codeStart text m) ∨
          text.StandsAt "async" (Function.codeStart text m))) ∧
      Function.Tiles text found := by
  have hlines := inLines_findAll text
  refine ⟨Function.layOut text (header.findAll text), Function.map_fst_layOut text _, ?_,
    fun m hm => ?_, hlines.tiles_layOut⟩
  · have hfunctions : rule.functions = some ⟨.indent, header⟩ := rfl
    rw [Rule.functionsIn_eq hfunctions]
    dsimp only
    rw [hlines.find_eq, Except.map, List.map_map]
    rfl
  · obtain ⟨hline, -, hkeyword⟩ := keyword_of_mem_findAll hm
    exact ⟨hline, (indentEnd_spec text m.start).2.1, hkeyword⟩

example : (Function.layOut (.ofString "  def a\ndef b\n  def c")
    (header.findAll (.ofString "  def a\ndef b\n  def c"))).map (·.2.toString)
      = ["def a\n", "def b\n  def c", "def c"] := by
  cbv

end Builtin.Python

end SourceLens
