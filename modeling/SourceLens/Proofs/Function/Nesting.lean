import Mathlib
import SourceLens.Proofs.Function.Balance
import SourceLens.Proofs.Function.Snippets

/-!
# Functions in functions

In a language of blocks, headers are looked for from behind the brace that ends
the last one on, so the functions in the body of another one are found as well.
Every header that declares a function has it reported, in the order of the
headers (`Function.foundInBlocks_eq_ok`).

Nothing keeps the bodies apart: each of them is delimited by counting braces from
its own header on, whatever has been found before, and some are never closed.
What keeps them in order is that headers do not overlap, and that a body that
starts in another one ends in it (`Block.EndsAt.inside`). So any two of them lie
in one another or apart (`Extent.Precedes`), not only neighbours, and a body that
starts in another one belongs to a function that is reported later
(`Extent.inside_of_pairwise`).
-/

namespace SourceLens

/-- **A header opens a block**: it is not empty, and a brace is its last
character. -/
def Match.OpensBlock (m : Match) (text : Text) : Prop :=
  m.start < m.stop ∧ text.hasAt (m.stop - 1) '{' = true

/-- **The headers of a language open blocks in a text**, if the bodies of its
functions are blocks. -/
def Rule.OpensBlocksIn (rule : Rule) (text : Text) : Prop :=
  ∀ functions, rule.functions = some functions → functions.style = .brace →
    ∀ m ∈ functions.header.findAll text, m.OpensBlock text

/-- Headers that end in a brace along every alternative open blocks in every text. -/
theorem Rule.OpensBlocks.opensBlocksIn {rule : Rule} (h : rule.OpensBlocks) (text : Text) :
    rule.OpensBlocksIn text := by
  intro functions hfunctions hstyle m hm
  obtain ⟨last, hstop, hbrace⟩ := h.hasAt hfunctions hstyle hm
  obtain ⟨cur, hcur, hend⟩ := Pattern.exists_way_of_mem_findAll hm
  have hmoves := Pattern.mayStay_eq_false_of_endsIn (h functions hfunctions hstyle)
  have hlt := Pattern.lt_of_mayStay_eq_false hmoves hcur
  rw [hend] at hlt
  refine ⟨hlt, ?_⟩
  rw [hstop, Nat.add_sub_cancel]
  exact hbrace

/-! ## Where functions lie -/

/-- **Where a function with a block lies** in a text: from the start of its code
over the brace that opens its body to the end of the body. -/
structure Extent where
  start : Nat
  opening : Nat
  stop : Nat
  deriving DecidableEq, Repr

namespace Extent

/-- **An extent is that of a function**: its code starts behind the indentation of
the header and does not end before the body, which ends where its braces tell. -/
structure IsPlaced (text : Text) (e : Extent) : Prop where
  start_le : e.start ≤ e.opening
  lt_stop : e.opening < e.stop
  stop_le : e.stop ≤ text.size
  not_indented : ∀ c, text[e.start]? = some c → CharClass.isIndent c = false
  opens : text.hasAt e.opening '{' = true
  endsAt : Block.EndsAt text e.opening e.stop

/-- **A function comes before another one**: its header does, and the body of the
other one lies within its own or behind it. A body that is closed goes beyond
those that it contains. -/
structure Precedes (text : Text) (first second : Extent) : Prop where
  opening_lt : first.opening < second.start
  within_or_behind : second.stop ≤ first.stop ∨ first.stop ≤ second.opening
  stop_lt : second.opening < first.stop → Block.ClosesAt text first.opening first.stop →
    second.stop < first.stop

variable {text : Text} {first second : Extent}

/-- One function comes before another if its header does. -/
theorem IsPlaced.precedes (hfirst : first.IsPlaced text) (hsecond : second.IsPlaced text)
    (hlt : first.opening < second.start) : first.Precedes text second := by
  have hbehind := hlt.trans_le hsecond.start_le
  have hinside := fun hin : second.opening < first.stop =>
    hfirst.endsAt.inside hsecond.endsAt hfirst.opens hsecond.opens hbehind hin
  refine ⟨hlt, ?_, fun hin => (hinside hin).2⟩
  obtain hin | hafter := Nat.lt_or_ge second.opening first.stop
  · exact Or.inl (hinside hin).1
  · exact Or.inr hafter

/-- **A body that starts in another one** comes after it and ends in it. -/
theorem inside_of_pairwise {extents : List Extent} (hplaced : ∀ e ∈ extents, e.IsPlaced text)
    (hordered : extents.Pairwise (Precedes text)) {outer inner : Nat}
    (houter : outer < extents.length) (hinner : inner < extents.length)
    (hbehind : extents[outer].opening < extents[inner].opening)
    (hin : extents[inner].opening < extents[outer].stop) :
    outer < inner ∧ extents[inner].stop ≤ extents[outer].stop := by
  have horder := List.pairwise_iff_getElem.mp hordered
  have hlater : outer < inner := by
    obtain hlt | rfl | hgt := Nat.lt_trichotomy outer inner
    · exact hlt
    · exact absurd hbehind (Nat.lt_irrefl _)
    · have hbefore := (horder inner outer hinner houter hgt).opening_lt
      have hstart := (hplaced _ (List.getElem_mem houter)).start_le
      omega
  refine ⟨hlater, ?_⟩
  obtain hwithin | hafter := (horder outer inner houter hinner hlater).within_or_behind
  · exact hwithin
  · omega

end Extent

namespace Function

/-- **A header declares a function**, as far as its name and what stands before it
can tell. -/
def declares (text : Text) (groupCount : Nat) (m : Match) : Bool :=
  isDeclaration (text.slice (codeStart text m) (nameIn text groupCount m).2).toString
    (nameIn text groupCount m).1

/-- Where the function of a header lies. -/
def extentOf (text : Text) (m : Match) : Extent where
  start := codeStart text m
  opening := m.stop - 1
  stop := Block.endFrom text (text.size - (m.stop - 1)) (m.stop - 1) 0

/-- The function of a header: its name, and the code of its extent. -/
def foundAt (text : Text) (groupCount : Nat) (m : Match) : Found where
  name := (nameIn text groupCount m).1
  code := text.slice (extentOf text m).start (extentOf text m).stop

variable {text : Text} {groupCount : Nat} {m : Match}

/-- The block of a header ends where its extent does. -/
theorem blockEnd_of_opensBlock (h : m.OpensBlock text) :
    blockEnd text ((m.stop : Int) - 1) = .ok (extentOf text m).stop := by
  obtain ⟨hlt, hbrace⟩ := h
  rw [show (m.stop : Int) - 1 = (m.stop - 1 : Nat) by omega]
  exact blockEnd_of_hasAt hbrace

/-- **The function of a header lies** behind its indentation, over the brace, to the
end of the block. -/
theorem isPlaced_extentOf (h : m.OpensBlock text) : (extentOf text m).IsPlaced text := by
  have hblock := blockEnd_of_opensBlock h
  obtain ⟨hlt, hbrace⟩ := h
  rw [show (m.stop : Int) - 1 = (m.stop - 1 : Nat) by omega] at hblock
  have hends := (Block.blockEnd_eq_ok_iff hbrace).mp hblock
  obtain ⟨hbehind, hin⟩ := hends.bounds hbrace
  obtain ⟨-, hfills, hindent⟩ := Pattern.indentEnd_spec text m.start
  have hstart : codeStart text m ≤ m.stop - 1 := by
    by_contra hbeyond
    -- a brace is no indentation
    obtain ⟨c, hc, hset⟩ := hfills (m.stop - 1) (by omega) (Nat.not_le.mp hbeyond)
    obtain rfl := Option.some.inj ((Text.hasAt_iff.mp hbrace).symm.trans hc)
    exact absurd hset (by decide)
  exact ⟨hstart, hbehind, hin, hindent, hbrace, hends⟩

/-- The code of a header that opens a block is not blank. -/
theorem hasInk_extentOf (h : m.OpensBlock text) :
    (text.slice (extentOf text m).start (extentOf text m).stop).hasInk = true :=
  have hplaced := isPlaced_extentOf h
  Text.hasInk_slice hplaced.opens (by decide) hplaced.start_le hplaced.lt_stop

/-- Functions come in the order of their headers. -/
theorem precedes_extentOf {later : Match} (hfirst : m.OpensBlock text)
    (hsecond : later.OpensBlock text) (hle : m.stop ≤ later.start) :
    (extentOf text m).Precedes text (extentOf text later) := by
  refine (isPlaced_extentOf hfirst).precedes (isPlaced_extentOf hsecond) ?_
  have hstart := Pattern.start_le_codeStart text later
  show m.stop - 1 < codeStart text later
  have hlt := hfirst.1
  omega

/-- **The functions that are found by their blocks** are those of the headers that
declare one, if every header opens a block. -/
theorem foundInBlocks_eq_ok {headers : List Match} (h : ∀ m ∈ headers, m.OpensBlock text) :
    foundInBlocks text groupCount headers
      = .ok ((headers.filter (declares text groupCount)).map (foundAt text groupCount)) := by
  induction headers with
  | nil => rfl
  | cons m rest ih =>
    obtain ⟨hfirst, hrest⟩ := List.forall_mem_cons.mp h
    have hlater := ih hrest
    cases hdeclares : declares text groupCount m with
    | true =>
      rw [List.filter_cons_of_pos hdeclares, List.map_cons]
      exact foundInBlocks_cons hdeclares (blockEnd_of_opensBlock hfirst) (hasInk_extentOf hfirst)
        hlater
    | false =>
      rw [List.filter_cons_of_neg (by rw [hdeclares]; decide), ← hlater]
      unfold declares at hdeclares
      rw [foundInBlocks]
      dsimp only
      rw [hdeclares]
      rfl

end Function

/-! ## Languages -/

/-- The functions of a text in a language whose headers open blocks are those of the
headers that declare one. -/
theorem Rule.OpensBlocksIn.functionsIn_eq_ok {rule : Rule} {text : Text}
    (h : rule.OpensBlocksIn text) {header : Pattern}
    (hfunctions : rule.functions = some ⟨.brace, header⟩) (file : SourceFile) :
    rule.functionsIn text file
      = .ok (((header.findAll text).filter (Function.declares text header.groupCount)).map fun m =>
          rule.reported file (Function.foundAt text header.groupCount m)) := by
  have hopens : ∀ m ∈ header.findAll text, m.OpensBlock text := h _ hfunctions rfl
  rw [Rule.functionsIn_eq hfunctions]
  dsimp only
  rw [Function.find, Function.foundInBlocks_eq_ok hopens, Except.map, List.map_map]
  rfl

/-- **The functions of a text lie in one another or apart**, in every language whose
headers open blocks, such as those that are built in. The functions of the headers
that declare one are reported, in order. Each of them goes from behind the
indentation of its header to the end of its block, and comes before the later ones;
a body that starts in another one is that of a later function, and ends in it. -/
theorem Rule.functionsIn_laminar :
    (∀ rule ∈ Registry.builtin.rules, ∀ text, rule.OpensBlocksIn text) ∧
      ∀ (rule : Rule) (header : Pattern) (text : Text) (file : SourceFile),
        rule.functions = some ⟨.brace, header⟩ → rule.OpensBlocksIn text →
        ∃ (headers : List Match) (extents : List Extent),
          headers = (header.findAll text).filter (Function.declares text header.groupCount) ∧
          extents = headers.map (Function.extentOf text) ∧
          rule.functionsIn text file = .ok (headers.map fun m =>
            rule.reported file (Function.foundAt text header.groupCount m)) ∧
          (∀ e ∈ extents, e.IsPlaced text) ∧
          extents.Pairwise (Extent.Precedes text) ∧
          ∀ (outer inner : Nat) (houter : outer < extents.length) (hinner : inner < extents.length),
            extents[outer].opening < extents[inner].opening →
            extents[inner].opening < extents[outer].stop →
            outer < inner ∧ extents[inner].stop ≤ extents[outer].stop := by
  refine ⟨fun rule hrule text => (Registry.opensBlocks_builtin rule hrule).opensBlocksIn text,
    fun rule header text file hfunctions hopens => ?_⟩
  have hall : ∀ m ∈ header.findAll text, m.OpensBlock text := hopens _ hfunctions rfl
  have hdeclared : ∀ m ∈ (header.findAll text).filter (Function.declares text header.groupCount),
      m.OpensBlock text := fun m hm => hall m (List.mem_of_mem_filter hm)
  have hplaced : ∀ e ∈ ((header.findAll text).filter
      (Function.declares text header.groupCount)).map (Function.extentOf text), e.IsPlaced text :=
    List.forall_mem_map.mpr fun m hm => Function.isPlaced_extentOf (hdeclared m hm)
  have hordered : (((header.findAll text).filter (Function.declares text header.groupCount)).map
      (Function.extentOf text)).Pairwise (Extent.Precedes text) :=
    List.pairwise_map.mpr (((Pattern.pairwise_stop_le_start header text).filter _).imp_of_mem
      fun hfirst hsecond => Function.precedes_extentOf (hdeclared _ hfirst) (hdeclared _ hsecond))
  exact ⟨_, _, rfl, rfl, hopens.functionsIn_eq_ok hfunctions file, hplaced, hordered,
    fun outer inner houter hinner => Extent.inside_of_pairwise hplaced hordered houter hinner⟩

/-- A method in the body of another one. -/
def nestedFunctions : Text := .ofString "f() \x7b\n g() \x7b\x7d\n\x7d"

/-- The inner method is reported behind the outer one, which goes beyond it. -/
theorem Rule.functionsIn_laminar_nestedFunctions :
    Builtin.Java.rule.functions = some ⟨.brace, Builtin.Java.header⟩ ∧
      Builtin.Java.rule.OpensBlocksIn nestedFunctions ∧
      ∃ f g : ExtractedFunction, f.code = nestedFunctions.toString ∧ g.code = "g() \x7b\x7d" ∧
        Builtin.Java.rule.functionsIn nestedFunctions ⟨⟨.relative, ["A.java"]⟩, "p"⟩ = .ok [f, g] ∧
        (Extent.mk 0 4 15).IsPlaced nestedFunctions ∧ (Extent.mk 7 11 13).IsPlaced nestedFunctions ∧
        (Extent.mk 0 4 15).Precedes nestedFunctions (Extent.mk 7 11 13) := by
  obtain ⟨hbuiltin, hlaminar⟩ := functionsIn_laminar
  have hopens := hbuiltin Builtin.Java.rule List.mem_cons_self nestedFunctions
  obtain ⟨headers, extents, hheaders, hextents, hfunctions, hplaced, hordered, -⟩ :=
    hlaminar Builtin.Java.rule Builtin.Java.header nestedFunctions ⟨⟨.relative, ["A.java"]⟩, "p"⟩
      rfl hopens
  have hfound : headers = [⟨0, 5, [⟨1, none, 0, 1⟩]⟩, ⟨6, 12, [⟨1, none, 7, 8⟩]⟩] := by
    rw [hheaders]
    cbv
  obtain rfl := hfound
  have hat : extents = [⟨0, 4, 15⟩, ⟨7, 11, 13⟩] := by
    rw [hextents]
    cbv
  obtain rfl := hat
  obtain ⟨houter, hinner⟩ := List.forall_mem_cons.mp hplaced
  exact ⟨rfl, hopens, _, _, by cbv, by cbv, hfunctions, houter, hinner _ List.mem_cons_self,
    List.rel_of_pairwise_cons hordered List.mem_cons_self⟩

end SourceLens
