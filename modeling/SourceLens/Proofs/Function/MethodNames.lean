import Mathlib
import SourceLens.Proofs.Function.Nesting

/-!
# The names of methods

A header shows the name of its function in a group. In Java every header has one,
and it is never empty: along every alternative, one group is closed around a
character that has to be there (`Pattern.closesOnce`), so the name is read from
the text and never made up.

A header whose name is a word of control flow is passed over, since it is a
statement in disguise. Which words these are does not depend on the language:
there is one list for all (`Function.controlWords`). Java reserves only some
of them. The others are `Builtin.Java.foreignWords`, names in Java like any
other, and methods that have such a name are passed over with the statements. Of
the methods that are not, none is left out (`Builtin.Java.extract_methods`).
-/

namespace SourceLens

namespace Pattern

/-- **The pattern closes a group once** along every way: one with a given number,
around something, and no other one. -/
def closesOnce (index : Nat) : Pattern → Bool
  | .seq p q => (p.closesOnce index && q.groupless) || (p.groupless && q.closesOnce index)
  | .alt p q => p.closesOnce index && q.closesOnce index
  | .group index' _ body => index' == index && body.groupless && !body.mayStay
  | .empty | .char _ | .anchor _ | .chars .. | .repeated .. | .ahead .. | .behind .. => false

variable {text : Text} {p : Pattern} {index : Nat}

/-- A way of a pattern that closes a group once has closed it. -/
theorem exists_group_of_closesOnce (h : p.closesOnce index = true) {cur next : Cursor}
    (hnext : next ∈ p.ways text cur) :
    ∃ g, next.groups = g :: cur.groups ∧ g.index = index ∧ g.start < g.stop := by
  induction p generalizing cur next with
  | seq p q ihp ihq =>
    obtain ⟨mid, hmid, hnext⟩ := List.mem_flatMap.mp hnext
    obtain hclosed | hclosed := Bool.or_eq_true_iff.mp h
    · obtain ⟨hp, hq⟩ := Bool.and_eq_true_iff.mp hclosed
      obtain ⟨g, hgroups, hg⟩ := ihp hp hmid
      exact ⟨g, (groups_eq_of_groupless hq hnext).trans hgroups, hg⟩
    · obtain ⟨hp, hq⟩ := Bool.and_eq_true_iff.mp hclosed
      rw [← groups_eq_of_groupless hp hmid]
      exact ihq hq hnext
  | alt p q ihp ihq =>
    obtain ⟨hp, hq⟩ := Bool.and_eq_true_iff.mp h
    obtain hnext | hnext := List.mem_append.mp hnext
    · exact ihp hp hnext
    · exact ihq hq hnext
  | group index' name body =>
    simp only [closesOnce, Bool.and_eq_true, beq_iff_eq, Bool.not_eq_true'] at h
    obtain ⟨⟨rfl, hgroups⟩, hmoves⟩ := h
    obtain ⟨inner, hinner, rfl⟩ := List.mem_map.mp hnext
    exact ⟨_, congrArg _ (groups_eq_of_groupless hgroups hinner), rfl,
      lt_of_mayStay_eq_false hmoves hinner⟩
  | empty | char | anchor | chars | repeated | ahead | behind => cases h

/-- **A match of a pattern that closes a group once** has the group, and it is not
empty. -/
theorem exists_group?_of_closesOnce (hmoves : p.mayStay = false) (h : p.closesOnce index = true)
    {m : Match} (hm : m ∈ p.findAll text) :
    ∃ g, m.group? index = some g ∧ g.start < g.stop := by
  have hmatch := matchAt_of_mem_findAll hmoves hm
  rw [matchAt_eq_head?] at hmatch
  obtain ⟨cur, hcur, hsame⟩ := Option.map_eq_some_iff.mp hmatch
  obtain ⟨g, hgroups, hindex, hlt⟩ := exists_group_of_closesOnce h (List.mem_of_head? hcur)
  refine ⟨g, ?_, hlt⟩
  rw [Match.group?, ← congrArg Match.groups hsame, hgroups]
  exact List.find?_cons_of_pos (beq_iff_eq.mpr hindex)

end Pattern

namespace Function

variable {text : Text} {groupCount : Nat} {m : Match}

/-- **A name is that of a declaration** if it is no word of control flow, and the
last word before it does not make it a use. -/
theorem isDeclaration_iff {before name : String} : isDeclaration before name = true ↔
    name ∉ controlWords ∧ ∀ word, (blankSeparated before.toList).getLast? = some word →
      String.ofList word ∉ usingWords := by
  unfold isDeclaration
  by_cases hcontrol : name ∈ controlWords
  · simp [hcontrol]
  · cases (blankSeparated before.toList).getLast? <;> simp [hcontrol]

/-- The name of a function is in the first group, if there is something in it. -/
theorem nameIn_of_group? (hcount : 0 < groupCount) {g : GroupMatch} (hg : m.group? 1 = some g)
    (hlt : g.start < g.stop) :
    nameIn text groupCount m = ((text.slice g.start g.stop).toString, g.start) := by
  obtain ⟨count, rfl⟩ := Nat.exists_eq_add_of_lt hcount
  have hfirst : (m.group? (0 + 1)).filter (fun g => g.start < g.stop) = some g := by
    rw [hg]
    exact Option.filter_some_pos (decide_eq_true hlt)
  unfold nameIn
  rw [List.range_succ_eq_map, List.findSome?_cons, hfirst]

end Function

namespace Builtin.Java

/-- **Words of control flow in other languages**, which Java does not reserve. -/
def foreignWords : List String := [
  "foreach", "sizeof", "using", "lock", "fixed", "when", "with", "function", "typeof", "delete",
  "await", "yield", "elif"]

/-- The words of control flow that are names in Java. -/
theorem mem_controlWords_iff {word : String} (h : word ∉ keywords) :
    word ∈ Function.controlWords ↔ word ∈ foreignWords := by
  have hcontrol : ∀ word ∈ Function.controlWords, word ∈ keywords ∨ word ∈ foreignWords := by decide
  have hforeign : ∀ word ∈ foreignWords, word ∈ Function.controlWords := by decide
  exact ⟨fun hword => (hcontrol word hword).resolve_left h, hforeign word⟩

/-- **A header is that of a method** whose name is in a group: the name is not
reserved, and the last word before it does not make it a use. -/
structure IsMethod (text : Text) (m : Match) (g : GroupMatch) : Prop where
  not_reserved : (text.slice g.start g.stop).toString ∉ keywords
  not_used : ∀ word,
    (blankSeparated (text.slice (Function.codeStart text m) g.start).toList).getLast? = some word →
      String.ofList word ∉ Function.usingWords

/-- The header of a method declares a function if the name is no word of control
flow elsewhere. -/
theorem IsMethod.declares_iff {text : Text} {m : Match} {g : GroupMatch} (h : IsMethod text m g)
    (hg : m.group? 1 = some g) (hlt : g.start < g.stop) :
    Function.declares text header.groupCount m = true ↔
      (text.slice g.start g.stop).toString ∉ foreignWords := by
  have hcount : 0 < header.groupCount := by decide
  rw [Function.declares, Function.nameIn_of_group? hcount hg hlt, Function.isDeclaration_iff,
    mem_controlWords_iff h.not_reserved, Text.toString, Text.toString, String.toList_ofList]
  exact and_iff_left h.not_used

/-- The functions of a text in Java are those of the headers that declare one. -/
theorem extract_eq_ok {language : Option String}
    (hjava : Registry.builtin.get? language = some rule) (text : Text) (file : SourceFile) :
    (Registry.builtin.extract text language file).1
      = .ok (((header.findAll text).filter (Function.declares text header.groupCount)).map fun m =>
          rule.reported file (Function.foundAt text header.groupCount m)) := by
  have hopens := (Registry.opensBlocks_builtin rule List.mem_cons_self).opensBlocksIn text
  rw [Registry.extract, hjava]
  exact hopens.functionsIn_eq_ok rfl file

/-- **The methods of a text in Java**: the functions are those of some of the
headers, in order and each under the name in the first group, which is never
empty. Of the headers of methods, only those are left out whose name is a word
of control flow in another language. -/
theorem extract_methods (text : Text) (language : Option String) (file : SourceFile)
    (hjava : Registry.builtin.get? language = some rule) :
    ∃ kept : List Match, kept.Sublist (header.findAll text) ∧
      (Registry.builtin.extract text language file).1
        = .ok (kept.map fun m => rule.reported file (Function.foundAt text header.groupCount m)) ∧
      ∀ m ∈ header.findAll text, ∃ g, m.group? 1 = some g ∧ g.start < g.stop ∧
        (Function.foundAt text header.groupCount m).name = (text.slice g.start g.stop).toString ∧
        (IsMethod text m g →
          (m ∈ kept ↔ (text.slice g.start g.stop).toString ∉ foreignWords)) := by
  refine ⟨_, List.filter_sublist, extract_eq_ok hjava text file, fun m hm => ?_⟩
  have hmoves : header.mayStay = false := by decide
  have hcloses : header.closesOnce 1 = true := by decide
  have hcount : 0 < header.groupCount := by decide
  obtain ⟨g, hg, hlt⟩ := Pattern.exists_group?_of_closesOnce hmoves hcloses hm
  refine ⟨g, hg, hlt, ?_, fun hmethod => ?_⟩
  · rw [Function.foundAt, Function.nameIn_of_group? hcount hg hlt]
  · rw [List.mem_filter, and_iff_right hm]
    exact hmethod.declares_iff hg hlt

/-- A method with a plain name, and one whose name is a word of control flow
elsewhere. -/
def twoMethods : Text := .ofString "int get() \x7b\x7d\nvoid delete() \x7b\x7d"

/-- The header of the first method. -/
def getHeader : Match := ⟨0, 11, [⟨1, none, 4, 7⟩]⟩

/-- The header of the second method. -/
def deleteHeader : Match := ⟨13, 28, [⟨1, none, 18, 24⟩]⟩

theorem findAll_twoMethods : header.findAll twoMethods = [getHeader, deleteHeader] := by
  cbv

theorem isMethod_getHeader : IsMethod twoMethods getHeader ⟨1, none, 4, 7⟩ := by
  refine ⟨by decide, fun word hword => ?_⟩
  have hbefore : (blankSeparated
      (twoMethods.slice (Function.codeStart twoMethods getHeader) 4).toList).getLast?
        = some "int".toList := by cbv
  obtain rfl := Option.some.inj (hbefore.symm.trans hword)
  decide

theorem isMethod_deleteHeader : IsMethod twoMethods deleteHeader ⟨1, none, 18, 24⟩ := by
  refine ⟨by decide, fun word hword => ?_⟩
  have hbefore : (blankSeparated
      (twoMethods.slice (Function.codeStart twoMethods deleteHeader) 18).toList).getLast?
        = some "void".toList := by cbv
  obtain rfl := Option.some.inj (hbefore.symm.trans hword)
  decide

theorem get?_java : Registry.builtin.get? (some "java") = some rule := by
  rfl

/-- The method with the plain name is reported, the other one is not. -/
theorem extract_methods_twoMethods : ∃ kept : List Match,
    (Registry.builtin.extract twoMethods (some "java") ⟨⟨.relative, ["A.java"]⟩, "p"⟩).1
      = .ok (kept.map fun m => rule.reported ⟨⟨.relative, ["A.java"]⟩, "p"⟩
          (Function.foundAt twoMethods header.groupCount m)) ∧
      IsMethod twoMethods getHeader ⟨1, none, 4, 7⟩ ∧ getHeader ∈ kept ∧
      IsMethod twoMethods deleteHeader ⟨1, none, 18, 24⟩ ∧ deleteHeader ∉ kept := by
  obtain ⟨kept, -, hfunctions, hkept⟩ :=
    extract_methods twoMethods (some "java") ⟨⟨.relative, ["A.java"]⟩, "p"⟩ get?_java
  rw [findAll_twoMethods] at hkept
  obtain ⟨g, hg, -, -, hget⟩ := hkept getHeader List.mem_cons_self
  obtain ⟨d, hd, -, -, hdelete⟩ := hkept deleteHeader (List.mem_cons_of_mem _ List.mem_cons_self)
  obtain rfl := Option.some.inj hg
  obtain rfl := Option.some.inj hd
  have hreported : getHeader ∈ kept := (hget isMethod_getHeader).mpr (by decide)
  have hmissing : deleteHeader ∉ kept := fun hmem =>
    absurd (by decide) ((hdelete isMethod_deleteHeader).mp hmem)
  exact ⟨kept, hfunctions, isMethod_getHeader, hreported, isMethod_deleteHeader, hmissing⟩

/-- **Not every method is reported**: one whose name is a foreign word is left
out. -/
theorem not_forall_extract_methods : ¬ ∀ (text : Text) (language : Option String)
    (file : SourceFile), Registry.builtin.get? language = some rule →
    ∃ functions, (Registry.builtin.extract text language file).1 = .ok functions ∧
      ∀ m ∈ header.findAll text, ∀ g, m.group? 1 = some g → IsMethod text m g →
        ∃ f ∈ functions, f.name = (text.slice g.start g.stop).toString := by
  intro h
  obtain ⟨functions, hfunctions, hall⟩ :=
    h twoMethods (some "java") ⟨⟨.relative, ["A.java"]⟩, "p"⟩ get?_java
  have hdeclares : (header.findAll twoMethods).filter
      (Function.declares twoMethods header.groupCount) = [getHeader] := by
    rw [findAll_twoMethods]
    cbv
  rw [extract_eq_ok get?_java, hdeclares] at hfunctions
  obtain rfl := Except.ok.inj hfunctions
  have hmem : deleteHeader ∈ header.findAll twoMethods := by
    rw [findAll_twoMethods]
    exact List.mem_cons_of_mem _ List.mem_cons_self
  obtain ⟨f, hf, hname⟩ := hall deleteHeader hmem _ rfl isMethod_deleteHeader
  obtain rfl := List.mem_singleton.mp hf
  have hget : (Function.foundAt twoMethods header.groupCount getHeader).name = "get" := by cbv
  exact absurd (hget.symm.trans hname) (by decide)

end Builtin.Java

end SourceLens
