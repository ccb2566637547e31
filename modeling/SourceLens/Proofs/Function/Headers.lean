import SourceLens.Function.File
import SourceLens.Proofs.Language.Registry
import SourceLens.Proofs.Pattern.Bounds

/-!
# Headers that open a block

The body of a function in a language of blocks starts at the last character of
its header, which has to be a brace; `blockEnd` fails at any other. Nothing in
the type of a header says so: it is a property of the pattern, which
`Rule.OpensBlocks` states as a condition on its last parts
(`Pattern.endsIn`), along every alternative.

The languages that are built in all have it, so that looking for functions in
them never fails, whatever the text (`Registry.OpensBlocks.extract_eq_ok`).
-/

namespace SourceLens

/-- **The headers of a language open blocks**: if the bodies of its functions
are blocks, its header ends in a brace along every alternative. -/
def Rule.OpensBlocks (rule : Rule) : Prop :=
  ∀ functions, rule.functions = some functions → functions.style = .brace →
    functions.header.endsIn '{' = true

/-- The headers of all languages of a registry open blocks. -/
def Registry.OpensBlocks (registry : Registry) : Prop :=
  ∀ rule ∈ registry.rules, rule.OpensBlocks

/-! ## Blocks -/

/-- There is a block where there is a brace. -/
theorem blockEnd_of_hasAt {text : Text} {offset : Nat} (h : text.hasAt offset '{' = true) :
    blockEnd text (offset : Int)
      = .ok (Block.endFrom text (text.size - offset) offset 0) := by
  unfold blockEnd
  rw [if_pos]
  · rfl
  · rw [Bool.and_eq_true]
    exact ⟨decide_eq_true (Int.natCast_nonneg offset), h⟩

namespace Function

/-- **Headers that end in a brace have their functions.** -/
theorem foundInBlocks_of_hasAt {text : Text} {groupCount : Nat} {headers : List Match}
    (h : ∀ m ∈ headers, ∃ last, m.stop = last + 1 ∧ text.hasAt last '{' = true) :
    ∃ found, foundInBlocks text groupCount headers = .ok found := by
  induction headers with
  | nil => exact ⟨[], rfl⟩
  | cons m rest ih =>
    obtain ⟨later, hlater⟩ := ih fun m hm => h m (List.mem_cons_of_mem _ hm)
    obtain ⟨last, hstop, hbrace⟩ := h m List.mem_cons_self
    have hlast : (m.stop : Int) - 1 = (last : Int) := by omega
    unfold foundInBlocks
    dsimp only
    rw [hlater, hlast, blockEnd_of_hasAt hbrace]
    split
    · exact ⟨later, rfl⟩
    · exact ⟨_, rfl⟩

end Function

/-! ## Languages -/

/-- A function that has been found, with where it comes from. -/
def Rule.reported (rule : Rule) (file : SourceFile) (found : Function.Found) :
    ExtractedFunction where
  projectName := file.projectName
  fileName := file.path.name
  language := rule.key
  name := found.name
  code := found.code.toString
  source := file.path
  extension := rule.extension

/-- The functions of a text in a language are those that are found in it. -/
theorem Rule.functionsIn_eq {rule : Rule} {functions : FunctionSyntax}
    (h : rule.functions = some functions) (text : Text) (file : SourceFile) :
    rule.functionsIn text file = (Function.find functions.style functions.header text).map
      (List.map (rule.reported file)) := by
  unfold functionsIn
  rw [h]
  rfl

/-- Every match of a header that opens blocks ends right behind a brace. -/
theorem Rule.OpensBlocks.hasAt {rule : Rule} (h : rule.OpensBlocks) {functions : FunctionSyntax}
    (hfunctions : rule.functions = some functions) (hstyle : functions.style = .brace)
    {text : Text} {m : Match} (hm : m ∈ functions.header.findAll text) :
    ∃ last, m.stop = last + 1 ∧ text.hasAt last '{' = true := by
  obtain ⟨cur, hway, hstop⟩ := Pattern.exists_way_of_mem_findAll hm
  obtain ⟨last, hlast, hbrace⟩ := Pattern.hasAt_of_endsIn (h functions hfunctions hstyle) hway
  exact ⟨last, hstop ▸ hlast, hbrace⟩

/-- Looking for functions does not fail in a language whose headers open
blocks. -/
theorem Rule.OpensBlocks.functionsIn_eq_ok {rule : Rule} (h : rule.OpensBlocks) (text : Text)
    (file : SourceFile) : ∃ functions, rule.functionsIn text file = .ok functions := by
  unfold functionsIn
  cases hfunctions : rule.functions with
  | none => exact ⟨[], rfl⟩
  | some functions =>
    have hfound : ∃ found, Function.find functions.style functions.header text = .ok found := by
      unfold Function.find
      cases hstyle : functions.style with
      | brace => exact Function.foundInBlocks_of_hasAt fun m hm => h.hasAt hfunctions hstyle hm
      | indent => exact ⟨_, rfl⟩
    obtain ⟨found, hfound⟩ := hfound
    dsimp only
    rw [hfound]
    exact ⟨_, rfl⟩

namespace Registry

/-- **Extraction does not fail** where headers open blocks: for every text,
every language asked for and every path. -/
theorem OpensBlocks.extract_eq_ok {registry : Registry} (h : registry.OpensBlocks) (text : Text)
    (language : Option String) (file : SourceFile) :
    ∃ functions, (registry.extract text language file).1 = .ok functions := by
  unfold extract
  cases hrule : registry.get? language with
  | none => exact ⟨[], rfl⟩
  | some rule => exact (h rule (mem_of_get?_eq_some hrule)).functionsIn_eq_ok text file

/-- **The headers of the built-in languages open blocks.** -/
theorem opensBlocks_builtin : builtin.OpensBlocks := by
  intro rule hrule functions hfunctions hstyle
  obtain rfl | rfl | rfl | rfl | rfl | rfl | rfl | rfl := mem_rules_builtin.mp hrule
  all_goals cases hfunctions
  all_goals first | rfl | cases hstyle

end Registry

end SourceLens
