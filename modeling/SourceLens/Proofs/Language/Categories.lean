import Mathlib
import SourceLens.Proofs.Language.Joined
import SourceLens.Proofs.Language.Registry

/-!
# Languages and their categories

A language comes about in two ways: the library gives its categories as they
are, or its users define it by a joined pattern. `Rule.MadeOf` says of both
what the categories are, and every language that is made of categories divides
texts by them. So the jumping search of `Rule.tokenize` finds exactly the
tokens of the scan that tries the categories offset by offset
(`Rule.tokenize_eq_scan`).

For a definition, the categories are those of the joined pattern, which keeps
three of the options of a category. A definition that asks for no others is
made of its categories as they are declared (`RuleDefinition.exists_madeOf`).
A spaced pattern can turn into no pattern at all when that option is dropped;
such a language is made of nothing, and its tokens are not those of the
categories that were declared (`RuleDefinition.not_forall_tokenize_eq_scan`).
-/

namespace SourceLens

/-- A language given by categories divides texts by them. -/
theorem Rule.dividesBy_ofCategories (key : String) (aliases : List String) (extension : String)
    {categories : List Category} (functions : Option FunctionSyntax)
    (h : (categories.map (·.name)).Nodup) :
    (ofCategories key aliases extension categories functions).DividesBy categories := by
  refine ⟨rfl, h, alternatives 1 categories, ?_, rfl⟩
  have hnumbered : ∀ (index : Nat) (cs : List Category),
      List.Forall₂ Category.IsAlternative cs (alternatives index cs) := by
    intro index cs
    induction cs generalizing index with
    | nil => exact .nil
    | cons c cs ih => exact .cons ⟨index, c.pattern, rfl, fun _ _ => rfl⟩ (ih (index + 1))
  exact hnumbered 1 categories

/-- **A language is made of some categories**: the library gives it by them,
or they are those of its definition. -/
inductive Rule.MadeOf : Rule → List Category → Prop where
  /-- The categories of a language of the library have different names. -/
  | given (key : String) (aliases : List String) (extension : String) {categories : List Category}
      (functions : Option FunctionSyntax) (distinct : (categories.map (·.name)).Nodup) :
      Rule.MadeOf (.ofCategories key aliases extension categories functions) categories
  /-- The categories of a definition are read under the options that its joined
  pattern keeps. -/
  | defined {definition : RuleDefinition} {rule : Rule} {categories : List Category}
      (compiled : definition.compile = .ok rule)
      (read : definition.categories.mapM (·.category) = .ok categories) :
      Rule.MadeOf rule categories

/-- A language divides texts by the categories that it is made of. -/
theorem Rule.MadeOf.dividesBy {rule : Rule} {categories : List Category}
    (h : rule.MadeOf categories) : rule.DividesBy categories := by
  cases h with
  | given key aliases extension functions distinct =>
    exact dividesBy_ofCategories key aliases extension functions distinct
  | defined compiled read => exact RuleDefinition.dividesBy_of_compile compiled read

/-- **A definition that asks for no option but those that are kept** makes a
language of its categories, as they are declared. -/
theorem RuleDefinition.exists_madeOf {definition : RuleDefinition} {rule : Rule}
    (h : definition.compile = .ok rule)
    (hkept : ∀ c ∈ definition.categories, c.keptOptions = .ofBits c.options) :
    ∃ categories, rule.MadeOf categories ∧
      definition.categories.mapM
        (fun c => c.alone.map fun p => (⟨c.name, c.tag, p⟩ : Category)) = .ok categories := by
  have hread : ∀ definitions : List CategoryDefinition, (∀ c ∈ definitions, c.check = .ok ()) →
      (∀ c ∈ definitions, c.keptOptions = .ofBits c.options) →
      ∃ categories, definitions.mapM (·.category) = .ok categories ∧
        definitions.mapM (fun c => c.alone.map fun p => (⟨c.name, c.tag, p⟩ : Category))
          = .ok categories := by
    intro definitions hchecked hkept
    induction definitions with
    | nil => exact ⟨[], rfl, rfl⟩
    | cons c rest ih =>
      obtain ⟨categories, hcategories, hdeclared⟩ :=
        ih (fun c hc => hchecked c (List.mem_cons_of_mem _ hc))
          fun c hc => hkept c (List.mem_cons_of_mem _ hc)
      obtain ⟨pattern, halone⟩ := exists_alone_of_check (hchecked c List.mem_cons_self)
      have hcategory : c.category = .ok ⟨c.name, c.tag, pattern⟩ := by
        rw [CategoryDefinition.category, CategoryDefinition.kept,
          hkept c List.mem_cons_self, ← CategoryDefinition.alone, halone]
        rfl
      refine ⟨⟨c.name, c.tag, pattern⟩ :: categories, ?_, ?_⟩
      · rw [List.mapM_cons, hcategory, hcategories]
        rfl
      · rw [List.mapM_cons, halone, hdeclared]
        rfl
  obtain ⟨categories, hcategories, hdeclared⟩ :=
    hread definition.categories (exists_of_compile_eq_ok h).1 hkept
  exact ⟨categories, .defined h hcategories, hdeclared⟩

/-- All languages of a registry are made of categories. -/
def Registry.MadeOfCategories (registry : Registry) : Prop :=
  ∀ rule ∈ registry.rules, ∃ categories, rule.MadeOf categories

/-- **The built-in languages are made of categories.** -/
theorem Registry.madeOfCategories_builtin : builtin.MadeOfCategories := by
  intro rule hrule
  obtain rfl | rfl | rfl | rfl | rfl | rfl | rfl | rfl := mem_rules_builtin.mp hrule
  all_goals exact ⟨_, .given _ _ _ _ (by decide)⟩

/-- **The tokens of a text are those of the scan offset by offset**: at each
offset the first category that matches decides, with the text before the
offset in view; a match that is not empty is a token, and the scan goes on
behind it, else one character on. -/
theorem Rule.tokenize_eq_scan {rule : Rule} {categories : List Category}
    (h : rule.MadeOf categories) (text : Text) :
    rule.tokenize text = .ok (Category.scan categories text) :=
  h.dividesBy.tokenize_eq text

namespace RuleDefinition

/-- A language with one category. -/
def single (pattern : String) (options : Nat) : RuleDefinition where
  key := "k"
  categories := [⟨"n", pattern, "t", options⟩]
  aliases := []
  header := none
  blockStyle := none
  extension := ".txt"

/-- The tokens of a defined language, where case does not count and the second
alternative comes after an empty first. -/
theorem single_tokenize_eq_scan :
    ∃ rule, (single "a(?=b)|c*" 2).compile = .ok rule ∧
      rule.tokenize #['x', 'A', 'b', 'c'] = .ok (Category.scan
        [⟨"n", "t", .alt (.seq (.char ⟨[.range 97 97], false, .folded, false⟩)
            (.ahead true (.char ⟨[.range 98 98], false, .folded, false⟩)))
          (.chars ⟨[.range 99 99], false, .folded, false⟩ 0 none true)⟩]
        #['x', 'A', 'b', 'c']) := by
  have hcompiled : (single "a(?=b)|c*" 2).compile.map (fun _ => ()) = .ok () := by cbv
  obtain ⟨rule, hrule, -⟩ := map_eq_ok.mp hcompiled
  exact ⟨rule, hrule, Rule.tokenize_eq_scan (.defined hrule (by cbv)) _⟩

/-- **Not every language that can be defined has the tokens of the categories
as they are declared**: the spaced pattern `a#?)(` is the letter and a comment,
and without that option it closes the group of its category. -/
theorem not_forall_tokenize_eq_scan :
    ¬ ∀ (definition : RuleDefinition) (rule : Rule) (categories : List Category) (text : Text),
      definition.compile = .ok rule →
      definition.categories.mapM (fun c => c.alone.map fun p => (⟨c.name, c.tag, p⟩ : Category))
        = .ok categories →
      rule.tokenize text = .ok (Category.scan categories text) := by
  intro h
  have hfails : (single "a#?)(" 64).compile.map (fun rule => rule.tokenize #['a'])
      = .ok (.error ⟨none⟩) := by cbv
  obtain ⟨rule, hrule, htokens⟩ := map_eq_ok.mp hfails
  have hdeclared := h (single "a#?)(" 64) rule
    [⟨"n", "t", .char ⟨[.range 97 97], false, .exact, false⟩⟩] #['a'] hrule (by cbv)
  rw [htokens] at hdeclared
  cases hdeclared

end RuleDefinition

end SourceLens
