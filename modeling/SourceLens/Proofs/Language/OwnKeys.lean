import Mathlib
import SourceLens.Highlight.Basic
import SourceLens.Proofs.Language.Names

/-!
# Languages by their own keys

A language that has been found is looked up again by its key: the service tells
a client the key of the language of a request, and highlights the text in the
language of that key. This is sound if a key leads back to its language.

A key is registered as it is written, in lower case, and looked up in lower case
without the blanks around it. The two meet where no blank stands at an end of
the key (`IsTrimmed`); no other name can take its place then, since a
key goes before all names. The empty key is the exception: it is registered, and
the empty name stands for no language. Still, resolving a name twice gives one
language (`Registry.resolve_key`): a language with the empty key is only
ever the default one, and this is what the empty name is resolved to. A key with
a blank at an end need not lead back (`Registry.not_forall_resolve_key`).
-/

namespace SourceLens

/-- **No blank stands at an end of a name.** -/
def IsTrimmed (name : String) : Prop :=
  (∀ c ∈ name.toList.head?, CharClass.isBlank c = false) ∧
    ∀ c ∈ name.toList.getLast?, CharClass.isBlank c = false

instance (name : String) : Decidable (IsTrimmed name) :=
  inferInstanceAs (Decidable (_ ∧ _))

/-- A name without blanks at its ends is looked up as it is registered. -/
theorem IsTrimmed.plainName_eq {name : String} (h : IsTrimmed name) :
    plainName name = lower name := by
  have hfirst : name.toList.dropWhile CharClass.isBlank = name.toList :=
    List.dropWhile_eq_self_iff.mpr fun hlength => by
      have hhead : name.toList.head? = some name.toList[0] := by
        rw [List.head?_eq_getElem?]
        exact List.getElem?_eq_getElem _
      rw [h.1 _ hhead]
      exact Bool.false_ne_true
  have hlast : name.toList.rdropWhile CharClass.isBlank = name.toList :=
    List.rdropWhile_eq_self_iff.mpr fun hne => by
      rw [h.2 _ (List.getLast?_eq_some_getLast hne)]
      exact Bool.false_ne_true
  have hstripped : stripBlanks name.toList = name.toList := by
    rw [stripBlanks, hfirst]
    exact hlast
  rw [plainName, hstripped, String.ofList_toList]

/-- The characters of ASCII behind the space are not blank. -/
theorem CharClass.isBlank_eq_false_of_lt {c : Char} (hspace : 0x20 < c.toNat)
    (hascii : c.toNat < 0x80) : CharClass.isBlank c = false := by
  unfold CharClass.isBlank
  rw [if_pos hascii]
  grind

namespace Registry

variable {rules : List Rule} {registry : Registry} {rule : Rule}

/-- The empty name stands for no language. -/
theorem get?_empty (registry : Registry) : registry.get? (some "") = none := rfl

/-- A text is highlighted in the language that a name is resolved to. -/
theorem ruleFor_fst (registry : Registry) (name : Option String) :
    (registry.ruleFor name).1 = registry.resolve name := by
  rw [ruleFor, resolve]
  cases registry.get? name <;> rfl

/-- No name stands for a language with the empty key. -/
theorem key_ne_empty_of_get? (hregistry : ofRules rules = .ok registry) {name : Option String}
    (h : registry.get? name = some rule) : rule.key ≠ "" := by
  obtain ⟨hnodup, hne, rfl⟩ := ofRules_eq_ok_iff.mp hregistry
  rw [get?_ofNonempty hnodup hne] at h
  cases name with
  | none => cases h
  | some name =>
    rw [called?] at h
    split at h
    · cases h
    · exact of_decide_eq_true (Option.filter_eq_some_iff.mp h).2

/-- **A key finds its language**, if it is not empty and no blank stands at its
ends. -/
theorem get?_key (hregistry : ofRules rules = .ok registry) (hrule : rule ∈ registry.rules)
    (hkey : rule.key ≠ "") (htrimmed : IsTrimmed rule.key) :
    registry.get? (some rule.key) = some rule := by
  obtain ⟨hnodup, hne, rfl⟩ := ofRules_eq_ok_iff.mp hregistry
  rw [get?_ofNonempty hnodup hne]
  exact called?_of_key hnodup hrule hkey hkey htrimmed.plainName_eq

/-- **The language of a name is the language of its key.** The default language
may have the empty key, which is resolved to the default language. -/
theorem resolve_key (hregistry : ofRules rules = .ok registry) (name : Option String)
    (htrimmed : IsTrimmed (registry.resolve name).key) :
    registry.resolve (some (registry.resolve name).key) = registry.resolve name := by
  by_cases hkey : (registry.resolve name).key = ""
  · have hnone : registry.get? name = none := by
      cases hfound : registry.get? name with
      | none => rfl
      | some rule =>
        rw [resolve, hfound] at hkey
        exact absurd hkey (key_ne_empty_of_get? hregistry hfound)
    rw [hkey, resolve, get?_empty, resolve, hnone]
  · rw [resolve, get?_key hregistry (resolve_mem registry name) hkey htrimmed]
    rfl

/-! ## The built-in languages -/

theorem keys_builtinRules : builtinRules.map (·.key)
    = ["java", "python", "javascript", "cpp", "csharp", "sql", "html", "css"] := rfl

/-- The built-in languages make the built-in registry. -/
theorem ofRules_builtinRules : ofRules builtinRules = .ok builtin := by
  refine ofRules_eq_ok_iff.mpr ⟨?_, _, rfl⟩
  have hlower : (builtinRules.map fun rule => lower rule.key)
      = ["java", "python", "javascript", "cpp", "csharp", "sql", "html", "css"] :=
    calc (builtinRules.map fun rule => lower rule.key)
        = (builtinRules.map (·.key)).map lower := List.map_map.symm
      _ = _ := by
        rw [keys_builtinRules]
        cbv
  rw [hlower]
  simp

/-- The built-in keys are not empty and have no blanks at their ends. -/
theorem isTrimmed_key_builtin (hrule : rule ∈ builtin.rules) :
    rule.key ≠ "" ∧ IsTrimmed rule.key := by
  have hkey : rule.key ∈ builtinRules.map (·.key) := List.mem_map_of_mem hrule
  rw [keys_builtinRules] at hkey
  generalize rule.key = key at hkey ⊢
  revert key
  simp [IsTrimmed, CharClass.isBlank_eq_false_of_lt]

/-! ## Leading back -/

/-- **A key leads back to its language.** In a registry that is made of some
languages, the language of a name is the language of its own key, and a text is
highlighted in it, if no blank stands at an end of that key. Every language has
its own key as a name, unless the key is empty: the empty name is none. For the
built-in languages all this holds without exception, so what the service tells
to be the language of a text is the language that it highlights the text in. -/
theorem ownKey_leads_back (hregistry : ofRules rules = .ok registry) :
    (∀ name, IsTrimmed (registry.resolve name).key →
      registry.resolve (some (registry.resolve name).key) = registry.resolve name ∧
      (registry.ruleFor (some (registry.resolve name).key)).1 = registry.resolve name) ∧
    (∀ rule ∈ registry.rules, rule.key ≠ "" → IsTrimmed rule.key →
      registry.get? (some rule.key) = some rule) ∧
    registry.get? (some "") = none ∧
    (∀ name, builtin.resolve (some (builtin.resolve name).key) = builtin.resolve name ∧
      builtin.ruleFor (some (builtin.resolve name).key) = (builtin.resolve name, [])) ∧
    ∀ rule ∈ builtin.rules, builtin.get? (some rule.key) = some rule := by
  have hbuiltin (rule : Rule) (hrule : rule ∈ builtin.rules) :
      builtin.get? (some rule.key) = some rule :=
    get?_key ofRules_builtinRules hrule (isTrimmed_key_builtin hrule).1
      (isTrimmed_key_builtin hrule).2
  refine ⟨fun name htrimmed => ?_, fun rule => get?_key hregistry, get?_empty registry,
    fun name => ?_, hbuiltin⟩
  · have hback := resolve_key hregistry name htrimmed
    exact ⟨hback, (ruleFor_fst registry _).trans hback⟩
  · have hfound := hbuiltin _ (resolve_mem builtin name)
    refine ⟨?_, ?_⟩
    · rw [resolve, hfound]
      rfl
    · rw [ruleFor, hfound]

/-- The language of a name in capital letters with blanks around it, which goes
by the key of another one in small letters. -/
theorem clashing_leads_back :
    ∃ registry, ofRules clashing = .ok registry ∧
      (registry.resolve (some " TWO\t")).extension = ".2" ∧
      IsTrimmed (registry.resolve (some " TWO\t")).key ∧
      registry.resolve (some (registry.resolve (some " TWO\t")).key)
        = registry.resolve (some " TWO\t") := by
  have hnonempty : clashing ≠ [] := List.cons_ne_nil _ _
  have hregistry : ofRules clashing = .ok (ofNonempty clashing hnonempty) := rfl
  have hkey : ((ofNonempty clashing hnonempty).resolve (some " TWO\t")).key = "TWO" := by cbv
  have htrimmed : IsTrimmed "TWO" := by
    simp [IsTrimmed, CharClass.isBlank_eq_false_of_lt]
  rw [← hkey] at htrimmed
  exact ⟨_, hregistry, by cbv, htrimmed,
    ((ownKey_leads_back hregistry).1 (some " TWO\t") htrimmed).1⟩

/-- Three languages: the key of the second starts with a blank, and that of the
third is empty. -/
def oddlyKeyed : List Rule := [
  .ofCategories "a" [] ".1" [] none, .ofCategories " b" ["x"] ".2" [] none,
  .ofCategories "" [] ".3" [] none]

/-- **Not every key leads back to its language**: a key that starts with a blank
is looked up without it, and the empty name stands for no language. -/
theorem not_forall_resolve_key :
    (¬ ∀ (rules : List Rule) (registry : Registry), ofRules rules = .ok registry →
      ∀ name, registry.resolve (some (registry.resolve name).key) = registry.resolve name) ∧
    ¬ ∀ (rules : List Rule) (registry : Registry), ofRules rules = .ok registry →
      ∀ rule ∈ registry.rules, registry.get? (some rule.key) = some rule := by
  have hnonempty : oddlyKeyed ≠ [] := List.cons_ne_nil _ _
  have hregistry : ofRules oddlyKeyed = .ok (ofNonempty oddlyKeyed hnonempty) := rfl
  constructor
  · -- the second language has another name, and its key stands for the first one
    intro h
    have hother : ((ofNonempty oddlyKeyed hnonempty).resolve (some "x")).extension = ".2" := by
      cbv
    have hkey : ((ofNonempty oddlyKeyed hnonempty).resolve (some "x")).key = " b" := by cbv
    have hback : ((ofNonempty oddlyKeyed hnonempty).resolve (some " b")).extension = ".1" := by
      cbv
    rw [← hkey, h _ _ hregistry, hother] at hback
    exact absurd hback (by decide)
  · -- the third language has no name
    intro h
    have hlast := h _ _ hregistry (.ofCategories "" [] ".3" [] none)
      (List.mem_cons_of_mem _ (List.mem_cons_of_mem _ List.mem_cons_self))
    cases hlast

end Registry

end SourceLens
