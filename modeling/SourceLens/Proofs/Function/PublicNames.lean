import Mathlib
import SourceLens.Proofs.Except
import SourceLens.Proofs.Function.Headers
import SourceLens.Proofs.Language.OwnKeys
import SourceLens.Proofs.Text.Slugs

/-!
# Names to publish under

The code of a function is published in a file that is named for it: the slug of
its name with the extension of its language. Names of functions come from source
texts and can hold anything, so a file name has to be safe whatever the name is:
one graphic character of ASCII after the other, none of which separates folders
(`IsPublicName`).

The name only enters through its slug, which has the form of a slug for all names
and lengths (`Slug.IsSlug`). The extension is that of the language; those of the
built-in languages are a dot and small letters.
-/

namespace SourceLens

/-- **A safe name of a file** with an extension. -/
structure IsPublicName (extension name : String) : Prop where
  /-- Words joined by hyphens, and then the extension. -/
  form : ∃ slug, Slug.IsJoined slug ∧ name.toList = slug ++ extension.toList
  no_separator : ∀ c ∈ name.toList, c ≠ '/' ∧ c ≠ '\\'
  no_blank : ∀ c ∈ name.toList, CharClass.isBlank c = false
  /-- No control character, and none beyond ASCII. -/
  graphic : ∀ c ∈ name.toList, 0x20 < c.toNat ∧ c.toNat < 0x7F

/-- The characters of a slug and of the extensions of the built-in languages. -/
def isPublic (c : Char) : Bool :=
  Slug.isKept c || c == '-' || c == '.'

/-- These characters are safe in the name of a file. -/
theorem safe_of_isPublic {c : Char} (h : isPublic c = true) :
    (c ≠ '/' ∧ c ≠ '\\') ∧ 0x20 < c.toNat ∧ c.toNat < 0x7F := by
  rw [isPublic, Bool.or_eq_true, Bool.or_eq_true, beq_iff_eq, beq_iff_eq] at h
  obtain (hc | rfl) | rfl := h
  · have hcode := Slug.toNat_of_isKept hc
    refine ⟨⟨?_, ?_⟩, by omega, by omega⟩
    · rintro rfl
      cases hc
    · rintro rfl
      cases hc
  · decide
  · decide

/-- The extension of a built-in language is a dot and small letters. -/
theorem extension_builtin {rule : Rule} (hrule : rule ∈ Registry.builtin.rules) :
    rule.extension.isEmpty = false ∧ ∀ c ∈ rule.extension.toList, isPublic c = true := by
  obtain rfl | rfl | rfl | rfl | rfl | rfl | rfl | rfl := Registry.mem_rules_builtin.mp hrule
  all_goals exact ⟨by decide, List.all_eq_true.mp (by decide)⟩

/-- **A function of a built-in language has a safe name.** -/
theorem isPublicName_publicName {rule : Rule} (hrule : rule ∈ Registry.builtin.rules)
    {f : ExtractedFunction} (hf : f.extension = rule.extension) :
    IsPublicName rule.extension f.publicName := by
  obtain ⟨hne, hextension⟩ := extension_builtin hrule
  have hslug := isSlug_slugify f.name Slug.defaultLimit
  have hname : f.publicName.toList
      = (slugify f.name Slug.defaultLimit).toList ++ rule.extension.toList := by
    rw [ExtractedFunction.publicName, hf, if_neg (Bool.eq_false_iff.mp hne), String.toList_append]
  have hpublic : ∀ c ∈ f.publicName.toList, isPublic c = true := by
    intro c hc
    rw [hname] at hc
    obtain hc | hc := List.mem_append.mp hc
    · obtain hkept | rfl := hslug.chars c hc
      · rw [isPublic, hkept]
        rfl
      · rfl
    · exact hextension c hc
  refine ⟨⟨_, hslug.isJoined, hname⟩, fun c hc => (safe_of_isPublic (hpublic c hc)).1,
    fun c hc => ?_, fun c hc => (safe_of_isPublic (hpublic c hc)).2⟩
  obtain ⟨-, hlow, hhigh⟩ := safe_of_isPublic (hpublic c hc)
  exact CharClass.isBlank_eq_false_of_lt hlow (by omega)

/-- A function of a text in a language is one that was found, with where it comes
from. -/
theorem Rule.exists_reported {rule : Rule} {text : Text} {file : SourceFile}
    {functions : List ExtractedFunction} (h : rule.functionsIn text file = .ok functions)
    {f : ExtractedFunction} (hf : f ∈ functions) : ∃ found, rule.reported file found = f := by
  cases hfunctions : rule.functions with
  | none =>
    unfold functionsIn at h
    rw [hfunctions] at h
    cases h
    cases hf
  | some _ =>
    rw [Rule.functionsIn_eq hfunctions] at h
    obtain ⟨found, -, rfl⟩ := map_eq_ok.mp h
    obtain ⟨one, -, hone⟩ := List.mem_map.mp hf
    exact ⟨one, hone⟩

/-- A function that is found in a text has the key and the extension of a language
of the registry. -/
theorem Registry.exists_rule_of_mem_extract {registry : Registry} {text : Text}
    {language : Option String} {file : SourceFile} {functions : List ExtractedFunction}
    (h : (registry.extract text language file).1 = .ok functions) {f : ExtractedFunction}
    (hf : f ∈ functions) :
    ∃ rule ∈ registry.rules, f.language = rule.key ∧ f.extension = rule.extension := by
  unfold extract at h
  cases hrule : registry.get? language with
  | none =>
    rw [hrule] at h
    cases h
    cases hf
  | some rule =>
    rw [hrule] at h
    obtain ⟨found, rfl⟩ := rule.exists_reported h hf
    exact ⟨rule, mem_of_get?_eq_some hrule, rfl, rfl⟩

/-- **Slugs, and the names that functions are published under.** For every name,
and every limit from the length of the fallback on, the slug consists of words of
small letters and digits, joined by single hyphens; it is no longer than the limit;
and it is its own slug. So the public name of a function of a built-in language is
safe and has the extension of the language, whatever the function is called, and in
particular if it was found in a text. -/
theorem slugify_publicName :
    (∀ (name : String) (limit : Int), 7 ≤ limit →
      Slug.IsJoined (slugify name limit).toList ∧
      ((slugify name limit).length : Int) ≤ limit ∧
      slugify (slugify name limit) limit = slugify name limit) ∧
    (∀ rule ∈ Registry.builtin.rules, ∀ f : ExtractedFunction, f.extension = rule.extension →
      IsPublicName rule.extension f.publicName) ∧
    ∀ (text : Text) (language : Option String) (file : SourceFile)
      (functions : List ExtractedFunction),
      (Registry.builtin.extract text language file).1 = .ok functions →
      ∀ f ∈ functions, ∃ rule ∈ Registry.builtin.rules, f.language = rule.key ∧
        IsPublicName rule.extension f.publicName := by
  refine ⟨fun name limit hlimit => ?_, fun rule hrule f => isPublicName_publicName hrule,
    fun text language file functions hfunctions f hf => ?_⟩
  · exact ⟨(isSlug_slugify name limit).isJoined, length_slugify_le name hlimit,
      slugify_slugify name hlimit⟩
  · obtain ⟨rule, hrule, hkey, hextension⟩ :=
      Registry.exists_rule_of_mem_extract hfunctions hf
    exact ⟨rule, hrule, hkey, isPublicName_publicName hrule hextension⟩

/-- A name that is cut behind a hyphen, and a function whose name leaves no
character. -/
theorem slugify_publicName_cut :
    slugify "Abcdef Gh" 7 = "abcdef" ∧ Slug.IsJoined "abcdef".toList ∧
      slugify "abcdef" 7 = "abcdef" ∧
      ∃ f, (Registry.builtin.extract (.ofString "def _") (some Builtin.Python.rule.key)
          ⟨⟨.relative, ["a.py"]⟩, "p"⟩).1 = .ok [f] ∧
        f.publicName = "snippet.py" ∧ IsPublicName ".py" f.publicName ∧
        ∃ rule ∈ Registry.builtin.rules, f.language = rule.key ∧
          IsPublicName rule.extension f.publicName := by
  obtain ⟨hslugs, hnames, hfound⟩ := slugify_publicName
  have hcut : slugify "Abcdef Gh" 7 = "abcdef" := by cbv
  obtain ⟨hjoined, -, hagain⟩ := hslugs "Abcdef Gh" 7 (Int.le_refl 7)
  rw [hcut] at hjoined hagain
  have hpython : Builtin.Python.rule ∈ Registry.builtin.rules :=
    Registry.mem_rules_builtin.mpr (by simp)
  have hfunctions : (Registry.builtin.extract (.ofString "def _") (some Builtin.Python.rule.key)
      ⟨⟨.relative, ["a.py"]⟩, "p"⟩).1
      = .ok [⟨"p", "a.py", "python", "_", "def _", ⟨.relative, ["a.py"]⟩, ".py"⟩] := by
    obtain ⟨hkey, htrimmed⟩ := Registry.isTrimmed_key_builtin hpython
    rw [Registry.extract, Registry.get?_key Registry.ofRules_builtinRules hpython hkey htrimmed]
    cbv
  exact ⟨hcut, hjoined, hagain, _, hfunctions, by cbv, hnames Builtin.Python.rule hpython _ rfl,
    hfound _ _ _ _ hfunctions _ List.mem_cons_self⟩

end SourceLens
