import SourceLens.Language.Registry

/-!
# Looking up languages

Whatever name is looked up, the language that is found is one of those that
were registered, and so is the one that unknown names stand for. What holds of
all languages of a registry therefore holds of the language of every name. The
built-in languages are eight, and what holds of all of them is shown one by one
(`Registry.mem_rules_builtin`).
-/

namespace SourceLens.Registry

variable {registry : Registry}

/-- A language that is found is one of the registry. -/
theorem mem_of_get?_eq_some {name : Option String} {rule : Rule}
    (h : registry.get? name = some rule) : rule ∈ registry.rules := by
  unfold get? at h
  cases name with
  | none => cases h
  | some name =>
    dsimp only at h
    split at h
    · cases h
    · split at h
      · cases h
      · split at h
        · cases h
        · exact List.mem_of_find?_eq_some h

/-- The default language is one of the registry. -/
theorem default_mem (registry : Registry) : registry.default ∈ registry.rules :=
  List.head_mem registry.nonempty

/-- **Every name stands for a language of the registry.** -/
theorem resolve_mem (registry : Registry) (name : Option String) :
    registry.resolve name ∈ registry.rules := by
  unfold resolve
  cases hrule : registry.get? name with
  | none => exact default_mem registry
  | some rule => exact mem_of_get?_eq_some hrule

/-- **The built-in languages**, one by one. -/
theorem mem_rules_builtin {rule : Rule} : rule ∈ builtin.rules ↔
    rule = Builtin.Java.rule ∨ rule = Builtin.Python.rule ∨ rule = Builtin.JavaScript.rule ∨
      rule = Builtin.Cpp.rule ∨ rule = Builtin.CSharp.rule ∨ rule = Builtin.Sql.rule ∨
      rule = Builtin.Html.rule ∨ rule = Builtin.Css.rule := by
  simp only [builtin, ofNonempty, builtinRules, List.mem_cons, List.not_mem_nil, or_false]

end SourceLens.Registry
