import SourceLens.Language.Builtin.Cpp
import SourceLens.Language.Builtin.CSharp
import SourceLens.Language.Builtin.Css
import SourceLens.Language.Builtin.Html
import SourceLens.Language.Builtin.Java
import SourceLens.Language.Builtin.JavaScript
import SourceLens.Language.Builtin.Python
import SourceLens.Language.Builtin.Sql
import SourceLens.Text.LowerCase
import SourceLens.Text.Basic
import SourceLens.Text.Quoted

/-!
# Registries of languages

A registry finds a language by its key or by another name of it. Case and the
blanks around a name do not count. A key goes before a name, and of two
languages with one name the language registered first has it.
-/

namespace SourceLens

/-- Why some languages do not make a registry. -/
inductive RegistryError where
  /-- Two keys differ in case at most; the second of them. -/
  | duplicateKey (key : String)
  /-- There is no language. -/
  | empty
  deriving DecidableEq, Repr

/-- What an error says. -/
def RegistryError.message : RegistryError → String
  | .duplicateKey key => "Duplicate language key: " ++ quoted key
  | .empty => "A language registry needs at least one rule"

/-- **A registry.** -/
structure Registry where
  /-- The languages in order of registration. -/
  rules : List Rule
  nonempty : rules ≠ []
  /-- The lower-case key that a name stands for. -/
  names : List (String × String)

namespace Registry

/-- Enters a name, and lets it stand for a key from now on. -/
def assign (names : List (String × String)) (name key : String) : List (String × String) :=
  (name, key) :: names

/-- Enters a name that has no key so far. -/
def assignNew (names : List (String × String)) (name key : String) : List (String × String) :=
  if (names.lookup name).isSome then names else (name, key) :: names

/-- Enters the names of a language: its key in any case, its other names where
they are free. -/
def enter (names : List (String × String)) (rule : Rule) : List (String × String) :=
  let key := lower rule.key
  rule.aliases.foldl (fun names other => assignNew names (lower other) key)
    (assign names key key)

/-- The registry of some languages. -/
def ofNonempty (rules : List Rule) (nonempty : rules ≠ []) : Registry where
  rules
  nonempty
  names := rules.foldl enter []

/-- The first key that is among the keys seen or repeats one before it. -/
def firstRepeated? : List String → List Rule → Option String
  | _, [] => none
  | seen, rule :: rest =>
    let key := lower rule.key
    if seen.contains key then some rule.key else firstRepeated? (key :: seen) rest

/-- **Makes a registry** of languages with different keys, at least one. -/
def ofRules (rules : List Rule) : Except RegistryError Registry :=
  match firstRepeated? [] rules with
  | some key => .error (.duplicateKey key)
  | none => if nonempty : rules = [] then .error .empty else .ok (ofNonempty rules nonempty)

/-- **The language that unknown names stand for**: the first one. -/
def default (registry : Registry) : Rule :=
  registry.rules.head registry.nonempty

/-- The language of a lower-case key. -/
def ofKey? (registry : Registry) (key : String) : Option Rule :=
  registry.rules.find? fun rule => lower rule.key == key

/-- **Finds a language.** The empty name stands for none, and neither does a
name of a language whose key is empty. -/
def get? (registry : Registry) : Option String → Option Rule
  | none => none
  | some name =>
    if name.isEmpty then none
    else
      let wanted := lower (String.ofList (stripBlanks name.toList))
      match registry.names.lookup wanted with
      | none => none
      | some key => if key.isEmpty then none else registry.ofKey? key

/-- Finds a language, or else the default one. -/
def resolve (registry : Registry) (name : Option String) : Rule :=
  (registry.get? name).getD registry.default

/-- A name stands for a language of its own. What is no name does not. -/
def contains (registry : Registry) (name : Option String) : Bool :=
  (registry.get? name).isSome

/-- The keys in lower case, in order of registration. -/
def keys (registry : Registry) : List String :=
  registry.rules.map fun rule => lower rule.key

/-- The languages that need no definition, in order of registration. -/
def builtinRules : List Rule := [
  Builtin.Java.rule, Builtin.Python.rule, Builtin.JavaScript.rule, Builtin.Cpp.rule,
  Builtin.CSharp.rule, Builtin.Sql.rule, Builtin.Html.rule, Builtin.Css.rule]

/-- **The built-in registry.** -/
def builtin : Registry :=
  ofNonempty builtinRules (by simp [builtinRules])

end Registry

end SourceLens
