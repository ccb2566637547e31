import SourceLens.Language.Rule
import SourceLens.Pattern.Parser
import SourceLens.Text.Quoted

/-!
# Defining languages

A language can be defined by its users, with patterns written as text. The
patterns of the token categories are joined into one alternation of named
groups, written as text too, and it is this text that is read: a definition
means what its joined pattern means.
-/

namespace SourceLens

/-- Why a definition is refused. -/
inductive DefinitionError where
  /-- The name of a category is not an identifier. -/
  | notIdentifier (name : String)
  /-- A pattern cannot be read. -/
  | pattern (cause : PatternError)
  /-- The pattern of a category has groups of its own. -/
  | capturingGroup (category : String)
  /-- Two categories have one name. -/
  | duplicateCategory (rule : String)
  /-- Functions are to be found, but not how their bodies end. -/
  | missingBlockStyle (rule : String)
  deriving DecidableEq, Repr

/-- What an error says. Most unreadable patterns say nothing more. -/
def DefinitionError.message : DefinitionError → String
  | .notIdentifier name => "Category name must be an identifier: " ++ quoted name
  | .pattern .repetitionTooLarge => "the repetition number is too large"
  | .pattern .scriptsInConflict => "ASCII and UNICODE flags are incompatible"
  | .pattern _ => ""
  | .capturingGroup category =>
    "Category " ++ quoted category ++ " must use non-capturing groups only"
  | .duplicateCategory rule => "Duplicate token category in rule " ++ quoted rule
  | .missingBlockStyle rule => "Rule " ++ quoted rule ++ " needs a block style for extraction"

/-- **The definition of a token category.** -/
structure CategoryDefinition where
  name : String
  pattern : String
  tag : String
  /-- Options of the pattern, packed into a number. -/
  options : Nat
  deriving DecidableEq, Repr

namespace CategoryDefinition

/-- The pattern of a category by itself, under all its options. -/
def alone (category : CategoryDefinition) : Except PatternError Pattern :=
  Pattern.parse (.ofBits category.options) category.pattern.toList

/-- A category that may take part in a language: it is named by an identifier,
its pattern can be read, and the pattern has no groups. -/
def check (category : CategoryDefinition) : Except DefinitionError Unit := do
  if !CharClass.isIdentifier category.name.toList then throw (.notIdentifier category.name)
  let pattern ← category.alone.mapError .pattern
  if pattern.groupCount != 0 then throw (.capturingGroup category.name)

/-- The letters of the options that are kept in the joined pattern. -/
def optionLetters (category : CategoryDefinition) : List Char :=
  let options := PatternOptions.ofBits category.options
  (if options.ignoreCase then ['i'] else []) ++ (if options.multiline then ['m'] else [])
    ++ (if options.dotAll then ['s'] else [])

/-- The pattern of a category inside the joined pattern: in a group with its
options, if it has any that are kept. -/
def withOptions (category : CategoryDefinition) : String :=
  match category.optionLetters with
  | [] => category.pattern
  | letters => "(?" ++ String.ofList letters ++ ":" ++ category.pattern ++ ")"

/-- **A category as a named alternative** of the joined pattern. -/
def alternative (category : CategoryDefinition) : String :=
  "(?P<" ++ category.name ++ ">" ++ category.withOptions ++ ")"

end CategoryDefinition

/-- **The definition of a language.** -/
structure RuleDefinition where
  key : String
  categories : List CategoryDefinition
  aliases : List String
  /-- The pattern of function headers; the empty text is none. -/
  header : Option String
  blockStyle : Option String
  extension : String
  deriving DecidableEq, Repr

namespace RuleDefinition

/-- The joined pattern of the token categories, as text. -/
def joined (definition : RuleDefinition) : Option String :=
  if definition.categories.isEmpty then none
  else some ("|".intercalate (definition.categories.map (·.alternative)))

/-- The pattern of function headers, if there is one. -/
def header? (definition : RuleDefinition) : Option String :=
  definition.header.filter (!·.isEmpty)

/-- Reads an optional pattern. -/
def read? (options : PatternOptions) : Option String → Except DefinitionError (Option Pattern)
  | none => .ok none
  | some written => ((Pattern.parse options written.toList).map some).mapError .pattern

/-- **Makes a language of its definition.** In headers, `^` and `$` stand for
the borders of lines.

A definition is refused where a pattern of its refers to a group (`(?P=name)`,
`\1`), asks for one (`(?(1)…)`), gives nothing back (`(?>…)`, `a++`) or calls a
character by its name (`\N` and braces). Elsewhere these are patterns; what is
shown of compiled languages does not reach them. -/
def compile (definition : RuleDefinition) : Except DefinitionError Rule := do
  definition.categories.forM (·.check)
  if !(definition.categories.map (·.name)).Nodup then throw (.duplicateCategory definition.key)
  let style := definition.blockStyle.bind BlockStyle.ofName?
  if definition.header?.isSome && style.isNone then throw (.missingBlockStyle definition.key)
  let tokens ← read? {} definition.joined
  let header ← read? { multiline := true } definition.header?
  return {
    key := definition.key
    aliases := definition.aliases
    extension := definition.extension
    styles := definition.categories.map fun c => (c.name, c.tag)
    tokens
    functions := do return ⟨← style, ← header⟩ }

end RuleDefinition

end SourceLens
