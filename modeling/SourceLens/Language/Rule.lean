import SourceLens.Pattern.Matching

/-!
# Languages

What the library knows about a language: the categories of its tokens in
order of priority, the tag that each is shown with, and how a function is
announced in it and where its body ends.
-/

namespace SourceLens

/-- **A category of tokens**: its name, the tag it is shown with, and the
pattern of its tokens. The pattern has no groups. -/
structure Category where
  name : String
  tag : String
  pattern : Pattern

/-- How the body of a function is delimited. -/
inductive BlockStyle where
  /-- By braces, the first of which ends the header. -/
  | brace
  /-- By the next header that is not indented. -/
  | indent
  deriving DecidableEq, Repr

/-- The name of a block style in definitions of languages. -/
def BlockStyle.name : BlockStyle → String
  | .brace => "brace"
  | .indent => "indent"

/-- The block style of a name. -/
def BlockStyle.ofName? : String → Option BlockStyle
  | "brace" => some .brace
  | "indent" => some .indent
  | _ => none

/-- How functions are recognised: the pattern of their headers, and the style
of their bodies. The first group of the pattern that is not empty is the name
of the function. -/
structure FunctionSyntax where
  style : BlockStyle
  header : Pattern

/-- **A language.** -/
structure Rule where
  key : String
  /-- Other names of the language. -/
  aliases : List String
  /-- The extension of files that hold a single function. -/
  extension : String
  /-- The tag of each category, in order of priority. -/
  styles : List (String × String)
  /-- The pattern of all tokens: one named group for each category, in order of
  priority; none if there are no categories. -/
  tokens : Option Pattern
  functions : Option FunctionSyntax

namespace Rule

/-- The named alternatives of some categories, numbered from `index` on. -/
def alternatives : Nat → List Category → List Pattern
  | _, [] => []
  | index, c :: rest => .group index (some c.name) c.pattern :: alternatives (index + 1) rest

/-- The pattern of all tokens of some categories. -/
def join (categories : List Category) : Option Pattern :=
  if categories.isEmpty then none else some (Pattern.choice (alternatives 1 categories))

/-- A language with given categories. -/
def ofCategories (key : String) (aliases : List String) (extension : String)
    (categories : List Category) (functions : Option FunctionSyntax) : Rule where
  key
  aliases
  extension
  styles := categories.map fun c => (c.name, c.tag)
  tokens := join categories
  functions

/-- The tags of a language, each once, in order of first appearance. -/
def tags (rule : Rule) : List String :=
  (rule.styles.map (·.2)).eraseDups

/-- The library can find functions in this language. -/
def extracts (rule : Rule) : Bool :=
  rule.functions.isSome

end Rule

end SourceLens
