import SourceLens.Language.Registry
import SourceLens.Token.Span

/-!
# Tokens

A text is divided into tokens by looking, from a cursor on, for the first
match of the token pattern of its language. Among the matches at one offset
the category of highest priority wins. An empty match is no token and is
stepped over; what no token covers stays untagged.
-/

namespace SourceLens

/-- **A token**: where it is and how it is shown, and its characters. -/
structure Token where
  span : Span
  lexeme : Text
  deriving DecidableEq, Repr

/-- A match of the token pattern that belongs to no category: the name of the
group that was closed last, if it has one. A language whose definition joins
to a pattern with further groups has such matches. -/
structure UnknownCategory where
  group : Option String
  deriving DecidableEq, Repr

/-- What the error says. -/
def UnknownCategory.message (error : UnknownCategory) : String :=
  quotedOption error.group

/-- The span of a match that is not empty. -/
def Span.ofMatch (m : Match) (tag : String) (h : m.start < m.stop) : Span :=
  ⟨m.start, m.stop, tag, Nat.le_of_lt h⟩

namespace Rule

/-- The tag of a match of the token pattern: that of the category whose group
was closed last. -/
def tagOf (rule : Rule) (m : Match) : Except UnknownCategory String :=
  let name := m.lastGroup?.bind (·.name)
  match name.bind (rule.styles.lookup ·) with
  | some tag => .ok tag
  | none => .error ⟨name⟩

/-- The tokens at or after an offset. Every match leads to a later offset, so
`steps` of the characters left are enough. -/
def tokensFrom (rule : Rule) (pattern : Pattern) (text : Text) :
    Nat → Nat → Except UnknownCategory (List Token)
  | 0, _ => .ok []
  | steps + 1, offset =>
    if text.size ≤ offset then .ok []
    else
      match pattern.search text offset with
      | none => .ok []
      | some m =>
        if h : m.start < m.stop then do
          let tag ← rule.tagOf m
          let token : Token := ⟨.ofMatch m tag h, text.slice m.start m.stop⟩
          let later ← tokensFrom rule pattern text steps m.stop
          return token :: later
        else tokensFrom rule pattern text steps (m.start + 1)

/-- **The tokens of a text**, in order. -/
def tokenize (rule : Rule) (text : Text) : Except UnknownCategory (List Token) :=
  match rule.tokens with
  | none => .ok []
  | some pattern => rule.tokensFrom pattern text text.size 0

/-- The spans of the tokens of a text. -/
def spans (rule : Rule) (text : Text) : Except UnknownCategory (List Span) :=
  (rule.tokenize text).map fun tokens => tokens.map (·.span)

end Rule

end SourceLens
