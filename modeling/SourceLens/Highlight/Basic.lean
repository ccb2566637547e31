import SourceLens.Highlight.Buffer
import SourceLens.Notice

/-!
# Highlighting a text

A text is highlighted by a registry: the language is looked up, the text is
divided into tokens, and their spans are applied to a buffer. An unknown
language is highlighted as the default one.
-/

namespace SourceLens

/-- Why a text cannot be highlighted. -/
inductive HighlightError where
  | unknownCategory (cause : UnknownCategory)
  | buffer (cause : BufferError)
  deriving DecidableEq, Repr

/-- What an error says. -/
def HighlightError.message : HighlightError → String
  | .unknownCategory cause => cause.message
  | .buffer cause => cause.message

/-- **The outcome of highlighting**: the buffer afterwards, the spans or an
error, and what there is to report. -/
structure Highlighting where
  buffer : TagBuffer
  spans : Except HighlightError (List Span)
  notices : List Notice

namespace Registry

/-- The language that a text is highlighted in. -/
def ruleFor (registry : Registry) (language : Option String) : Rule × List Notice :=
  match registry.get? language with
  | some rule => (rule, [])
  | none => (registry.default, [.defaultRule language registry.default.key])

/-- **Highlights a text** in a buffer that may be longer than the text. If the
buffer is too short, nothing is changed. -/
def highlight (registry : Registry) (buffer : TagBuffer) (text : Text)
    (language : Option String) : Highlighting :=
  let (rule, notices) := registry.ruleFor language
  match rule.spans text with
  | .error cause => ⟨buffer, .error (.unknownCategory cause), notices⟩
  | .ok spans =>
    match buffer.applyHighlighting text spans with
    | (buffer, some cause) => ⟨buffer, .error (.buffer cause), notices⟩
    | (buffer, none) => ⟨buffer, .ok spans, notices ++ [.highlighted spans.length text.size]⟩

/-- Highlights a text in a buffer of its length. -/
def highlightText (registry : Registry) (text : Text) (language : Option String) :
    Highlighting :=
  registry.highlight (.blank text.size) text language

end Registry

end SourceLens
