import SourceLens.Highlight.Segment

/-!
# Highlighted text in a terminal

Each segment is written between escape sequences: its colour, its weight, and
a reset after it. Keywords are bold.
-/

namespace SourceLens

/-- A colour by its red, green and blue components. -/
structure Colour where
  red : Int
  green : Int
  blue : Int
  deriving DecidableEq, Repr

/-- A colour that no terminal has: a component is not between 0 and 255. -/
structure UnknownColour where
  colour : Colour
  deriving DecidableEq, Repr

/-- What the error says. -/
def UnknownColour.message (error : UnknownColour) : String :=
  "Unknown color (" ++ ", ".intercalate
    [toString error.colour.red, toString error.colour.green, toString error.colour.blue] ++ ")"

namespace Ansi

/-- The character that starts every escape sequence. -/
def escapeChar : Char := '\x1b'

/-- The escape sequence with some parameters. -/
def sequence (parameters : String) : List Char :=
  escapeChar :: '[' :: parameters.toList ++ ['m']

/-- The end of all styles. -/
def reset : List Char := sequence "0"

/-- A component that terminals have. -/
def isComponent (value : Int) : Bool :=
  0 ≤ value && value ≤ 255

/-- The escape sequence of a foreground colour. -/
def foreground (colour : Colour) : Except UnknownColour (List Char) :=
  if isComponent colour.red && isComponent colour.green && isComponent colour.blue then
    .ok (sequence ("38;2;" ++ ";".intercalate
      [toString colour.red, toString colour.green, toString colour.blue]))
  else .error ⟨colour⟩

/-- The escape sequence of a weight. -/
def weight (bold : Bool) : List Char :=
  sequence (if bold then "1" else "22")

/-- The colours of tags. -/
abbrev Palette := List (String × Colour)

/-- **The colours of a dark theme.** -/
def darkPalette : Palette := [
  ("keyword", ⟨86, 156, 214⟩),
  ("string", ⟨206, 145, 120⟩),
  ("comment", ⟨106, 153, 85⟩),
  ("number", ⟨181, 206, 168⟩),
  ("operator", ⟨212, 212, 212⟩),
  ("builtin", ⟨220, 220, 170⟩),
  ("annotation", ⟨220, 220, 170⟩),
  ("preprocessor", ⟨197, 134, 192⟩),
  ("tag", ⟨86, 156, 214⟩),
  ("attribute", ⟨156, 220, 254⟩),
  (defaultTag, ⟨212, 212, 212⟩)]

/-- The colour of a tag, or else that of the default tag. -/
def colourOf (palette : Palette) (tag : String) : Option Colour :=
  match palette.lookup tag with
  | some colour => some colour
  | none => palette.lookup defaultTag

/-- A segment with the styles of its tag. -/
def segment (palette : Palette) (s : Segment) : Except UnknownColour (List Char) := do
  let colour ← match colourOf palette s.tag with
    | some colour => foreground colour
    | none => pure []
  return colour ++ weight (s.tag == "keyword") ++ s.chars.toList ++ reset

/-- The segments one after the other, up to the first whose colour is
unknown. -/
def segments (palette : Palette) : List Segment → Except UnknownColour (List Char)
  | [] => .ok []
  | s :: rest => do
    let shown ← segment palette s
    let later ← segments palette rest
    return shown ++ later

/-- **A text with its spans for a terminal.** An empty palette stands for the
dark theme. -/
def render (text : Text) (spans : List Span) (palette : Palette) :
    Except UnknownColour String :=
  let palette := if palette.isEmpty then darkPalette else palette
  (segments palette (Segment.cut text spans)).map String.ofList

/-! ## Removing escape sequences -/

/-- What follows an escape sequence, of which the introducer has been read:
parameters, then a letter. -/
def afterParameters? : List Char → Option (List Char)
  | [] => none
  | c :: rest =>
    if c == ';' || c == '?' || c.isDigit then afterParameters? rest
    else if c.isAlpha then some rest
    else none

/-- The characters outside of escape sequences, after those read before, which
are reversed. The first argument bounds the characters to read. -/
def stripOnto : Nat → List Char → List Char → List Char
  | 0, read, cs => read.reverse ++ cs
  | _ + 1, read, [] => read.reverse
  | steps + 1, read, c :: rest =>
    let after := match c == escapeChar, rest with
      | true, '[' :: more => afterParameters? more
      | _, _ => none
    match after with
    | some after => stripOnto steps read after
    | none => stripOnto steps (c :: read) rest

/-- **A text without its escape sequences.** -/
def strip (s : String) : String :=
  let cs := s.toList
  String.ofList (stripOnto cs.length [] cs)

end Ansi

end SourceLens
