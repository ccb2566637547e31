import SourceLens.Text.Blank

/-!
# Source texts

A source text is an array of characters, and every offset in the library
counts characters from the start of its text. A slice clamps its ends to the
text, so any two offsets name one.
-/

namespace SourceLens

/-- **A source text**: its characters, addressed by offset. -/
abbrev Text := Array Char

namespace Text

/-- The characters of a string. -/
def ofString (s : String) : Text :=
  s.toList.toArray

/-- The text as a string. -/
def toString (text : Text) : String :=
  String.ofList text.toList

/-- The characters from `start` up to `stop`, exclusive. Offsets beyond the
text stand for its end, and a slice that ends before it starts is empty. -/
def slice (text : Text) (start stop : Nat) : Text :=
  text.extract start stop

/-- The character at an offset is there and is `c`. -/
def hasAt (text : Text) (offset : Nat) (c : Char) : Bool :=
  text[offset]? == some c

/-- Some character is not blank. -/
def hasInk (text : Text) : Bool :=
  text.any fun c => !CharClass.isBlank c

end Text

/-- A list of characters without the blanks at both its ends. -/
def stripBlanks (cs : List Char) : List Char :=
  ((cs.dropWhile CharClass.isBlank).reverse.dropWhile CharClass.isBlank).reverse

/-- The maximal runs of non-blank characters, in order. The first argument is
the run being read, reversed. -/
def blankSeparatedAfter : List Char → List Char → List (List Char)
  | run, [] => if run.isEmpty then [] else [run.reverse]
  | run, c :: rest =>
    if CharClass.isBlank c then
      if run.isEmpty then blankSeparatedAfter [] rest
      else run.reverse :: blankSeparatedAfter [] rest
    else blankSeparatedAfter (c :: run) rest

/-- **The words of a text**: what stands between its blanks. -/
def blankSeparated (cs : List Char) : List (List Char) :=
  blankSeparatedAfter [] cs

end SourceLens
