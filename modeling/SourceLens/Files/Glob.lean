/-!
# Glob patterns

Glob patterns select names: a star stands for any characters, a question mark
for one, and brackets for one of a set, with ranges and, after an exclamation
mark, a complement. There are no escapes. A bracket that is never closed
stands for itself, and a range whose ends are in the wrong order is empty. A
pattern has to match the whole name, and case counts.
-/

namespace SourceLens

/-- One part of a glob pattern. -/
inductive GlobPart where
  /-- Any characters. -/
  | any
  /-- One character. -/
  | one
  /-- One given character. -/
  | only (c : Char)
  /-- One character in some ranges, or in none of them. -/
  | inRanges (complement : Bool) (ranges : List (Char × Char))
  deriving DecidableEq, Repr

namespace GlobPart

/-- The parts that stand for one character each. -/
def accepts (part : GlobPart) (c : Char) : Bool :=
  match part with
  | .any => false
  | .one => true
  | .only d => c == d
  | .inRanges complement ranges =>
    (ranges.any fun (first, last) => first ≤ c && c ≤ last) != complement

end GlobPart

namespace Glob

/-- The ranges of a set. A hyphen between two characters makes a range, unless
the first of them ends a range itself. -/
def ranges : List Char → List (Char × Char)
  | first :: '-' :: last :: rest =>
    if first ≤ last then (first, last) :: ranges rest else ranges rest
  | c :: rest => (c, c) :: ranges rest
  | [] => []

/-- The characters of a set and what follows its closing bracket. A bracket in
the first place is a character. The characters read are reversed. -/
def setBody? : List Char → List Char → Option (List Char × List Char)
  | _, [] => none
  | read, c :: rest =>
    if c == ']' && !read.isEmpty then some (read.reverse, rest) else setBody? (c :: read) rest

/-- The set of some ranges. An exclamation mark that has come first because
empty ranges were left out makes a complement as well. -/
def setOf : List (Char × Char) → GlobPart
  | ('!', '!') :: rest => .inRanges true rest
  | ('!', last) :: rest => .inRanges true (('-', '-') :: (last, last) :: rest)
  | ranges => .inRanges false ranges

/-- The set after an opening bracket and what follows it, if the bracket is
closed. -/
def set? (cs : List Char) : Option (GlobPart × List Char) :=
  match cs with
  | '!' :: cs => (setBody? [] cs).map fun (body, rest) => (.inRanges true (ranges body), rest)
  | cs => (setBody? [] cs).map fun (body, rest) => (setOf (ranges body), rest)

/-- The parts of a pattern. Every round reads a character, so as many rounds as
characters are enough. -/
def partsWithin : Nat → List Char → List GlobPart
  | 0, _ => []
  | _ + 1, [] => []
  | rounds + 1, c :: rest =>
    if c == '*' then .any :: partsWithin rounds rest
    else if c == '?' then .one :: partsWithin rounds rest
    else if c == '[' then
      match set? rest with
      | some (part, rest) => part :: partsWithin rounds rest
      | none => .only '[' :: partsWithin rounds rest
    else .only c :: partsWithin rounds rest

/-- The parts of a pattern. -/
def parts (pattern : List Char) : List GlobPart :=
  partsWithin pattern.length pattern

/-- Some end of a list satisfies a test. -/
def anyTail {α : Type} (test : List α → Bool) : List α → Bool
  | [] => test []
  | a :: rest => test (a :: rest) || anyTail test rest

/-- **The parts match all of some characters.** -/
def matchesParts : List GlobPart → List Char → Bool
  | [], cs => cs.isEmpty
  | .any :: rest, cs => anyTail (matchesParts rest) cs
  | part :: rest, c :: cs => part.accepts c && matchesParts rest cs
  | _ :: _, [] => false

end Glob

/-- **The pattern selects the name.** -/
def globMatches (pattern name : String) : Bool :=
  Glob.matchesParts (Glob.parts pattern.toList) name.toList

end SourceLens
