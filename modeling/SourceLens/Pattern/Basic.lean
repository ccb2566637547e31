import SourceLens.Pattern.CharSet
import SourceLens.Text.Basic

/-!
# Patterns

A pattern describes stretches of a text. Patterns are regular expressions with
a fixed order of preference: of the ways in which one can match at an offset,
the first is the match. This module holds their structure and the building
blocks that the built-in languages are written with.
-/

namespace SourceLens

/-- A condition on an offset of a text. -/
inductive Anchor where
  /-- The start of the text. -/
  | textStart
  /-- The end of the text. -/
  | textEnd
  /-- The end of the text, or the place before a line feed that ends it. -/
  | finalLineEnd
  /-- The start of the text or of a line. -/
  | lineStart
  /-- The end of the text or of a line. -/
  | lineEnd
  /-- A border between a word character and something else (`inside`), or no
  such border. An empty text has neither. -/
  | wordEdge (inside asciiOnly : Bool)
  deriving DecidableEq, Repr

/-- A character that words are made of stands at this offset. -/
def wordAt (text : Text) (asciiOnly : Bool) (offset : Nat) : Bool :=
  match text[offset]? with
  | some c => CharKind.word.contains asciiOnly c
  | none => false

/-- **The condition holds** at an offset. -/
def Anchor.holds (anchor : Anchor) (text : Text) (offset : Nat) : Bool :=
  match anchor with
  | .textStart => offset == 0
  | .textEnd => offset == text.size
  | .finalLineEnd =>
    offset == text.size || (offset + 1 == text.size && text.hasAt offset '\n')
  | .lineStart => offset == 0 || text.hasAt (offset - 1) '\n'
  | .lineEnd => offset == text.size || text.hasAt offset '\n'
  | .wordEdge inside asciiOnly =>
    text.size != 0 &&
      ((offset != 0 && wordAt text asciiOnly (offset - 1)) != wordAt text asciiOnly offset) == inside

/-- **A pattern.** -/
inductive Pattern where
  /-- Matches the empty stretch. -/
  | empty
  /-- One character of a set. -/
  | char (set : CharSet)
  /-- The empty stretch, where a condition holds. -/
  | anchor (anchor : Anchor)
  /-- One pattern after the other. -/
  | seq (first second : Pattern)
  /-- The first pattern, or else the second. -/
  | alt (first second : Pattern)
  /-- A run of characters of a set: at least `least`, at most `most` if there
  is a bound; as many as possible if `greedy`, else as few as possible. -/
  | chars (set : CharSet) (least : Nat) (most : Option Nat) (greedy : Bool)
  /-- A pattern several times, bounded and preferred as a run of characters
  is. -/
  | repeated (body : Pattern) (least : Nat) (most : Option Nat) (greedy : Bool)
  /-- A pattern whose stretch is remembered under a number and perhaps a
  name. -/
  | group (index : Nat) (name : Option String) (body : Pattern)
  /-- The empty stretch, where the pattern matches what follows (or does
  not). -/
  | ahead (holds : Bool) (body : Pattern)
  /-- The empty stretch, where the pattern matches the `width` characters
  before (or does not). -/
  | behind (holds : Bool) (width : Nat) (body : Pattern)
  deriving DecidableEq, Repr

namespace Pattern

/-- Several patterns in a row. -/
def concat : List Pattern → Pattern
  | [] => .empty
  | [p] => p
  | p :: rest => .seq p (concat rest)

/-- The first of several patterns that matches. No pattern at all matches the
empty stretch. -/
def choice : List Pattern → Pattern
  | [] => .empty
  | [p] => p
  | p :: rest => .alt p (choice rest)

/-- A pattern several times. Repeating a single character is a run of
characters. -/
def times (body : Pattern) (least : Nat) (most : Option Nat) (greedy : Bool) : Pattern :=
  match body with
  | .char set => .chars set least most greedy
  | body => .repeated body least most greedy

/-- Any number of times, as often as possible. -/
def star (body : Pattern) : Pattern := body.times 0 none true

/-- At least once, as often as possible. -/
def plus (body : Pattern) : Pattern := body.times 1 none true

/-- Once if possible. -/
def opt (body : Pattern) : Pattern := body.times 0 (some 1) true

/-- Any number of times, as seldom as possible. -/
def starLazy (body : Pattern) : Pattern := body.times 0 none false

/-- At least once, as seldom as possible. -/
def plusLazy (body : Pattern) : Pattern := body.times 1 none false

/-- One given character. -/
def only (c : Char) : Pattern := .char (.single c)

/-- The characters of a string, one after the other. -/
def literal (s : String) : Pattern :=
  concat (s.toList.map only)

/-- One character of one of several sets. -/
def inside (sets : List CharSet) : Pattern := .char (.union sets)

/-- One character that is in none of several sets. -/
def outside (sets : List CharSet) : Pattern := .char (CharSet.union sets).compl

/-- One of the characters of a string. -/
def oneOf (s : String) : Pattern := inside [.oneOf s]

/-- Any character that is not in a string. -/
def noneOf (s : String) : Pattern := outside [.oneOf s]

/-- The end of the text. -/
def textEnd : Pattern := .anchor .textEnd

/-- The start of a line. -/
def lineStart : Pattern := .anchor .lineStart

/-- A border of a word. -/
def edge : Pattern := .anchor (.wordEdge true false)

/-- **One of the words of a list, as a whole.** -/
def wordOf (words : List String) : Pattern :=
  concat [edge, choice (words.map literal), edge]

/-- The pattern without regard to case. -/
def ignoringCase : Pattern → Pattern
  | .char set => .char set.ignoringCase
  | .chars set least most greedy => .chars set.ignoringCase least most greedy
  | .seq p q => .seq p.ignoringCase q.ignoringCase
  | .alt p q => .alt p.ignoringCase q.ignoringCase
  | .repeated p least most greedy => .repeated p.ignoringCase least most greedy
  | .group index name p => .group index name p.ignoringCase
  | .ahead holds p => .ahead holds p.ignoringCase
  | .behind holds width p => .behind holds width p.ignoringCase
  | .empty => .empty
  | .anchor condition => .anchor condition

/-- The number of groups: the greatest number that a group has. -/
def groupCount : Pattern → Nat
  | .seq p q | .alt p q => max p.groupCount q.groupCount
  | .repeated p _ _ _ | .ahead _ p | .behind _ _ p => p.groupCount
  | .group index _ p => max index p.groupCount
  | .empty | .char _ | .anchor _ | .chars .. => 0

end Pattern

end SourceLens
