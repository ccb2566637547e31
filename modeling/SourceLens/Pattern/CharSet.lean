import SourceLens.Text.Blank
import SourceLens.Text.Digit
import SourceLens.Text.IgnoreCase
import SourceLens.Text.Word

/-!
# Character sets of patterns

The set of characters that one position of a pattern accepts: ranges of code
points and kinds of characters, possibly complemented, and compared with or
without regard to case.
-/

namespace SourceLens

/-- A kind of character that a pattern can ask for by name. -/
inductive CharKind where
  | word
  | digit
  | blank
  deriving DecidableEq, Repr

/-- The characters of a kind: of every script, or those of ASCII alone. -/
def CharKind.contains (kind : CharKind) (asciiOnly : Bool) (c : Char) : Bool :=
  match kind with
  | .word => if asciiOnly then c.isAlphanum || c == '_' else CharClass.isWord c
  | .digit => if asciiOnly then c.isDigit else CharClass.isDigit c
  | .blank =>
    if asciiOnly then c == ' ' || (0x09 ≤ c.toNat && c.toNat ≤ 0x0D) else CharClass.isBlank c

/-- How a set compares characters. -/
inductive CaseMode where
  /-- By code point. -/
  | exact
  /-- Up to the case of any letter. -/
  | folded
  /-- Up to the case of the letters `a` to `z`. -/
  | foldedAscii
  deriving DecidableEq, Repr

/-- The code points that a set treats as the character `c`. -/
def CaseMode.variants (mode : CaseMode) (c : Char) : List Nat :=
  match mode with
  | .exact => [c.toNat]
  | .folded => caseVariants c
  | .foldedAscii => [c.toNat, c.toLower.toNat, c.toUpper.toNat]

/-- One item of a character set. -/
inductive CharItem where
  /-- The code points from `first` to `last`, both included. -/
  | range (first last : Nat)
  /-- The characters of a kind, or all but those. -/
  | ofKind (kind : CharKind) (inside : Bool)
  deriving DecidableEq, Repr

/-- **A set of characters**, as a pattern writes it. -/
structure CharSet where
  items : List CharItem
  /-- The set holds what no item holds. -/
  complement : Bool
  mode : CaseMode
  /-- Kinds stand for their ASCII members. -/
  asciiOnly : Bool
  deriving DecidableEq, Repr

/-- The item holds the character, or a variant of it. -/
def CharItem.contains (item : CharItem) (mode : CaseMode) (asciiOnly : Bool) (c : Char) : Bool :=
  match item with
  | .range first last =>
    match mode with
    | .exact => first ≤ c.toNat && c.toNat ≤ last
    | mode => (mode.variants c).any fun code => first ≤ code && code ≤ last
  | .ofKind kind inside => kind.contains asciiOnly c == inside

namespace CharSet

/-- **Membership.** -/
def contains (set : CharSet) (c : Char) : Bool :=
  (set.items.any fun item => item.contains set.mode set.asciiOnly c) != set.complement

/-- The set of some items, comparing by code point. -/
def ofItems (items : List CharItem) : CharSet :=
  ⟨items, false, .exact, false⟩

/-- The set of one character. -/
def single (c : Char) : CharSet :=
  ofItems [.range c.toNat c.toNat]

/-- The set of the characters of a string. -/
def oneOf (s : String) : CharSet :=
  ofItems (s.toList.map fun c => .range c.toNat c.toNat)

/-- Everything that is not in a set. -/
def compl (set : CharSet) : CharSet :=
  { set with complement := !set.complement }

/-- The characters of any of several sets, which compare by code point and are
not complements. -/
def union (sets : List CharSet) : CharSet :=
  ofItems (sets.flatMap (·.items))

/-- The set without regard to case. -/
def ignoringCase (set : CharSet) : CharSet :=
  { set with mode := .folded }

/-- The characters between two, both included. -/
def between (first last : Char) : CharSet :=
  ofItems [.range first.toNat last.toNat]

/-- Word characters: letters, numbers and the underscore. -/
def word : CharSet := ofItems [.ofKind .word true]

/-- Decimal digits. -/
def digit : CharSet := ofItems [.ofKind .digit true]

/-- Blank characters. -/
def blank : CharSet := ofItems [.ofKind .blank true]

/-- Every character. -/
def any : CharSet := ofItems [.ofKind .blank true, .ofKind .blank false]

end CharSet

end SourceLens
