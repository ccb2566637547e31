import SourceLens.Text.Blank
import SourceLens.Text.Digit

/-!
# Integers in text

An integer is written with decimal digits of any script, a sign before them if
there is one, and blanks around the whole. A single underscore may separate
two digits.
-/

namespace SourceLens.Integer

/-- The greatest number of digits that are read. -/
def mostDigits : Nat := 4300

/-- A blank that may stand around an integer: every blank character except for
the information separators. -/
def isPadding (c : Char) : Bool :=
  CharClass.isBlank c && !(0x1C ≤ c.toNat && c.toNat ≤ 0x1F)

/-- The value of a decimal digit. The digits of a script are ten code points
in a row, and so are those of scripts that follow each other without a gap. -/
def digitValue (c : Char) : Nat :=
  if c.isDigit then c.toNat - 48
  else
    match CharClass.digitTable.ranges.find? fun range =>
      range.1 ≤ c.toNat && c.toNat ≤ range.2 with
    | some (first, _) => (c.toNat - first) % 10
    | none => 0

/-- The values of the digits after a digit, if the characters are digits and
single underscores between them. -/
def digitsAfter? : List Char → Option (List Nat)
  | [] => some []
  | '_' :: c :: rest =>
    if CharClass.isDigit c then (digitsAfter? rest).map (digitValue c :: ·) else none
  | c :: rest =>
    if CharClass.isDigit c then (digitsAfter? rest).map (digitValue c :: ·) else none

/-- The number that some characters write, without a sign. -/
def magnitude? : List Char → Option Nat
  | [] => none
  | c :: rest =>
    if CharClass.isDigit c then
      match digitsAfter? rest with
      | some digits =>
        if digits.length < mostDigits then
          some ((digitValue c :: digits).foldl (fun value digit => value * 10 + digit) 0)
        else none
      | none => none
    else none

/-- The number that some characters write, with its sign. -/
def signed? : List Char → Option Int
  | '-' :: rest => (magnitude? rest).map fun n => -(n : Int)
  | '+' :: rest => (magnitude? rest).map fun n => (n : Int)
  | cs => (magnitude? cs).map fun n => (n : Int)

/-- **The integer that a string writes**, if it writes one. -/
def read? (s : String) : Option Int :=
  signed? ((s.toList.dropWhile isPadding).reverse.dropWhile isPadding).reverse

end SourceLens.Integer
