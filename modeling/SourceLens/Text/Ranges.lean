/-!
# Sets of code points

The properties of characters that the library needs – letters, blanks,
printable characters – are sets of code points given by tables of ranges.
This module holds the type of such a table and the look-up in it.
-/

namespace SourceLens

/-- **A set of code points**, as closed ranges in ascending order that do not
touch each other. -/
structure CodeRanges where
  /-- First and last code point of each range. -/
  ranges : Array (Nat × Nat)

namespace CodeRanges

/-- Halving search for the range around `code` between the indices `low`
(inclusive) and `high` (exclusive). The last argument bounds the number of
halvings. -/
def search (ranges : Array (Nat × Nat)) (code : Nat) : Nat → Nat → Nat → Bool
  | _, _, 0 => false
  | low, high, steps + 1 =>
    if low < high then
      let middle := (low + high) / 2
      match ranges[middle]? with
      | none => false
      | some (first, last) =>
        if code < first then search ranges code low middle steps
        else if last < code then search ranges code (middle + 1) high steps
        else true
    else false

/-- Membership. Every step of the search leaves out at least one range, so as
many steps as there are ranges are enough. -/
def contains (set : CodeRanges) (code : Nat) : Bool :=
  search set.ranges code 0 set.ranges.size (set.ranges.size + 1)

end CodeRanges

end SourceLens
