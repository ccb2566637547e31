import SourceLens.Pattern.Basic

/-!
# Matching patterns

A pattern is matched by trying its ways in order of preference. `Pattern.run`
hands every way, as soon as it is found, to a continuation that stands for the
rest of the work; when the continuation fails, the next way is tried. The
first way that the continuation accepts is the answer.

A repetition ends because each of its rounds has to move on. A round beyond
the least number that consumes nothing is allowed once, and then only the rest
of the work is tried.
-/

namespace SourceLens

/-- A stretch that a group of a pattern has matched. -/
structure GroupMatch where
  index : Nat
  name : Option String
  start : Nat
  stop : Nat
  deriving DecidableEq, Repr

/-- How far a match has come: an offset, and the groups closed so far, the
last one first. -/
structure Cursor where
  offset : Nat
  groups : List GroupMatch
  deriving DecidableEq, Repr

namespace Cursor

/-- The start of a match. -/
def start (offset : Nat) : Cursor := ⟨offset, []⟩

/-- The same groups at another offset. -/
def move (cur : Cursor) (offset : Nat) : Cursor := { cur with offset }

end Cursor

namespace Pattern

/-- What remains to be done after a pattern has matched. -/
abbrev Continuation := Cursor → Option Cursor

/-- The end of the run of characters of a set from an offset, of at most
`limit` characters. -/
def runEnd (text : Text) (set : CharSet) : Nat → Nat → Nat
  | offset, 0 => offset
  | offset, limit + 1 =>
    match text[offset]? with
    | some c => if set.contains c then runEnd text set (offset + 1) limit else offset
    | none => offset

/-- Tries the offsets from `low + extra` down to `low`. -/
def tryDown (cur : Cursor) (k : Continuation) (low : Nat) : Nat → Option Cursor
  | 0 => k (cur.move low)
  | extra + 1 =>
    match k (cur.move (low + (extra + 1))) with
    | some found => some found
    | none => tryDown cur k low extra

/-- Tries an offset, then the next ones as long as the characters between are
in a set, at most `limit` of them. -/
def tryUp (text : Text) (set : CharSet) (cur : Cursor) (k : Continuation) :
    Nat → Nat → Option Cursor
  | offset, 0 => k (cur.move offset)
  | offset, limit + 1 =>
    match k (cur.move offset) with
    | some found => some found
    | none =>
      match text[offset]? with
      | some c => if set.contains c then tryUp text set cur k (offset + 1) limit else none
      | none => none

/-- A run of characters. -/
def runChars (text : Text) (set : CharSet) (least : Nat) (most : Option Nat) (greedy : Bool)
    (cur : Cursor) (k : Continuation) : Option Cursor :=
  let low := runEnd text set cur.offset least
  if low < cur.offset + least then none
  else
    let room := text.size - low
    let limit := match most with
      | some most => min room (most - least)
      | none => room
    if greedy then tryDown cur k low (runEnd text set low limit - low)
    else tryUp text set cur k low limit

/-- A pattern a given number of times. -/
def runExactly (body : Cursor → Continuation → Option Cursor) :
    Nat → Cursor → Continuation → Option Cursor
  | 0, cur, k => k cur
  | rounds + 1, cur, k => body cur fun next => runExactly body rounds next k

/-- A pattern any number of times, `left` at most if that is a number. Every
round after which this goes on has consumed something, so `steps` need not be
larger than what remains of the text and one. -/
def runMore (body : Cursor → Continuation → Option Cursor) (greedy : Bool) :
    Nat → Option Nat → Cursor → Continuation → Option Cursor
  | 0, _, cur, k => k cur
  | steps + 1, left, cur, k =>
    let again (_ : Unit) : Option Cursor :=
      if left == some 0 then none
      else body cur fun next =>
        if next.offset == cur.offset then k next
        else runMore body greedy steps (left.map (· - 1)) next k
    if greedy then
      match again () with
      | some found => some found
      | none => k cur
    else
      match k cur with
      | some found => some found
      | none => again ()

/-- **Runs a pattern** from a cursor, and gives the first way that the
continuation accepts. -/
def run (text : Text) : Pattern → Cursor → Continuation → Option Cursor
  | .empty, cur, k => k cur
  | .char set, cur, k =>
    match text[cur.offset]? with
    | some c => if set.contains c then k (cur.move (cur.offset + 1)) else none
    | none => none
  | .anchor condition, cur, k => if condition.holds text cur.offset then k cur else none
  | .seq first second, cur, k => run text first cur fun next => run text second next k
  | .alt first second, cur, k =>
    match run text first cur k with
    | some found => some found
    | none => run text second cur k
  | .chars set least most greedy, cur, k => runChars text set least most greedy cur k
  | .repeated body least most greedy, cur, k =>
    runExactly (run text body) least cur fun next =>
      runMore (run text body) greedy (text.size - next.offset + 1)
        (most.map (· - least)) next k
  | .group index name body, cur, k =>
    run text body cur fun next =>
      k { next with groups := ⟨index, name, cur.offset, next.offset⟩ :: next.groups }
  | .ahead holds body, cur, k =>
    match run text body cur some with
    | some inner => if holds then k (inner.move cur.offset) else none
    | none => if holds then none else k cur
  | .behind holds width body, cur, k =>
    let seen :=
      if width ≤ cur.offset then run text body (cur.move (cur.offset - width)) some
      else none
    match seen with
    | some inner => if holds then k (inner.move cur.offset) else none
    | none => if holds then none else k cur

end Pattern

/-- **A match** of a pattern in a text: the stretch, and the groups closed on
the way, the last one first. -/
structure Match where
  start : Nat
  stop : Nat
  groups : List GroupMatch
  deriving DecidableEq, Repr

namespace Match

/-- The stretch that a group matched last, if it took part. -/
def group? (m : Match) (index : Nat) : Option GroupMatch :=
  m.groups.find? (·.index == index)

/-- The group that was closed last. -/
def lastGroup? (m : Match) : Option GroupMatch :=
  m.groups.head?

end Match

namespace Pattern

/-- The match at an offset, if the pattern matches there. -/
def matchAt (p : Pattern) (text : Text) (offset : Nat) : Option Match :=
  (p.run text (.start offset) some).map fun cur => ⟨offset, cur.offset, cur.groups⟩

/-- The match at an offset among those that are not empty. -/
def matchNonemptyAt (p : Pattern) (text : Text) (offset : Nat) : Option Match :=
  (p.run text (.start offset) fun cur =>
    if cur.offset == offset then none else some cur).map
      fun cur => ⟨offset, cur.offset, cur.groups⟩

/-- The match at the first of `count` offsets that has one. -/
def searchWithin (p : Pattern) (text : Text) : Nat → Nat → Option Match
  | _, 0 => none
  | offset, count + 1 =>
    match p.matchAt text offset with
    | some m => some m
    | none => searchWithin p text (offset + 1) count

/-- **The first match** at or after an offset. The text before the offset can
still be seen by anchors and look-behind. -/
def search (p : Pattern) (text : Text) (offset : Nat) : Option Match :=
  p.searchWithin text offset (text.size + 1 - offset)

/-- All matches from an offset on. After an empty match the next one must not
be empty at the same place. Each match moves the offset or sets this demand,
so `steps` of twice the offsets left are enough. -/
def findFrom (p : Pattern) (text : Text) : Nat → Nat → Bool → List Match
  | 0, _, _ => []
  | steps + 1, offset, moved =>
    if text.size < offset then []
    else
      let found :=
        if moved then p.search text offset
        else
          match p.matchNonemptyAt text offset with
          | some m => some m
          | none => p.search text (offset + 1)
      match found with
      | none => []
      | some m => m :: findFrom p text steps m.stop (m.start != m.stop)

/-- **All matches in a text**, from left to right, without overlap. -/
def findAll (p : Pattern) (text : Text) : List Match :=
  p.findFrom text (2 * text.size + 2) 0 true

end Pattern

end SourceLens
