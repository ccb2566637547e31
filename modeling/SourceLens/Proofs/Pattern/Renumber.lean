import SourceLens.Proofs.Pattern.Ways

/-!
# Numbers of groups

The number of a group says where in the whole pattern its parenthesis stands,
so a pattern that becomes part of a larger one keeps its meaning and gets
other numbers. `Pattern.renumber` adds a constant to every number, and
`Pattern.ways_renumber` says that nothing else about matching changes: the
ways are the same, with the groups they close renumbered.
-/

namespace SourceLens

/-- The pattern with a constant added to the number of every group. -/
def Pattern.renumber (d : Nat) : Pattern → Pattern
  | .seq p q => .seq (p.renumber d) (q.renumber d)
  | .alt p q => .alt (p.renumber d) (q.renumber d)
  | .repeated p least most greedy => .repeated (p.renumber d) least most greedy
  | .group index name p => .group (index + d) name (p.renumber d)
  | .ahead holds p => .ahead holds (p.renumber d)
  | .behind holds width p => .behind holds width (p.renumber d)
  | .empty => .empty
  | .char set => .char set
  | .anchor condition => .anchor condition
  | .chars set least most greedy => .chars set least most greedy

/-- The cursor with a constant added to the number of every group closed. -/
def Cursor.renumber (d : Nat) (cur : Cursor) : Cursor where
  offset := cur.offset
  groups := cur.groups.map fun g => { g with index := g.index + d }

namespace Pattern

variable {text : Text} {d : Nat}

/-! ## The ways are the same -/

section Rounds

variable {body body' : Cursor → List Cursor}
  (h : ∀ cur, body' (cur.renumber d) = (body cur).map (Cursor.renumber d))
include h

theorem exactlyWays_renumber (rounds : Nat) (cur : Cursor) :
    exactlyWays body' rounds (cur.renumber d)
      = (exactlyWays body rounds cur).map (Cursor.renumber d) := by
  induction rounds generalizing cur with
  | zero => rfl
  | succ rounds ih =>
    rw [exactlyWays, exactlyWays, h, List.flatMap_map, List.map_flatMap]
    exact congrArg (List.flatMap · (body cur)) (funext ih)

theorem moreWays_renumber (greedy : Bool) (steps : Nat) (left : Option Nat) (cur : Cursor) :
    moreWays body' greedy steps left (cur.renumber d)
      = (moreWays body greedy steps left cur).map (Cursor.renumber d) := by
  induction steps generalizing left cur with
  | zero => rfl
  | succ steps ih =>
    have hround : ∀ next : Cursor,
        (if (next.renumber d).offset == (cur.renumber d).offset then [next.renumber d]
          else moreWays body' greedy steps (left.map (· - 1)) (next.renumber d))
        = (if next.offset == cur.offset then [next]
          else moreWays body greedy steps (left.map (· - 1)) next).map (Cursor.renumber d) := by
      intro next
      rw [ih, apply_ite (List.map (Cursor.renumber d))]
      rfl
    unfold moreWays
    dsimp only
    rw [h, List.flatMap_map, funext hround, ← List.map_flatMap]
    cases greedy <;> cases left == some 0 <;> simp

end Rounds

/-- Look-around leaves the renumbered cursors. -/
theorem lookWays_renumber (holds : Bool) (cur : Cursor) (seen : Option Cursor) :
    lookWays holds (cur.renumber d) (seen.map (Cursor.renumber d))
      = (lookWays holds cur seen).map (Cursor.renumber d) := by
  cases seen <;> cases holds <;> rfl

/-- **Renumbering the groups of a pattern renumbers those of its ways**, and
changes nothing else. -/
theorem ways_renumber (p : Pattern) (cur : Cursor) :
    (p.renumber d).ways text (cur.renumber d) = (p.ways text cur).map (Cursor.renumber d) := by
  induction p generalizing cur with
  | empty => rfl
  | char set =>
    have hoffset : (cur.renumber d).offset = cur.offset := rfl
    rw [renumber, ways, ways, hoffset]
    cases text[cur.offset]? with
    | none => rfl
    | some c =>
      dsimp only
      split <;> rfl
  | anchor condition =>
    unfold renumber ways
    rw [apply_ite (List.map (Cursor.renumber d))]
    rfl
  | seq first second ihFirst ihSecond =>
    rw [renumber, ways, ways, ihFirst, List.flatMap_map, List.map_flatMap]
    exact congrArg (List.flatMap · (ways text first cur)) (funext ihSecond)
  | alt first second ihFirst ihSecond =>
    rw [renumber, ways, ways, ihFirst, ihSecond, List.map_append]
  | chars set least most greedy =>
    rw [renumber, ways, ways]
    unfold charsWays
    dsimp only
    rw [apply_ite (List.map (Cursor.renumber d)), List.map_map]
    rfl
  | repeated body least most greedy ih =>
    rw [renumber, ways, ways, exactlyWays_renumber ih, List.flatMap_map, List.map_flatMap]
    exact congrArg (List.flatMap · (exactlyWays (ways text body) least cur))
      (funext fun next => moreWays_renumber ih greedy _ _ next)
  | group index name body ih =>
    rw [renumber, ways, ways, ih, List.map_map, List.map_map]
    rfl
  | ahead holds body ih =>
    rw [renumber, ways, ways, ih, List.head?_map, lookWays_renumber]
  | behind holds width body ih =>
    rw [renumber, ways, ways, ← lookWays_renumber, apply_ite (Option.map (Cursor.renumber d)),
      ← List.head?_map, ← ih]
    rfl

/-! ## Renumbering goes through the makers of patterns -/

theorem renumber_concat (ps : List Pattern) :
    (concat ps).renumber d = concat (ps.map (renumber d)) := by
  induction ps with
  | nil => rfl
  | cons p rest ih =>
    cases rest with
    | nil => rfl
    | cons q rest => exact congrArg (Pattern.seq (p.renumber d)) ih

theorem renumber_choice (ps : List Pattern) :
    (choice ps).renumber d = choice (ps.map (renumber d)) := by
  induction ps with
  | nil => rfl
  | cons p rest ih =>
    cases rest with
    | nil => rfl
    | cons q rest => exact congrArg (Pattern.alt (p.renumber d)) ih

theorem renumber_times (p : Pattern) (least : Nat) (most : Option Nat) (greedy : Bool) :
    (p.times least most greedy).renumber d = (p.renumber d).times least most greedy := by
  cases p <;> rfl

end Pattern

end SourceLens
