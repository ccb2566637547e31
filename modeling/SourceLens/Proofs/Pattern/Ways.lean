import Mathlib.Data.List.Basic
import Mathlib.Tactic.Common
import SourceLens.Pattern.Matching

/-!
# The ways of a pattern

`Pattern.run` hands every way of matching to a continuation as soon as it is
found, and goes back when the continuation fails. What it computes is simpler
to say: a pattern has a list of **ways** from a cursor, in order of
preference, and running it gives the answer of the continuation at the first
way that has one. `Pattern.run_eq_findSome?` is that statement, and everything
else about matching is proved of the list – a fact about all ways is a fact
about the members of a list, and a fact about preference is one about its
order.

In the list, one pattern after another is a `flatMap`, a choice is an
`append`, a group is a `map`, and look-around reads the head. A match is the
head of the list as well (`Pattern.matchAt_eq_head?`), so a choice between
alternatives matches as the first of them that matches.
-/

namespace SourceLens

/-- The first answer along a `flatMap` is the first answer of the first part
that has one. -/
theorem findSome?_flatMap {α β γ : Type} (as : List α) (f : α → List β) (g : β → Option γ) :
    (as.flatMap f).findSome? g = as.findSome? fun a => (f a).findSome? g := by
  induction as with
  | nil => rfl
  | cons a as ih =>
    rw [List.flatMap_cons, List.findSome?_append, List.findSome?_cons, ih]
    cases (f a).findSome? g <;> rfl

/-- The first member is the first answer of a continuation that accepts
everything. -/
theorem findSome?_some_eq_head? {α : Type} (as : List α) :
    as.findSome? some = as.head? := by
  cases as <;> rfl

namespace Pattern

variable {text : Text}

/-! ## The ways -/

/-- How many characters a run may have after the least number of them, which
end at an offset. -/
def charsLeft (text : Text) (least : Nat) (most : Option Nat) (low : Nat) : Nat :=
  match most with
  | some most => min (text.size - low) (most - least)
  | none => text.size - low

/-- The ways of a run of characters: its possible ends, the last one first if
the run is greedy. -/
def charsWays (text : Text) (set : CharSet) (least : Nat) (most : Option Nat) (greedy : Bool)
    (cur : Cursor) : List Cursor :=
  let low := runEnd text set cur.offset least
  if low < cur.offset + least then []
  else
    let ends := List.range' low (runEnd text set low (charsLeft text least most low) - low + 1)
    (if greedy then ends.reverse else ends).map cur.move

/-- The ways of a pattern a given number of times. -/
def exactlyWays (body : Cursor → List Cursor) : Nat → Cursor → List Cursor
  | 0, cur => [cur]
  | rounds + 1, cur => (body cur).flatMap (exactlyWays body rounds)

/-- The ways of a pattern any number of times. A round that consumes nothing
is the last one. -/
def moreWays (body : Cursor → List Cursor) (greedy : Bool) :
    Nat → Option Nat → Cursor → List Cursor
  | 0, _, cur => [cur]
  | steps + 1, left, cur =>
    let again :=
      if left == some 0 then []
      else (body cur).flatMap fun next =>
        if next.offset == cur.offset then [next]
        else moreWays body greedy steps (left.map (· - 1)) next
    if greedy then again ++ [cur] else cur :: again

/-- What a look-around leaves of a cursor, given the first way of what it
looks at. -/
def lookWays (holds : Bool) (cur : Cursor) (seen : Option Cursor) : List Cursor :=
  match seen with
  | some inner => if holds then [inner.move cur.offset] else []
  | none => if holds then [] else [cur]

/-- **The ways of a pattern** from a cursor, the preferred one first. -/
def ways (text : Text) : Pattern → Cursor → List Cursor
  | .empty, cur => [cur]
  | .char set, cur =>
    match text[cur.offset]? with
    | some c => if set.contains c then [cur.move (cur.offset + 1)] else []
    | none => []
  | .anchor condition, cur => if condition.holds text cur.offset then [cur] else []
  | .seq first second, cur => (ways text first cur).flatMap (ways text second)
  | .alt first second, cur => ways text first cur ++ ways text second cur
  | .chars set least most greedy, cur => charsWays text set least most greedy cur
  | .repeated body least most greedy, cur =>
    (exactlyWays (ways text body) least cur).flatMap fun next =>
      moreWays (ways text body) greedy (text.size - next.offset + 1) (most.map (· - least)) next
  | .group index name body, cur =>
    (ways text body cur).map fun next =>
      { next with groups := ⟨index, name, cur.offset, next.offset⟩ :: next.groups }
  | .ahead holds body, cur => lookWays holds cur (ways text body cur).head?
  | .behind holds width body, cur =>
    lookWays holds cur
      (if width ≤ cur.offset then (ways text body (cur.move (cur.offset - width))).head? else none)

/-! ## Running takes the first way that is accepted -/

/-- Trying the ends of a run downwards is trying them in reverse order. -/
theorem tryDown_eq_findSome? (cur : Cursor) (k : Continuation) (low extra : Nat) :
    tryDown cur k low extra
      = ((List.range' low (extra + 1)).reverse.map cur.move).findSome? k := by
  induction extra with
  | zero => simp [tryDown]
  | succ extra ih =>
    have hends : (List.range' low (extra + 1 + 1)).reverse
        = (low + (extra + 1)) :: (List.range' low (extra + 1)).reverse := by
      rw [List.range'_concat, List.reverse_append, Nat.one_mul]
      rfl
    rw [tryDown, hends, List.map_cons, List.findSome?_cons, ih]
    cases k (cur.move (low + (extra + 1))) <;> rfl

/-- Every run of characters reaches its start. -/
theorem le_runEnd (text : Text) (set : CharSet) (offset limit : Nat) :
    offset ≤ runEnd text set offset limit := by
  induction limit generalizing offset with
  | zero => exact Nat.le_refl offset
  | succ limit ih =>
    unfold runEnd
    split
    · split
      · exact Nat.le_trans (Nat.le_succ offset) (ih (offset + 1))
      · exact Nat.le_refl offset
    · exact Nat.le_refl offset

/-- Trying the ends of a run upwards is trying them in order. -/
theorem tryUp_eq_findSome? (set : CharSet) (cur : Cursor) (k : Continuation)
    (offset limit : Nat) :
    tryUp text set cur k offset limit
      = ((List.range' offset (runEnd text set offset limit - offset + 1)).map
          cur.move).findSome? k := by
  induction limit generalizing offset with
  | zero => simp [tryUp, runEnd]
  | succ limit ih =>
    rw [List.range'_succ, List.map_cons, List.findSome?_cons]
    unfold tryUp
    cases k (cur.move offset) with
    | some found => rfl
    | none =>
      unfold runEnd
      cases hc : text[offset]? with
      | none => simp
      | some c =>
        by_cases hset : set.contains c = true
        · -- the run goes on, so its ends are this offset and those of the rest
          have hle := le_runEnd text set (offset + 1) limit
          have hcount : runEnd text set (offset + 1) limit - offset
              = runEnd text set (offset + 1) limit - (offset + 1) + 1 := by omega
          simp only [hset, if_true]
          rw [hcount, ih (offset + 1)]
        · simp [hset]

theorem runChars_eq_findSome? (set : CharSet) (least : Nat) (most : Option Nat) (greedy : Bool)
    (cur : Cursor) (k : Continuation) :
    runChars text set least most greedy cur k
      = (charsWays text set least most greedy cur).findSome? k := by
  unfold runChars charsWays charsLeft
  dsimp only
  split
  · rfl
  · cases greedy with
    | true => exact tryDown_eq_findSome? cur k _ _
    | false => exact tryUp_eq_findSome? set cur k _ _

section Rounds

variable {runBody : Cursor → Continuation → Option Cursor} {body : Cursor → List Cursor}

theorem runExactly_eq_findSome? (h : ∀ cur k, runBody cur k = (body cur).findSome? k)
    (rounds : Nat) (cur : Cursor) (k : Continuation) :
    runExactly runBody rounds cur k = (exactlyWays body rounds cur).findSome? k := by
  induction rounds generalizing cur with
  | zero => exact (List.findSome?_singleton).symm
  | succ rounds ih =>
    rw [runExactly, exactlyWays, findSome?_flatMap, h]
    exact congrArg (List.findSome? · (body cur)) (funext ih)

theorem runMore_eq_findSome? (h : ∀ cur k, runBody cur k = (body cur).findSome? k)
    (greedy : Bool) (steps : Nat) (left : Option Nat) (cur : Cursor) (k : Continuation) :
    runMore runBody greedy steps left cur k
      = (moreWays body greedy steps left cur).findSome? k := by
  induction steps generalizing left cur with
  | zero => exact (List.findSome?_singleton).symm
  | succ steps ih =>
    -- both orders of preference are made of the same further rounds
    have hagain : (if left == some 0 then none
          else runBody cur fun next =>
            if next.offset == cur.offset then k next
            else runMore runBody greedy steps (left.map (· - 1)) next k)
        = (if left == some 0 then []
            else (body cur).flatMap fun next =>
              if next.offset == cur.offset then [next]
              else moreWays body greedy steps (left.map (· - 1)) next).findSome? k := by
      split
      · rfl
      · rw [h, findSome?_flatMap]
        refine congrArg (List.findSome? · (body cur)) (funext fun next => ?_)
        split
        · exact (List.findSome?_singleton).symm
        · exact ih _ next
    unfold runMore moreWays
    dsimp only
    cases greedy with
    | true =>
      simp only [if_true] at hagain ⊢
      rw [List.findSome?_append, ← hagain, List.findSome?_singleton]
      cases (if left == some 0 then none else _ : Option Cursor) <;> rfl
    | false =>
      simp only [Bool.false_eq_true, if_false] at hagain ⊢
      rw [List.findSome?_cons, hagain]
      cases k cur <;> rfl

end Rounds

/-- A look-around goes on with what it leaves of the cursor. -/
theorem lookWays_findSome? (holds : Bool) (cur : Cursor) (seen : Option Cursor)
    (k : Continuation) :
    (match seen with
      | some inner => if holds then k (inner.move cur.offset) else none
      | none => if holds then none else k cur)
      = (lookWays holds cur seen).findSome? k := by
  cases seen <;> cases holds <;> simp [lookWays]

/-- **Running a pattern gives the answer at its first accepted way.** -/
theorem run_eq_findSome? (p : Pattern) (cur : Cursor) (k : Continuation) :
    run text p cur k = (ways text p cur).findSome? k := by
  induction p generalizing cur k with
  | empty => exact (List.findSome?_singleton).symm
  | char set =>
    unfold run ways
    cases text[cur.offset]? with
    | none => rfl
    | some c => by_cases h : set.contains c = true <;> simp [h]
  | anchor condition =>
    unfold run ways
    by_cases h : condition.holds text cur.offset = true <;> simp [h]
  | seq first second ihFirst ihSecond =>
    rw [run, ways, findSome?_flatMap, ihFirst]
    exact congrArg (List.findSome? · (ways text first cur)) (funext fun next => ihSecond next k)
  | alt first second ihFirst ihSecond =>
    rw [run, ways, List.findSome?_append, ihFirst, ihSecond]
    cases (ways text first cur).findSome? k <;> rfl
  | chars set least most greedy => exact runChars_eq_findSome? set least most greedy cur k
  | repeated body least most greedy ih =>
    rw [run, ways, findSome?_flatMap, runExactly_eq_findSome? ih]
    exact congrArg (List.findSome? · (exactlyWays (ways text body) least cur))
      (funext fun next => runMore_eq_findSome? ih greedy _ _ next k)
  | group index name body ih =>
    rw [run, ways, List.findSome?_map, ih]
    rfl
  | ahead holds body ih =>
    rw [run, ways, ih, findSome?_some_eq_head?]
    exact lookWays_findSome? holds cur _ k
  | behind holds width body ih =>
    rw [run, ways, ih, findSome?_some_eq_head?]
    exact lookWays_findSome? holds cur _ k

/-- **The match at an offset is the first way** from there. -/
theorem matchAt_eq_head? (p : Pattern) (offset : Nat) :
    p.matchAt text offset
      = (p.ways text (.start offset)).head?.map fun cur => ⟨offset, cur.offset, cur.groups⟩ := by
  rw [matchAt, run_eq_findSome?, findSome?_some_eq_head?]

end Pattern

end SourceLens
