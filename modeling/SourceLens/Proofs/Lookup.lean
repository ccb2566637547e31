import Mathlib.Data.String.Basic
import Mathlib.Tactic.Common

/-!
# Named values

The members of an object and the entries of a folder are lists of named values.
A name has the first value in its list. A value is set in the place of the one
that its name has, or behind all others, and then no other name has changed.
-/

namespace SourceLens

variable {α : Type} {name other first : String} {value : α} {named : List (String × α)}

/-- A name that is not the first one is looked up behind it. -/
theorem lookup_cons_of_ne (h : name ≠ first) :
    List.lookup name ((first, value) :: named) = named.lookup name := by
  rw [List.lookup_cons, beq_false_of_ne h]

/-- A name that is nowhere has no value. -/
theorem lookup_eq_none_iff_any :
    named.lookup name = none ↔ (named.any (·.1 == name)) = false := by
  rw [List.lookup_eq_none_iff, List.any_eq_false]
  refine forall₂_congr fun n _ => ?_
  rw [bne_iff_ne, beq_iff_eq, ne_comm]

/-- Values are replaced where the name is, as far as it is there. -/
theorem lookup_map_replace :
    List.lookup other (named.map fun n => if n.1 == name then (name, value) else n)
      = if other = name then (named.lookup name).map fun _ => value else named.lookup other := by
  induction named with
  | nil => rw [List.map_nil, List.lookup_nil, List.lookup_nil, Option.map_none, ite_self]
  | cons n named ih =>
    obtain ⟨first, old⟩ := n
    rw [List.map_cons]
    by_cases hfirst : first = name
    · rw [if_pos (beq_iff_eq.mpr hfirst)]
      by_cases hother : other = name
      · rw [if_pos hother, hother, hfirst, List.lookup_cons_self, List.lookup_cons_self]
        rfl
      · rw [if_neg hother, lookup_cons_of_ne hother, lookup_cons_of_ne (hfirst ▸ hother), ih,
          if_neg hother]
    · rw [if_neg fun h => hfirst (beq_iff_eq.mp h), lookup_cons_of_ne (Ne.symm hfirst)]
      by_cases hother : other = first
      · have hname : other ≠ name := hother ▸ hfirst
        rw [if_neg hname, hother, List.lookup_cons_self, List.lookup_cons_self]
      · rw [lookup_cons_of_ne hother, lookup_cons_of_ne hother, ih]

/-- **The name that is set has the value, and every other name has what it
had.** -/
theorem lookup_set :
    List.lookup other
        (if named.any (·.1 == name) then
          named.map fun n => if n.1 == name then (name, value) else n
        else named ++ [(name, value)])
      = if other = name then some value else named.lookup other := by
  split
  · rename_i hany
    rw [lookup_map_replace]
    cases hlookup : named.lookup name with
    | none =>
      rw [lookup_eq_none_iff_any.mp hlookup] at hany
      cases hany
    | some old => rfl
  · rename_i hany
    have hnone : named.lookup name = none :=
      lookup_eq_none_iff_any.mpr (Bool.eq_false_iff.mpr hany)
    rw [List.lookup_append]
    by_cases hother : other = name
    · rw [if_pos hother, hother, hnone, List.lookup_cons_self]
      rfl
    · rw [if_neg hother, lookup_cons_of_ne hother, List.lookup_nil, Option.or_none]

end SourceLens
