import Mathlib
import SourceLens.Proofs.Json.Bindings

/-!
# The count of calls lasts

The reader of values counts its calls down, from twice the number of characters
that it is to read. What is read is behind it: no reader gives back more than it
was given (`Json.length_le_of_readers`). So each value finds calls left for
each of its characters, and a larger count changes nothing
(`Json.readValue_of_le`): a text is refused where the grammar refuses it, and
never because the count has run out (`Json.read_eq_ok_iff_of_le`).
-/

namespace SourceLens.Json

open Reader

/-! ## What is left is no more than what was there -/

theorem length_skipSpace_le (cs : List Char) : (skipSpace cs).length ≤ cs.length := by
  induction cs with
  | nil => exact Nat.le_refl _
  | cons c cs ih =>
    rw [skipSpace]
    split
    · exact Nat.le_succ_of_le ih
    · exact Nat.le_refl _

/-- A character behind blanks leaves less than there was. -/
theorem length_lt_of_skipSpace {cs rest : List Char} {c : Char} (h : skipSpace cs = c :: rest) :
    rest.length < cs.length := by
  have hle := length_skipSpace_le cs
  rw [h, List.length_cons] at hle
  exact hle

theorem length_le_of_skipWord? {word cs rest : List Char} (h : skipWord? word cs = some rest) :
    rest.length ≤ cs.length := by
  induction word generalizing cs with
  | nil =>
    cases h
    exact Nat.le_refl _
  | cons w word ih =>
    cases cs with
    | nil => cases h
    | cons c cs =>
      rw [skipWord?] at h
      split at h
      · exact Nat.le_succ_of_le (ih h)
      · cases h

theorem length_le_of_readString {opening : Nat} {read cs rest : List Char} {s : String}
    (h : readString opening read cs = .ok (s, rest)) : rest.length ≤ cs.length := by
  fun_induction readString opening read cs
  case case2 =>
    cases h
    exact Nat.le_succ _
  -- every other step fails, or reads on behind what it has read
  all_goals first
    | cases h
    | (rename_i ih
       have hlater := ih h
       simp only [List.length_cons] at hlater ⊢
       omega)

theorem length_readDigits_le (count value : Nat) (cs : List Char) :
    (readDigits count value cs).2.2.length ≤ cs.length := by
  induction cs generalizing count value with
  | nil => exact Nat.le_refl _
  | cons c cs ih =>
    rw [readDigits]
    split
    · exact Nat.le_succ_of_le (ih _ _)
    · exact Nat.le_refl _

theorem length_readFraction_le (value : Nat) (cs : List Char) :
    (readFraction value cs).2.2.length ≤ cs.length := by
  unfold readFraction
  split
  · rename_i more
    dsimp only
    split
    · exact Nat.le_refl _
    · exact Nat.le_succ_of_le (length_readDigits_le 0 value more)
  · exact Nat.le_refl _

theorem length_readExponent_le (cs : List Char) : (readExponent cs).2.length ≤ cs.length := by
  unfold readExponent
  cases cs with
  | nil => exact Nat.le_refl _
  | cons e more =>
    dsimp only
    split
    · -- the digits start here, or behind a sign
      split <;> dsimp only <;> split
      · exact Nat.le_refl _
      · exact (length_readDigits_le 0 0 _).trans (Nat.le_add_right _ 2)
      · exact Nat.le_refl _
      · exact (length_readDigits_le 0 0 _).trans (Nat.le_add_right _ 2)
      · exact Nat.le_refl _
      · exact Nat.le_succ_of_le (length_readDigits_le 0 0 _)
    · exact Nat.le_refl _

theorem length_readWhole_le (cs : List Char) : (readWhole cs).2.2.length ≤ cs.length := by
  unfold readWhole
  split
  · exact Nat.le_succ _
  · exact length_readDigits_le 0 0 _

theorem length_le_of_readNumber {negative : Bool} {whole cs rest : List Char} {value : Json}
    (h : readNumber negative whole cs = .ok (value, rest)) : rest.length ≤ cs.length := by
  have hwhole := length_readWhole_le cs
  have hfraction := length_readFraction_le (readWhole cs).2.1 (readWhole cs).2.2
  have hexponent := length_readExponent_le
    (readFraction (readWhole cs).2.1 (readWhole cs).2.2).2.2
  have hrest :
      (readExponent (readFraction (readWhole cs).2.1 (readWhole cs).2.2).2.2).2 = rest := by
    unfold readNumber at h
    dsimp only at h
    split at h
    · cases h
    · split at h
      · split at h
        · cases h
        · cases h
          rfl
      · cases h
        rfl
  rw [← hrest]
  exact hexponent.trans (hfraction.trans hwhole)

theorem length_le_of_readScalar {cs rest : List Char} {value : Json}
    (h : readScalar cs = .ok (value, rest)) : rest.length ≤ cs.length := by
  unfold readScalar at h
  split at h
  · rename_i read hread
    cases h
    obtain ⟨⟨word, value'⟩, -, hword⟩ := List.exists_of_findSome?_eq_some hread
    obtain ⟨after, hafter, heq⟩ := Option.map_eq_some_iff.mp hword
    cases heq
    exact length_le_of_skipWord? hafter
  · split at h
    · exact Nat.le_succ_of_le (length_le_of_readNumber h)
    · exact length_le_of_readNumber h

theorem length_le_of_readName {cs rest : List Char} {name : String}
    (h : readName cs = .ok (name, rest)) : rest.length ≤ cs.length := by
  unfold readName at h
  split at h
  · rename_i more
    obtain ⟨⟨s, after⟩, hstring, h⟩ := bind_eq_ok.mp h
    have hafter := length_le_of_readString hstring
    dsimp only at h
    split at h
    · rename_i behind hcolon
      cases h
      have hcolon := length_lt_of_skipSpace hcolon
      have hbehind := length_skipSpace_le behind
      rw [List.length_cons]
      omega
    · cases h
  · cases h

/-- **No reader gives back more than it was given.** The induction is on the
count of calls, for values, items and members at once. -/
theorem length_le_of_readers (fuel : Nat) :
    (∀ cs value rest, readValue fuel cs = .ok (value, rest) → rest.length ≤ cs.length) ∧
    (∀ items cs value rest, readItems fuel items cs = .ok (value, rest) →
      rest.length ≤ cs.length) ∧
    (∀ read cs bindings rest, readMembers fuel read cs = .ok (bindings, rest) →
      rest.length ≤ cs.length) := by
  induction fuel with
  | zero =>
    refine ⟨?_, ?_, ?_⟩
    · intro cs value rest h
      cases h
    · intro items cs value rest h
      cases h
    · intro read cs bindings rest h
      cases h
  | succ fuel ih =>
    obtain ⟨hvalue, hitems, hmembers⟩ := ih
    refine ⟨?_, ?_, ?_⟩
    · intro cs value rest h
      unfold readValue at h
      split at h
      · obtain ⟨⟨s, after⟩, hstring, heq⟩ := map_eq_ok.mp h
        cases heq
        exact Nat.le_succ_of_le (length_le_of_readString hstring)
      · rename_i more
        split at h
        · rename_i after hclose
          cases h
          have hclose := length_lt_of_skipSpace hclose
          rw [List.length_cons]
          omega
        · have hrest := hitems _ _ _ _ h
          have hskip := length_skipSpace_le more
          rw [List.length_cons]
          omega
      · rename_i more
        split at h
        · rename_i after hclose
          cases h
          have hclose := length_lt_of_skipSpace hclose
          rw [List.length_cons]
          omega
        · obtain ⟨⟨bindings, after⟩, hread, heq⟩ := map_eq_ok.mp h
          cases heq
          have hrest := hmembers _ _ _ _ hread
          have hskip := length_skipSpace_le more
          rw [List.length_cons]
          omega
      · exact length_le_of_readScalar h
    · intro items cs value rest h
      unfold readItems at h
      obtain ⟨⟨item, after⟩, hitem, h⟩ := bind_eq_ok.mp h
      have hafter := hvalue _ _ _ hitem
      dsimp only at h
      split at h
      · rename_i behind hclose
        cases h
        have hclose := length_lt_of_skipSpace hclose
        omega
      · rename_i more hcomma
        have hcomma := length_lt_of_skipSpace hcomma
        have hrest := hitems _ _ _ _ h
        have hmore := length_skipSpace_le more
        omega
      · cases h
    · intro read cs bindings rest h
      unfold readMembers at h
      obtain ⟨⟨name, afterName⟩, hname, h⟩ := bind_eq_ok.mp h
      obtain ⟨⟨value, after⟩, hread, h⟩ := bind_eq_ok.mp h
      have hafterName := length_le_of_readName hname
      have hafter := hvalue _ _ _ hread
      dsimp only at h hafter
      split at h
      · rename_i behind hclose
        cases h
        have hclose := length_lt_of_skipSpace hclose
        omega
      · rename_i more hcomma
        have hcomma := length_lt_of_skipSpace hcomma
        have hrest := hmembers _ _ _ _ h
        have hmore := length_skipSpace_le more
        omega
      · cases h

/-! ## One call more changes nothing -/

/-- **With enough calls, one more changes nothing.** A value needs one for
itself and two for each of its characters, and what stands in a bracket one
more for its end. -/
theorem readers_succ (fuel : Nat) :
    (∀ cs, 2 * cs.length + 1 ≤ fuel → readValue (fuel + 1) cs = readValue fuel cs) ∧
    (∀ items cs, 2 * cs.length + 2 ≤ fuel →
      readItems (fuel + 1) items cs = readItems fuel items cs) ∧
    (∀ read cs, 2 * cs.length + 2 ≤ fuel →
      readMembers (fuel + 1) read cs = readMembers fuel read cs) := by
  induction fuel with
  | zero =>
    refine ⟨?_, ?_, ?_⟩
    · intro cs hfuel
      omega
    · intro items cs hfuel
      omega
    · intro read cs hfuel
      omega
  | succ fuel ih =>
    obtain ⟨hvalue, hitems, hmembers⟩ := ih
    refine ⟨?_, ?_, ?_⟩
    · intro cs hfuel
      unfold readValue
      split
      · rfl
      · rename_i more
        have hskip := length_skipSpace_le more
        rw [List.length_cons] at hfuel
        split
        · rfl
        · exact hitems _ _ (by omega)
      · rename_i more
        have hskip := length_skipSpace_le more
        rw [List.length_cons] at hfuel
        split
        · rfl
        · rw [hmembers _ _ (by omega)]
      · rfl
    · intro items cs hfuel
      unfold readItems
      rw [hvalue cs (by omega)]
      cases hread : readValue fuel cs with
      | error fault => rfl
      | ok read =>
        obtain ⟨item, rest⟩ := read
        have hrest := (length_le_of_readers fuel).1 _ _ _ hread
        simp only [bind, Except.bind]
        split
        · rfl
        · rename_i more hcomma
          have hcomma := length_lt_of_skipSpace hcomma
          have hmore := length_skipSpace_le more
          exact hitems _ _ (by omega)
        · rfl
    · intro read cs hfuel
      unfold readMembers
      cases hname : readName cs with
      | error fault => rfl
      | ok name =>
        obtain ⟨name, afterName⟩ := name
        have hafterName := length_le_of_readName hname
        simp only [bind, Except.bind]
        rw [hvalue afterName (by omega)]
        cases hread : readValue fuel afterName with
        | error fault => rfl
        | ok found =>
          obtain ⟨value, rest⟩ := found
          have hrest := (length_le_of_readers fuel).1 _ _ _ hread
          dsimp only
          split
          · rfl
          · rename_i more hcomma
            have hcomma := length_lt_of_skipSpace hcomma
            have hmore := length_skipSpace_le more
            exact hmembers _ _ (by omega)
          · rfl

/-- **The count of calls never decides**: a larger one changes nothing. -/
theorem readValue_of_le {cs : List Char} {fuel more : Nat} (h : 2 * cs.length + 1 ≤ fuel)
    (hle : fuel ≤ more) : readValue more cs = readValue fuel cs := by
  induction more, hle using Nat.le_induction with
  | base => rfl
  | succ more hle ih => rw [(readers_succ more).1 cs (h.trans hle), ih]

/-- **A text is read with any count that is large enough.** -/
theorem read_eq_ok_iff_of_le {cs : List Char} {value : Json} {fuel : Nat}
    (h : 2 * cs.length + 2 ≤ fuel) :
    read cs = .ok value ↔
      ∃ rest, readValue fuel (skipSpace cs) = .ok (value, rest) ∧ skipSpace rest = [] := by
  have hskip := length_skipSpace_le cs
  rw [read_eq_ok_iff, readValue_of_le (by omega) h]

end SourceLens.Json
