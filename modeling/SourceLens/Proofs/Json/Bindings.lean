import Mathlib
import SourceLens.Json.Reader
import SourceLens.Proofs.Except
import SourceLens.Proofs.Lookup

/-!
# The members that a text binds

Nothing keeps the text of an object from having a name twice. `Json.bindings?`
gives all that it binds, in the order and as often as they stand there, and
`Json.read_eq_obj_iff` says what the reader makes of them: a name has the value
that is bound to it last (`Json.lookup_ofBindings`), whatever else the object
has.
-/

namespace SourceLens.Json

open Reader

variable {bindings members : List (String × Json)}

/-- The name that is put has the value. -/
theorem lookup_put (members : List (String × Json)) (name other : String) (value : Json) :
    (put members name value).lookup other
      = if other = name then some value else members.lookup other :=
  lookup_set

/-- **A name has the value that is bound to it last.** -/
theorem lookup_ofBindings (bindings : List (String × Json)) (name : String) :
    (ofBindings bindings).lookup name = bindings.reverse.lookup name := by
  induction bindings using List.reverseRecOn with
  | nil => rfl
  | append_singleton bindings last ih =>
    obtain ⟨lastName, value⟩ := last
    have hput : ofBindings (bindings ++ [(lastName, value)])
        = put (ofBindings bindings) lastName value := by
      rw [ofBindings, List.foldl_append]
      rfl
    rw [hput, lookup_put, ih, List.reverse_append]
    show _ = List.lookup name ((lastName, value) :: bindings.reverse)
    split
    · rename_i hname
      rw [hname, List.lookup_cons_self]
    · rename_i hname
      rw [lookup_cons_of_ne hname]

/-- A member of a new name is put at the end. -/
theorem put_of_not_mem {name : String} (h : name ∉ members.map (·.1)) (value : Json) :
    put members name value = members ++ [(name, value)] := by
  have hany : members.any (·.1 == name) = false := by
    rw [List.any_eq_false]
    exact fun member hmember heq =>
      h (List.mem_map.mpr ⟨member, hmember, beq_iff_eq.mp heq⟩)
  rw [put, hany]
  rfl

/-- **Where no name comes twice, the members are what is bound.** -/
theorem ofBindings_of_nodup (h : (bindings.map (·.1)).Nodup) : ofBindings bindings = bindings := by
  induction bindings using List.reverseRecOn with
  | nil => rfl
  | append_singleton bindings last ih =>
    rw [List.map_append, List.nodup_append] at h
    obtain ⟨hbefore, -, hother⟩ := h
    have hnew : last.1 ∉ bindings.map (·.1) :=
      fun hmem => hother _ hmem _ (List.mem_singleton.mpr rfl) rfl
    rw [ofBindings, List.foldl_append]
    show put (ofBindings bindings) last.1 last.2 = _
    rw [ih hbefore, put_of_not_mem hnew]

/-! ## Reading -/

/-- What an object binds, and what stands behind it. -/
def readObject? (fuel : Nat) : List Char → Option (List (String × Json) × List Char)
  | '\x7b' :: more =>
    match skipSpace more with
    | '\x7d' :: after => some ([], after)
    | more => (readMembers fuel [] more).toOption
  | _ => none

/-- **What a text binds**, if it is an object with blanks around it. -/
def bindings? (cs : List Char) : Option (List (String × Json)) := do
  let (bindings, rest) ← readObject? (2 * cs.length + 1) (skipSpace cs)
  if (skipSpace rest).isEmpty then some bindings else none

/-- **A value without parts that is no string**; an integer has no more digits
than are read. -/
inductive Scalar : Json → Prop where
  | null : Scalar .null
  | bool (value : Bool) : Scalar (.bool value)
  | int {n : Int} (short : n.natAbs < 10 ^ mostDigits) : Scalar (.int n)
  | float (x : Binary64) : Scalar (.float x)

/-- Digits give a number that is written with as many digits. -/
theorem readDigits_lt (count value : Nat) (cs : List Char) (h : value < 10 ^ count) :
    (readDigits count value cs).2.1 < 10 ^ (readDigits count value cs).1 := by
  induction cs generalizing count value with
  | nil => exact h
  | cons c cs ih =>
    rw [readDigits]
    split
    · rename_i hdigit
      have hc : c.toNat - 0x30 ≤ 9 := by
        have hnine := (Char.isDigit_iff_toNat.mp hdigit).2
        have : '9'.toNat = 0x39 := rfl
        omega
      refine ih _ _ ?_
      rw [Nat.pow_succ]
      omega
    · exact h

/-- What a number starts with is below the power of ten of its digits. -/
theorem readWhole_lt (cs : List Char) : (readWhole cs).2.1 < 10 ^ (readWhole cs).1 := by
  unfold readWhole
  split
  · exact (by decide : 0 < 10 ^ 1)
  · exact readDigits_lt 0 0 _ (by decide)

/-- A number is a scalar. -/
theorem scalar_of_readNumber {negative : Bool} {whole cs rest : List Char} {value : Json}
    (h : readNumber negative whole cs = .ok (value, rest)) : Scalar value := by
  have hlt := readWhole_lt cs
  unfold readNumber at h
  generalize readWhole cs = number at h hlt
  obtain ⟨count, n, after⟩ := number
  dsimp only at h hlt
  split at h
  · cases h
  · split at h
    · split at h
      · cases h
      · rename_i hcount
        cases h
        have hshort : n < 10 ^ mostDigits :=
          Nat.lt_of_lt_of_le hlt (Nat.pow_le_pow_right (by decide) (Nat.le_of_not_lt hcount))
        refine .int ?_
        cases negative
        · exact hshort
        · rw [if_pos rfl, Int.natAbs_neg]
          exact hshort
    · cases h
      exact .float _

/-- **A word or a number is a scalar.** -/
theorem scalar_of_readScalar {cs rest : List Char} {value : Json}
    (h : readScalar cs = .ok (value, rest)) : Scalar value := by
  have hwords : ∀ word ∈ words, Scalar word.2 := by
    simp only [words, List.forall_mem_cons, List.not_mem_nil, false_imp_iff, implies_true, and_true]
    exact ⟨.null, .bool _, .bool _, .float _, .float _, .float _⟩
  unfold readScalar at h
  split at h
  · rename_i read hread
    cases h
    obtain ⟨⟨word, value'⟩, hmem, hword⟩ := List.exists_of_findSome?_eq_some hread
    obtain ⟨_, -, heq⟩ := Option.map_eq_some_iff.mp hword
    cases heq
    exact hwords _ hmem
  · split at h
    · exact scalar_of_readNumber h
    · exact scalar_of_readNumber h

/-- Items make an array. -/
theorem exists_arr_of_readItems {fuel : Nat} {items : List Json} {cs rest : List Char}
    {value : Json} (h : readItems fuel items cs = .ok (value, rest)) :
    ∃ items, value = .arr items := by
  induction fuel generalizing items cs with
  | zero => cases h
  | succ fuel ih =>
    rw [readItems] at h
    obtain ⟨⟨item, after⟩, -, h⟩ := bind_eq_ok.mp h
    dsimp only at h
    split at h
    · cases h
      exact ⟨_, rfl⟩
    · exact ih h
    · cases h

/-- **A value is a string, an array, an object with the members that are bound,
or a scalar.** -/
theorem readValue_cases {fuel : Nat} {cs rest : List Char} {value : Json}
    (h : readValue (fuel + 1) cs = .ok (value, rest)) :
    (∃ s, value = .str s) ∨ (∃ items, value = .arr items) ∨
    (∃ bindings, value = .obj (ofBindings bindings) ∧
      readObject? fuel cs = some (bindings, rest)) ∨ Scalar value := by
  unfold readValue at h
  split at h
  · obtain ⟨⟨s, after⟩, -, heq⟩ := map_eq_ok.mp h
    cases heq
    exact .inl ⟨s, rfl⟩
  · split at h
    · cases h
      exact .inr (.inl ⟨[], rfl⟩)
    · exact .inr (.inl (exists_arr_of_readItems h))
  · rename_i more
    refine .inr (.inr (.inl ?_))
    split at h
    · rename_i after hmore
      cases h
      refine ⟨[], rfl, ?_⟩
      rw [readObject?, hmore]
      rfl
    · rename_i hother
      obtain ⟨⟨bindings, after⟩, hread, heq⟩ := map_eq_ok.mp h
      cases heq
      refine ⟨bindings, rfl, ?_⟩
      rw [readObject?]
      split
      · rename_i after' hmore
        exact absurd hmore (hother after')
      · rw [hread]
        rfl
  · exact .inr (.inr (.inr (scalar_of_readScalar h)))

/-- An object that is there is read, with the members that are bound. -/
theorem readValue_of_readObject? {fuel : Nat} {cs rest : List Char}
    (h : readObject? fuel cs = some (bindings, rest)) :
    readValue (fuel + 1) cs = .ok (.obj (ofBindings bindings), rest) := by
  unfold readObject? at h
  split at h
  · rename_i more
    split at h
    · rename_i hmore
      cases h
      rw [readValue, hmore]
      rfl
    · rename_i hother
      rw [readValue]
      split
      · rename_i after hmore
        exact absurd hmore (hother after)
      · cases hread : readMembers fuel [] (skipSpace more) with
        | error fault =>
          rw [hread] at h
          cases h
        | ok read =>
          rw [hread] at h
          cases h
          rfl
  · cases h

/-- A text is read if a value stands in it, and nothing but blanks around. -/
theorem read_eq_ok_iff {cs : List Char} {value : Json} :
    read cs = .ok value ↔
      ∃ rest, readValue (2 * cs.length + 2) (skipSpace cs) = .ok (value, rest) ∧
        skipSpace rest = [] := by
  unfold read
  cases hread : readValue (2 * cs.length + 2) (skipSpace cs) with
  | error fault => cases fault <;> simp [bind, Except.bind]
  | ok found =>
    obtain ⟨found, rest⟩ := found
    simp only [bind, Except.bind]
    cases hrest : skipSpace rest with
    | nil => simp [pure, Except.pure, hrest]
    | cons c rest' => simp [faultAt, hrest]

/-- **A text is an object exactly if it binds members, and then the object has
these.** -/
theorem read_eq_obj_iff {cs : List Char} :
    read cs = .ok (.obj members) ↔
      ∃ bindings, bindings? cs = some bindings ∧ members = ofBindings bindings := by
  have hbindings : ∀ bindings, bindings? cs = some bindings ↔
      ∃ rest, readObject? (2 * cs.length + 1) (skipSpace cs) = some (bindings, rest) ∧
        skipSpace rest = [] := by
    intro bindings
    unfold bindings?
    cases readObject? (2 * cs.length + 1) (skipSpace cs) with
    | none => simp
    | some found =>
      obtain ⟨found, rest⟩ := found
      show (if (skipSpace rest).isEmpty then some found else none) = some bindings ↔ _
      rw [Option.ite_none_right_eq_some, List.isEmpty_iff]
      constructor
      · rintro ⟨hrest, ⟨⟩⟩
        exact ⟨rest, rfl, hrest⟩
      · rintro ⟨_, ⟨⟩, hrest⟩
        exact ⟨hrest, rfl⟩
  simp only [hbindings, read_eq_ok_iff]
  constructor
  · rintro ⟨rest, hread, hrest⟩
    obtain ⟨s, heq⟩ | ⟨items, heq⟩ | ⟨bindings, heq, hobject⟩ | hscalar := readValue_cases hread
    · cases heq
    · cases heq
    · cases heq
      exact ⟨bindings, ⟨rest, hobject, hrest⟩, rfl⟩
    · cases hscalar
  · rintro ⟨bindings, ⟨rest, hobject, hrest⟩, rfl⟩
    exact ⟨rest, readValue_of_readObject? hobject, hrest⟩

/-! ## The values that are bound -/

/-- A value that is read, somewhere. -/
def IsRead (value : Json) : Prop :=
  ∃ fuel cs rest, readValue fuel cs = .ok (value, rest)

/-- **An integer that is read has no more digits than are allowed.** -/
theorem IsRead.short {n : Int} (h : IsRead (.int n)) : n.natAbs < 10 ^ mostDigits := by
  obtain ⟨fuel, cs, rest, hread⟩ := h
  cases fuel with
  | zero => cases hread
  | succ fuel =>
    obtain ⟨s, heq⟩ | ⟨items, heq⟩ | ⟨bindings, heq, -⟩ | hscalar := readValue_cases hread
    · cases heq
    · cases heq
    · cases heq
    · cases hscalar with
      | int short => exact short

/-- Members have values that are read. -/
theorem isRead_of_readMembers {fuel : Nat} {read : List (String × Json)} {cs rest : List Char}
    (h : readMembers fuel read cs = .ok (bindings, rest)) (hread : ∀ b ∈ read, IsRead b.2) :
    ∀ b ∈ bindings, IsRead b.2 := by
  induction fuel generalizing read cs with
  | zero => cases h
  | succ fuel ih =>
    unfold readMembers at h
    obtain ⟨⟨name, afterName⟩, -, h⟩ := bind_eq_ok.mp h
    obtain ⟨⟨value, afterValue⟩, hvalue, h⟩ := bind_eq_ok.mp h
    have hall : ∀ b ∈ (name, value) :: read, IsRead b.2 :=
      List.forall_mem_cons.mpr ⟨⟨_, _, _, hvalue⟩, hread⟩
    dsimp only at h
    split at h
    · cases h
      exact fun b hb => hall b (List.mem_reverse.mp hb)
    · exact ih h hall
    · cases h

/-- **Every value that a text binds is read.** -/
theorem isRead_of_bindings? {cs : List Char} (h : bindings? cs = some bindings) :
    ∀ b ∈ bindings, IsRead b.2 := by
  obtain ⟨⟨found, rest⟩, hobject, hif⟩ := Option.bind_eq_some_iff.mp h
  obtain ⟨-, heq⟩ := Option.ite_none_right_eq_some.mp hif
  cases heq
  unfold readObject? at hobject
  split at hobject
  · rename_i more _
    split at hobject
    · cases hobject
      exact fun b hb => nomatch hb
    · cases hmembers : readMembers (2 * cs.length + 1) [] (skipSpace more) with
      | error fault =>
        rw [hmembers] at hobject
        cases hobject
      | ok read =>
        rw [hmembers] at hobject
        cases hobject
        exact isRead_of_readMembers hmembers fun b hb => nomatch hb
  · cases hobject

end SourceLens.Json
