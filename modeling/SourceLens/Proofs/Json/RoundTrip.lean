import Mathlib
import SourceLens.Proofs.Json.Bindings
import SourceLens.Proofs.Json.Scalars

/-!
# What is written is read back

A value is read back as it is (`Json.read_pretty`) if its integers are not too
long to be read, no object has two members of one name, and there is no binary
number in it (`Json.Exact`). The induction is on the value, with anything
behind what is written that an integer could not go on with. It holds in every
layout that puts nothing but blanks between the parts.

The reader counts its calls down from twice the number of characters. Each
value takes at most two calls for each of its own characters, and each array or
object one more for its end, so the count lasts.
-/

namespace SourceLens.Json

open Writer Reader

/-- **A value that is read back as it is.** -/
inductive Exact : Json → Prop where
  | null : Exact .null
  | bool (value : Bool) : Exact (.bool value)
  | int {n : Int} (short : n.natAbs < 10 ^ mostDigits) : Exact (.int n)
  | str (s : String) : Exact (.str s)
  | arr {items : List Json} (values : ∀ item ∈ items, Exact item) : Exact (.arr items)
  | obj {members : List (String × Json)} (distinct : (members.map (·.1)).Nodup)
      (values : ∀ member ∈ members, Exact member.2) : Exact (.obj members)

/-- A layout puts blanks between the parts, and the separators. -/
structure Writer.Layout.IsBlank (layout : Layout) : Prop where
  line : ∀ depth, ∀ c ∈ layout.line depth, isSpace c = true
  comma : ∀ depth, ∃ blank, layout.comma depth = ',' :: blank ∧ ∀ c ∈ blank, isSpace c = true
  colon : ∃ blank, layout.colon = ':' :: blank ∧ ∀ c ∈ blank, isSpace c = true

/-- Lines and indentation are blanks. -/
theorem Writer.isBlank_indented : indented.IsBlank := by
  have hline : ∀ depth, ∀ c ∈ lineBreak depth, isSpace c = true := by
    intro depth c hc
    obtain rfl | hc := List.mem_cons.mp hc
    · rfl
    · rw [List.eq_of_mem_replicate hc]
      rfl
  exact ⟨hline, fun depth => ⟨_, rfl, hline depth⟩, [' '], rfl, by simp [isSpace]⟩

variable {layout : Layout} {depth : Nat}

/-! ## How values start, and what may stand behind them -/

/-- A character that a value can start with: no blank, and no closing
bracket. -/
def Starts (cs : List Char) : Prop :=
  ∃ c rest, cs = c :: rest ∧ isSpace c = false ∧ c ≠ ']' ∧ c ≠ '\x7d'

/-- Nothing is skipped where a value starts. -/
theorem Starts.skipSpace_append {cs : List Char} (h : Starts cs) (rest : List Char) :
    skipSpace (cs ++ rest) = cs ++ rest := by
  obtain ⟨c, later, rfl, hspace, -⟩ := h
  exact skipSpace_cons hspace _

theorem Starts.append {cs : List Char} (h : Starts cs) (rest : List Char) :
    Starts (cs ++ rest) := by
  obtain ⟨c, later, rfl, hc⟩ := h
  exact ⟨c, later ++ rest, rfl, hc⟩

/-- A string starts with its quote. -/
theorem starts_string (s : String) : Starts (string s) :=
  ⟨'"', _, rfl, by decide, by decide, by decide⟩

/-- **Every value starts with a character of its own.** -/
theorem Exact.starts {value : Json} (h : Exact value) (depth : Nat) :
    Starts (write layout depth value) := by
  cases h with
  | null => exact ⟨'n', _, rfl, by decide, by decide, by decide⟩
  | bool value =>
    cases value
    · exact ⟨'f', _, rfl, by decide, by decide, by decide⟩
    · exact ⟨'t', _, rfl, by decide, by decide, by decide⟩
  | @int n short =>
    obtain ⟨c, rest, htext, hc⟩ := exists_toList_toString n
    refine ⟨c, rest, htext, ?_⟩
    obtain rfl | hdigit := hc
    · decide
    · refine ⟨?_, ?_, ?_⟩
      · rw [← Bool.not_eq_true]
        intro hspace
        simp only [isSpace, Bool.or_eq_true, beq_iff_eq] at hspace
        obtain ((rfl | rfl) | rfl) | rfl := hspace <;> cases hdigit
      · rintro rfl
        cases hdigit
      · rintro rfl
        cases hdigit
  | str s => exact starts_string s
  | @arr items =>
    rw [write]
    split
    · exact ⟨'[', _, rfl, by decide, by decide, by decide⟩
    · exact ⟨'[', _, rfl, by decide, by decide, by decide⟩
  | @obj members =>
    rw [write]
    split
    · exact ⟨'\x7b', _, rfl, by decide, by decide, by decide⟩
    · exact ⟨'\x7b', _, rfl, by decide, by decide, by decide⟩

/-- A blank, a comma and a closing bracket delimit what stands before them. -/
theorem delimited_cons {c : Char} (h : c ∈ [' ', '\t', '\n', '\r', ',', ']', '\x7d'])
    (rest : List Char) : Delimited (c :: rest) := by
  rintro d ⟨⟩
  fin_cases h <;> decide

/-- So do blanks with such a character behind them. -/
theorem delimited_append {blank : List Char} (hblank : ∀ c ∈ blank, isSpace c = true) {c : Char}
    (h : c ∈ [' ', '\t', '\n', '\r', ',', ']', '\x7d']) (rest : List Char) :
    Delimited (blank ++ c :: rest) := by
  cases blank with
  | nil => exact delimited_cons h rest
  | cons d blank =>
    refine delimited_cons ?_ _
    have hd := hblank d List.mem_cons_self
    simp only [isSpace, Bool.or_eq_true, beq_iff_eq] at hd
    obtain ((rfl | rfl) | rfl) | rfl := hd <;> decide

/-! ## Arrays -/

/-- Some value is read back at a depth, within two calls for each of its
characters. -/
def ReadsBack (layout : Layout) (depth : Nat) (value : Json) : Prop :=
  ∀ fuel rest, 2 * (write layout depth value).length ≤ fuel → Delimited rest →
    readValue fuel (write layout depth value ++ rest) = .ok (value, rest)

/-- There is a call left for the first character of a value. -/
theorem exists_fuel {cs : List Char} {fuel : Nat} (h : Starts cs) (hfuel : 2 * cs.length ≤ fuel) :
    ∃ left, fuel = left + 1 := by
  obtain ⟨c, rest, rfl, -⟩ := h
  rw [List.length_cons] at hfuel
  exact Nat.exists_eq_add_one_of_ne_zero (by omega)

/-- Items start as their first one does. -/
theorem starts_writeItems {item : Json} {items : List Json} (h : Exact item) :
    Starts (writeItems layout depth (item :: items)) := by
  cases items with
  | nil => exact h.starts depth
  | cons next items =>
    rw [writeItems, List.append_assoc]
    · exact (h.starts depth).append _
    · exact List.cons_ne_nil _ _

/-- An item is read, and then what stands behind it decides. -/
theorem readItems_of_readValue {fuel : Nat} {cs rest : List Char} {item : Json}
    (h : readValue fuel cs = .ok (item, rest)) (read : List Json) :
    readItems (fuel + 1) read cs
      = match skipSpace rest with
        | ']' :: after => .ok (.arr (item :: read).reverse, after)
        | ',' :: more => readItems fuel (item :: read) (skipSpace more)
        | rest => faultAt rest := by
  rw [readItems, h]
  rfl

/-- **Items are read up to the end of their array.** -/
theorem readItems_writeItems (hlayout : layout.IsBlank) {item : Json} {items : List Json}
    (hexact : ∀ value ∈ item :: items, Exact value)
    (hreads : ∀ value ∈ item :: items, ReadsBack layout depth value) {blank : List Char}
    (hblank : ∀ c ∈ blank, isSpace c = true) (fuel : Nat) (read : List Json) (rest : List Char)
    (hfuel : 2 * (writeItems layout depth (item :: items)).length + 1 ≤ fuel) :
    readItems fuel read (writeItems layout depth (item :: items) ++ (blank ++ ']' :: rest))
      = .ok (.arr (read.reverse ++ item :: items), rest) := by
  induction items generalizing item fuel read with
  | nil =>
    obtain ⟨fuel, rfl⟩ := Nat.exists_eq_add_one_of_ne_zero (by omega : fuel ≠ 0)
    rw [writeItems] at hfuel ⊢
    have hitem := hreads item List.mem_cons_self fuel (blank ++ ']' :: rest) (by omega)
      (delimited_append hblank (by decide) rest)
    rw [readItems_of_readValue hitem, skipSpace_append hblank, skipSpace_cons (by decide),
      ← List.reverse_cons]
    rfl
  | cons next items ih =>
    obtain ⟨fuel, rfl⟩ := Nat.exists_eq_add_one_of_ne_zero (by omega : fuel ≠ 0)
    obtain ⟨gap, hcomma, hgap⟩ := hlayout.comma depth
    have hstarts : Starts (writeItems layout depth (next :: items)) :=
      starts_writeItems (hexact next (by simp))
    have hlater := ih (fun value hvalue => hexact value (List.mem_cons_of_mem item hvalue))
      (fun value hvalue => hreads value (List.mem_cons_of_mem item hvalue)) fuel (item :: read)
    have hitems : writeItems layout depth (item :: next :: items)
        = write layout depth item ++ ',' :: (gap ++ writeItems layout depth (next :: items)) := by
      rw [writeItems, hcomma, List.append_assoc]
      · rfl
      · exact List.cons_ne_nil _ _
    rw [hitems] at hfuel ⊢
    simp only [List.length_append, List.length_cons] at hfuel
    rw [List.append_assoc, List.cons_append, List.append_assoc gap]
    have hitem := hreads item List.mem_cons_self fuel
      (',' :: (gap ++ (writeItems layout depth (next :: items) ++ (blank ++ ']' :: rest))))
      (by omega) (delimited_cons (by decide) _)
    rw [readItems_of_readValue hitem, skipSpace_cons (by decide)]
    show readItems fuel (item :: read) (skipSpace (gap ++ _)) = _
    rw [skipSpace_append hgap, hstarts.skipSpace_append, hlater (by omega), List.reverse_cons,
      List.append_assoc]
    rfl

/-! ## Objects -/

/-- Members start with the first name. -/
theorem starts_writeMembers (member : String × Json) (members : List (String × Json)) :
    Starts (writeMembers layout depth (member :: members)) := by
  obtain ⟨name, value⟩ := member
  cases members with
  | nil =>
    rw [writeMembers, List.append_assoc]
    exact (starts_string name).append _
  | cons next members =>
    rw [writeMembers, List.append_assoc, List.append_assoc, List.append_assoc]
    · exact (starts_string name).append _
    · exact List.cons_ne_nil _ _

/-- A member is read, and then what stands behind it decides. -/
theorem readMembers_of_readValue (hlayout : layout.IsBlank) {fuel : Nat} {cs rest : List Char}
    {value : Json} (hstarts : Starts cs) (h : readValue fuel (cs ++ rest) = .ok (value, rest))
    (read : List (String × Json)) (name : String) :
    readMembers (fuel + 1) read (string name ++ layout.colon ++ cs ++ rest)
      = match skipSpace rest with
        | '\x7d' :: after => .ok (((name, value) :: read).reverse, after)
        | ',' :: more => readMembers fuel ((name, value) :: read) (skipSpace more)
        | rest => faultAt rest := by
  obtain ⟨gap, hcolon, hgap⟩ := hlayout.colon
  have hname : readName (string name ++ layout.colon ++ cs ++ rest) = .ok (name, cs ++ rest) := by
    have htext : string name ++ layout.colon ++ cs ++ rest
        = '"' :: ((string name).tail ++ ':' :: (gap ++ (cs ++ rest))) := by
      have hstring : string name = '"' :: (string name).tail := rfl
      rw [hcolon, List.append_assoc, List.append_assoc, hstring]
      simp
    rw [htext, readName, readString_string]
    show Except.ok (name, skipSpace (gap ++ (cs ++ rest))) = _
    rw [skipSpace_append hgap, hstarts.skipSpace_append]
  rw [readMembers, hname]
  show (readValue fuel (cs ++ rest) >>= _) = _
  rw [h]
  rfl

/-- **Members are read up to the end of their object**, as they stand there. -/
theorem readMembers_writeMembers (hlayout : layout.IsBlank) {member : String × Json}
    {members : List (String × Json)} (hexact : ∀ m ∈ member :: members, Exact m.2)
    (hreads : ∀ m ∈ member :: members, ReadsBack layout depth m.2) {blank : List Char}
    (hblank : ∀ c ∈ blank, isSpace c = true) (fuel : Nat) (read : List (String × Json))
    (rest : List Char)
    (hfuel : 2 * (writeMembers layout depth (member :: members)).length + 1 ≤ fuel) :
    readMembers fuel read
        (writeMembers layout depth (member :: members) ++ (blank ++ '\x7d' :: rest))
      = .ok (read.reverse ++ member :: members, rest) := by
  induction members generalizing member fuel read with
  | nil =>
    obtain ⟨fuel, rfl⟩ := Nat.exists_eq_add_one_of_ne_zero (by omega : fuel ≠ 0)
    obtain ⟨name, value⟩ := member
    rw [writeMembers] at hfuel ⊢
    simp only [List.length_append] at hfuel
    have hvalue := hreads _ List.mem_cons_self fuel _ (by dsimp only; omega)
      (delimited_append hblank (c := '\x7d') (by decide) rest)
    rw [readMembers_of_readValue hlayout ((hexact _ List.mem_cons_self).starts depth) hvalue,
      skipSpace_append hblank, skipSpace_cons (by decide), ← List.reverse_cons]
    rfl
  | cons next members ih =>
    obtain ⟨fuel, rfl⟩ := Nat.exists_eq_add_one_of_ne_zero (by omega : fuel ≠ 0)
    obtain ⟨name, value⟩ := member
    obtain ⟨gap, hcomma, hgap⟩ := hlayout.comma depth
    have hstarts : Starts (writeMembers layout depth (next :: members)) :=
      starts_writeMembers next members
    have hlater := ih (fun m hm => hexact m (List.mem_cons_of_mem _ hm))
      (fun m hm => hreads m (List.mem_cons_of_mem _ hm)) fuel ((name, value) :: read)
    have hmembers : writeMembers layout depth ((name, value) :: next :: members)
        = string name ++ layout.colon ++ write layout depth value
          ++ ',' :: (gap ++ writeMembers layout depth (next :: members)) := by
      rw [writeMembers, hcomma, List.append_assoc]
      · rfl
      · exact List.cons_ne_nil _ _
    rw [hmembers] at hfuel ⊢
    simp only [List.length_append, List.length_cons] at hfuel
    have hvalue := hreads _ List.mem_cons_self fuel
      (',' :: (gap ++ (writeMembers layout depth (next :: members) ++ (blank ++ '\x7d' :: rest))))
      (by dsimp only; omega) (delimited_cons (by decide) _)
    rw [List.append_assoc _ (',' :: _), List.cons_append, List.append_assoc gap,
      readMembers_of_readValue hlayout ((hexact _ List.mem_cons_self).starts depth) hvalue,
      skipSpace_cons (by decide)]
    show readMembers fuel ((name, value) :: read) (skipSpace (gap ++ _)) = _
    rw [skipSpace_append hgap, hstarts.skipSpace_append, hlater (by omega), List.reverse_cons,
      List.append_assoc]
    rfl

/-! ## Values -/

/-- What starts neither a string nor an array nor an object is a word or a
number. -/
theorem readValue_scalar {c : Char} (hquote : c ≠ '"') (harray : c ≠ '[') (hobject : c ≠ '\x7b')
    (fuel : Nat) (rest : List Char) :
    readValue (fuel + 1) (c :: rest) = readScalar (c :: rest) := by
  rw [readValue]
  · exact fun _ heq => hquote (List.cons.inj heq).1
  · exact fun _ heq => harray (List.cons.inj heq).1
  · exact fun _ heq => hobject (List.cons.inj heq).1

/-- Behind an opening bracket and blanks, what starts a value starts items. -/
theorem readValue_openArray {blank cs : List Char} (hblank : ∀ c ∈ blank, isSpace c = true)
    (hstarts : Starts cs) (fuel : Nat) :
    readValue (fuel + 1) ('[' :: (blank ++ cs)) = readItems fuel [] cs := by
  obtain ⟨c, rest, rfl, hspace, hclose, -⟩ := hstarts
  rw [readValue, skipSpace_append hblank, skipSpace_cons hspace]
  split
  · rename_i heq
    exact absurd (List.cons.inj heq).1 hclose
  · rfl

/-- Behind an opening brace and blanks, what starts a name starts members. -/
theorem readValue_openObject {blank cs : List Char} (hblank : ∀ c ∈ blank, isSpace c = true)
    (hstarts : Starts cs) (fuel : Nat) :
    readValue (fuel + 1) ('\x7b' :: (blank ++ cs))
      = (readMembers fuel [] cs).map fun (bindings, after) =>
        (.obj (ofBindings bindings), after) := by
  obtain ⟨c, rest, rfl, hspace, -, hclose⟩ := hstarts
  rw [readValue, skipSpace_append hblank, skipSpace_cons hspace]
  split
  · rename_i heq
    exact absurd (List.cons.inj heq).1 hclose
  · rfl

/-- **Every exact value is read back**, with anything behind it that delimits
it. -/
theorem Exact.readsBack (hlayout : layout.IsBlank) {value : Json} (h : Exact value)
    (depth : Nat) : ReadsBack layout depth value := by
  induction h generalizing depth with
  | null =>
    intro fuel rest hfuel hrest
    obtain ⟨fuel, rfl⟩ := exists_fuel (Exact.null.starts depth) hfuel
    rfl
  | bool value =>
    intro fuel rest hfuel hrest
    obtain ⟨fuel, rfl⟩ := exists_fuel ((Exact.bool value).starts depth) hfuel
    cases value <;> rfl
  | @int n short =>
    intro fuel rest hfuel hrest
    obtain ⟨fuel, rfl⟩ := exists_fuel ((Exact.int short).starts depth) hfuel
    have hscalar := readScalar_int short hrest
    obtain ⟨c, later, htext, hc⟩ := exists_toList_toString n
    have hwrite : write layout depth (.int n) = c :: later := htext
    rw [htext] at hscalar
    have hne : c ≠ '"' ∧ c ≠ '[' ∧ c ≠ '\x7b' := by
      refine ⟨?_, ?_, ?_⟩ <;> rintro rfl <;> revert hc <;> decide
    rw [hwrite, List.cons_append, readValue_scalar hne.1 hne.2.1 hne.2.2]
    exact hscalar
  | str s =>
    intro fuel rest hfuel hrest
    obtain ⟨fuel, rfl⟩ := exists_fuel ((Exact.str s).starts depth) hfuel
    show (readString _ [] ((string s).tail ++ rest)).map _ = _
    rw [readString_string]
    rfl
  | @arr items values ih =>
    intro fuel rest hfuel hrest
    obtain ⟨fuel, rfl⟩ := exists_fuel ((Exact.arr values).starts depth) hfuel
    cases items with
    | nil => rfl
    | cons item items =>
      have hwrite : write layout depth (.arr (item :: items))
          = '[' :: (layout.line (depth + 1) ++ (writeItems layout (depth + 1) (item :: items)
            ++ (layout.line depth ++ [']']))) := by
        rw [write]
        simp
      have hstarts : Starts (writeItems layout (depth + 1) (item :: items)) :=
        starts_writeItems (values item List.mem_cons_self)
      have hitems := readItems_writeItems hlayout values (fun v hv => ih v hv (depth + 1))
        (hlayout.line depth) fuel [] rest
      rw [hwrite] at hfuel ⊢
      simp only [List.length_cons, List.length_append] at hfuel
      rw [List.cons_append, List.append_assoc, List.append_assoc, List.append_assoc,
        readValue_openArray (hlayout.line _) (hstarts.append _)]
      exact hitems (by omega)
  | @obj members distinct values ih =>
    intro fuel rest hfuel hrest
    obtain ⟨fuel, rfl⟩ := exists_fuel ((Exact.obj distinct values).starts depth) hfuel
    cases members with
    | nil => rfl
    | cons member members =>
      have hwrite : write layout depth (.obj (member :: members))
          = '\x7b' :: (layout.line (depth + 1) ++ (writeMembers layout (depth + 1)
            (member :: members) ++ (layout.line depth ++ ['\x7d']))) := by
        rw [write]
        simp
      have hstarts : Starts (writeMembers layout (depth + 1) (member :: members)) :=
        starts_writeMembers member members
      rw [hwrite] at hfuel ⊢
      simp only [List.length_cons, List.length_append] at hfuel
      have hmembers := readMembers_writeMembers hlayout values (fun m hm => ih m hm (depth + 1))
        (hlayout.line depth) fuel [] rest (by omega)
      rw [List.cons_append, List.append_assoc, List.append_assoc, List.append_assoc,
        readValue_openObject (hlayout.line _) (hstarts.append _)]
      show (readMembers _ _ (_ ++ (_ ++ '\x7d' :: rest))).map _ = _
      rw [hmembers]
      show Except.ok (Json.obj (ofBindings (member :: members)), rest) = _
      rw [ofBindings_of_nodup distinct]

/-- **What is written of a value is read as the value**, in every layout that
puts blanks between the parts. -/
theorem read_write (hlayout : layout.IsBlank) {value : Json} (h : Exact value) (depth : Nat) :
    read (write layout depth value) = .ok value := by
  have hstarts : Starts (write layout depth value) := h.starts depth
  have hskip := hstarts.skipSpace_append []
  have hvalue := h.readsBack hlayout depth (2 * (write layout depth value).length + 2) []
    (by omega) (fun _ hc => nomatch hc)
  rw [List.append_nil] at hskip hvalue
  unfold read
  rw [hskip, hvalue]
  rfl

/-- **A value on several lines is read back.** -/
theorem read_pretty {value : Json} (h : Exact value) :
    read (pretty value).toList = .ok value := by
  rw [pretty, String.toList_ofList]
  exact read_write isBlank_indented h 0

end SourceLens.Json
