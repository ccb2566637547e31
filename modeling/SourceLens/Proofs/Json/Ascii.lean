import Mathlib
import SourceLens.Json.Writer

/-!
# Values are written in ASCII

Whatever characters a value holds, its text holds visible characters of ASCII
and spaces only, and line breaks where the layout puts them
(`Json.plain_of_mem_pretty`). So the text is the same in every encoding that
agrees with ASCII, and there is no carriage return in it that could be taken
for a line break.
-/

namespace SourceLens

/-- A character of ASCII that can be seen, or a space. -/
def IsVisible (c : Char) : Prop :=
  0x20 ≤ c.toNat ∧ c.toNat ≤ 0x7E

instance decidableIsVisible (c : Char) : Decidable (IsVisible c) :=
  inferInstanceAs (Decidable (_ ∧ _))

/-- Characters that are known can be looked at one by one. -/
theorem visible_of_all {cs : List Char} (h : cs.all (IsVisible ·) = true) :
    ∀ c ∈ cs, IsVisible c :=
  fun c hc => of_decide_eq_true (List.all_eq_true.mp h c hc)

/-- Digits can be seen. -/
theorem IsVisible.of_isDigit {c : Char} (h : c.isDigit = true) : IsVisible c := by
  have hbounds := Char.isDigit_iff_toNat.mp h
  have hlimits : '0'.toNat = 0x30 ∧ '9'.toNat = 0x39 := ⟨rfl, rfl⟩
  exact ⟨by omega, by omega⟩

/-- The digits of a number can be seen. -/
theorem visible_toDigits (n : Nat) : ∀ c ∈ Nat.toDigits 10 n, IsVisible c :=
  fun _ hc => .of_isDigit (Nat.isDigit_of_mem_toDigits (by decide : 0 < 10) (by decide) hc)

/-- A text can be seen if its parts can. -/
theorem visible_append {s t : String} (hs : ∀ c ∈ s.toList, IsVisible c)
    (ht : ∀ c ∈ t.toList, IsVisible c) : ∀ c ∈ (s ++ t).toList, IsVisible c := by
  rw [String.toList_append]
  exact List.forall_mem_append.mpr ⟨hs, ht⟩

theorem visible_ofList {cs : List Char} (h : ∀ c ∈ cs, IsVisible c) :
    ∀ c ∈ (String.ofList cs).toList, IsVisible c := by
  rw [String.toList_ofList]
  exact h

/-! ## Numbers -/

theorem visible_natRepr (n : Nat) : ∀ c ∈ n.repr.toList, IsVisible c := by
  rw [Nat.repr_eq_ofList_toDigits]
  exact visible_ofList (visible_toDigits n)

theorem visible_intRepr (n : Int) : ∀ c ∈ n.repr.toList, IsVisible c := by
  rw [Int.repr_eq_if]
  split
  · exact visible_natRepr _
  · exact visible_append (visible_of_all (by decide)) (visible_natRepr _)

namespace Binary64

/-- However a decimal is laid out, it can be seen. -/
theorem visible_layout (n : Nat) (power : Int) : ∀ c ∈ (layout n power).toList, IsVisible c := by
  have hdigits := visible_toDigits n
  have htake : ∀ k, ∀ c ∈ (Nat.toDigits 10 n).take k, IsVisible c :=
    fun k c hc => hdigits c (List.mem_of_mem_take hc)
  have hdrop : ∀ k, ∀ c ∈ (Nat.toDigits 10 n).drop k, IsVisible c :=
    fun k c hc => hdigits c (List.mem_of_mem_drop hc)
  have hzeros : ∀ k, ∀ c ∈ List.replicate k '0', IsVisible c :=
    fun k c hc => List.eq_of_mem_replicate hc ▸ by decide
  unfold layout
  dsimp only
  split
  · split
    · refine visible_append (visible_of_all (by decide)) (visible_ofList ?_)
      exact List.forall_mem_append.mpr ⟨hzeros _, hdigits⟩
    · refine visible_append (visible_append (visible_ofList ?_) (visible_of_all (by decide))) ?_
      · exact List.forall_mem_append.mpr ⟨htake _, hzeros _⟩
      · split
        · exact visible_of_all (by decide)
        · exact visible_ofList (hdrop _)
  · refine visible_append (visible_append (visible_append (visible_append ?_ ?_) ?_) ?_) ?_
    · exact visible_ofList (htake _)
    · split
      · exact visible_of_all (by decide)
      · exact visible_append (visible_of_all (by decide)) (visible_ofList (hdrop _))
    · exact visible_of_all (by decide)
    · split
      · exact visible_of_all (by decide)
      · exact visible_of_all (by decide)
    · split
      · exact visible_append (visible_of_all (by decide)) (visible_natRepr _)
      · exact visible_natRepr _

/-- **The text of a number can be seen.** -/
theorem visible_text (x : Binary64) : ∀ c ∈ x.text.toList, IsVisible c := by
  cases x with
  | nan => exact visible_of_all (by decide)
  | infinite negative => cases negative <;> exact visible_of_all (by decide)
  | finite negative mantissa exponent =>
    have hsize : ∀ c ∈ (if mantissa == 0 then "0.0"
        else layout (shortest mantissa exponent).1 (shortest mantissa exponent).2).toList,
        IsVisible c := by
      split
      · exact visible_of_all (by decide)
      · exact visible_layout _ _
    cases negative with
    | false => exact hsize
    | true => exact visible_append (visible_of_all (by decide)) hsize

end Binary64

/-! ## Values -/

namespace Json

open Writer

theorem visible_hexDigits (width n : Nat) : ∀ c ∈ Quoted.hexDigits width n, IsVisible c := by
  have hdigit : ∀ v < 16, IsVisible (Quoted.hexDigit v) := by decide
  induction width generalizing n with
  | zero => exact fun c hc => nomatch hc
  | succ width ih =>
    rw [Quoted.hexDigits, List.forall_mem_append, List.forall_mem_singleton]
    exact ⟨ih _, hdigit _ (Nat.mod_lt n (by decide))⟩

theorem visible_escapeUnit (code : Nat) : ∀ c ∈ escapeUnit code, IsVisible c := by
  rw [escapeUnit, List.forall_mem_cons, List.forall_mem_cons]
  exact ⟨by decide, by decide, visible_hexDigits 4 code⟩

/-- **An escaped character can be seen.** -/
theorem visible_escapeChar (c : Char) : ∀ d ∈ escapeChar c, IsVisible d := by
  unfold escapeChar
  iterate 7
    split
    · exact visible_of_all (by decide)
  dsimp only
  split
  · rename_i hvisible
    rw [Bool.and_eq_true, decide_eq_true_eq, decide_eq_true_eq] at hvisible
    exact List.forall_mem_singleton.mpr hvisible
  · split
    · exact visible_escapeUnit _
    · exact List.forall_mem_append.mpr ⟨visible_escapeUnit _, visible_escapeUnit _⟩

theorem visible_string (s : String) : ∀ c ∈ string s, IsVisible c := by
  rw [string, List.cons_append, List.forall_mem_cons, List.forall_mem_append]
  refine ⟨by decide, ?_, visible_of_all (by decide)⟩
  intro c hc
  obtain ⟨d, -, hd⟩ := List.mem_flatMap.mp hc
  exact visible_escapeChar d c hd

/-- A value without parts can be seen. -/
theorem visible_scalar (value : Json) : ∀ c ∈ scalar value, IsVisible c := by
  cases value with
  | null => exact visible_of_all (by decide)
  | bool value => cases value <;> exact visible_of_all (by decide)
  | int n => exact visible_intRepr n
  | float x =>
    cases x with
    | nan => exact visible_of_all (by decide)
    | infinite negative => cases negative <;> exact visible_of_all (by decide)
    | finite negative mantissa exponent => exact Binary64.visible_text _
  | str s => exact visible_string s
  | arr items => exact fun c hc => nomatch hc
  | obj members => exact fun c hc => nomatch hc

/-- A visible character, or a line break. -/
def IsPlain (c : Char) : Prop :=
  c = '\n' ∨ IsVisible c

/-- Lines and indentation are plain. -/
theorem plain_lineBreak (depth : Nat) : ∀ c ∈ lineBreak depth, IsPlain c := by
  rw [lineBreak, List.forall_mem_cons]
  exact ⟨.inl rfl, fun c hc => .inr (List.eq_of_mem_replicate hc ▸ by decide)⟩

/-- So is what separates two parts. -/
theorem plain_comma (depth : Nat) : ∀ c ∈ indented.comma depth, IsPlain c :=
  List.forall_mem_cons.mpr ⟨.inr (by decide), plain_lineBreak depth⟩

theorem plain_colon : ∀ c ∈ indented.colon, IsPlain c :=
  fun c hc => .inr (visible_of_all (by decide) c hc)

theorem plain_string (s : String) : ∀ c ∈ string s, IsPlain c :=
  fun c hc => .inr (visible_string s c hc)

theorem plain_scalar (value : Json) : ∀ c ∈ scalar value, IsPlain c :=
  fun c hc => .inr (visible_scalar value c hc)

mutual

/-- What is written of a value is plain. -/
theorem plain_write : ∀ (value : Json) (depth : Nat), ∀ c ∈ write indented depth value, IsPlain c
  | .arr items, depth => by
    rw [write]
    split
    · exact fun c hc => .inr (visible_of_all (by decide) c hc)
    · simp only [List.cons_append, List.append_assoc, List.forall_mem_cons, List.forall_mem_append]
      exact ⟨.inr (by decide), plain_lineBreak _, plain_writeItems items _, plain_lineBreak _,
        .inr (by decide), fun c hc => nomatch hc⟩
  | .obj members, depth => by
    rw [write]
    split
    · exact fun c hc => .inr (visible_of_all (by decide) c hc)
    · simp only [List.cons_append, List.append_assoc, List.forall_mem_cons, List.forall_mem_append]
      exact ⟨.inr (by decide), plain_lineBreak _, plain_writeMembers members _, plain_lineBreak _,
        .inr (by decide), fun c hc => nomatch hc⟩
  | .null, _ => plain_scalar .null
  | .bool value, _ => plain_scalar (.bool value)
  | .int n, _ => plain_scalar (.int n)
  | .float x, _ => plain_scalar (.float x)
  | .str s, _ => plain_scalar (.str s)

theorem plain_writeItems : ∀ (items : List Json) (depth : Nat),
    ∀ c ∈ writeItems indented depth items, IsPlain c
  | [], _ => fun c hc => nomatch hc
  | [item], depth => plain_write item depth
  | item :: next :: items, depth => by
    rw [writeItems, List.forall_mem_append, List.forall_mem_append]
    · exact ⟨⟨plain_write item depth, plain_comma depth⟩, plain_writeItems (next :: items) depth⟩
    · exact List.cons_ne_nil _ _

theorem plain_writeMembers : ∀ (members : List (String × Json)) (depth : Nat),
    ∀ c ∈ writeMembers indented depth members, IsPlain c
  | [], _ => fun c hc => nomatch hc
  | [(name, value)], depth => by
    rw [writeMembers, List.forall_mem_append, List.forall_mem_append]
    exact ⟨⟨plain_string name, plain_colon⟩, plain_write value depth⟩
  | (name, value) :: next :: members, depth => by
    rw [writeMembers]
    · simp only [List.forall_mem_append]
      exact ⟨⟨⟨⟨plain_string name, plain_colon⟩, plain_write value depth⟩, plain_comma depth⟩,
        plain_writeMembers (next :: members) depth⟩
    · exact List.cons_ne_nil _ _

end

/-- **A value on several lines is visible characters of ASCII, spaces and line
breaks.** -/
theorem plain_of_mem_pretty (value : Json) : ∀ c ∈ (pretty value).toList, IsPlain c := by
  rw [pretty, String.toList_ofList]
  exact plain_write value 0

end Json

end SourceLens
