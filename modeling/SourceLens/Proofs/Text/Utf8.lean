import Mathlib.Tactic.Common
import SourceLens.Text.LineBreak

/-!
# Text that is written is read back

A character is written in one to four octets. The reader, before the first of
them, is again between two characters after the last, and has read the
character (`Utf8.foldl_step_encodeChar`); so it reads every string back, and
nothing in it is malformed (`Utf8.decode?_encode`).

Line breaks are another matter: a carriage return does not survive. A text
without one is not changed (`LineBreak.normalize_of_not_mem`).
-/

namespace SourceLens

namespace Utf8

variable {chars : Array Char} {malformed : Bool}

/-- A number that fits into an octet is the value of the octet. -/
theorem toNat_toUInt8 {n : Nat} (h : n < 256) : n.toUInt8.toNat = n :=
  UInt8.toNat_ofNat_of_lt' h

/-- An octet between two characters is the first of a character. -/
theorem step_character {n : Nat} (h : n < 256) :
    Reader.step ⟨chars, malformed, .character⟩ n.toUInt8
      = Reader.first ⟨chars, malformed, .character⟩ n := by
  rw [Reader.step, toNat_toUInt8 h]

/-- The last octet of a character. -/
theorem step_last {bits low high n : Nat} (h : n < 256) (hlow : low ≤ n) (hhigh : n ≤ high) :
    Reader.step ⟨chars, malformed, .rest bits 1 low high⟩ n.toUInt8
      = ⟨chars.push (Char.ofNat (bits * 64 + (n - 0x80))), malformed, .character⟩ := by
  rw [Reader.step, toNat_toUInt8 h]
  dsimp only
  rw [if_pos (by simp [hlow, hhigh]), if_pos (Nat.le_refl 1), Reader.accept]

/-- An octet before the last one. -/
theorem step_rest {bits owed low high n : Nat} (h : n < 256) (hlow : low ≤ n) (hhigh : n ≤ high) :
    Reader.step ⟨chars, malformed, .rest bits (owed + 2) low high⟩ n.toUInt8
      = ⟨chars, malformed, .rest (bits * 64 + (n - 0x80)) (owed + 1) 0x80 0xBF⟩ := by
  rw [Reader.step, toNat_toUInt8 h]
  dsimp only
  rw [if_pos (by simp [hlow, hhigh]), if_neg (by omega)]
  rfl

/-- The first of two octets. -/
theorem first_two {n : Nat} (hlow : 0xC2 ≤ n) (hhigh : n ≤ 0xDF) :
    Reader.first ⟨chars, malformed, .character⟩ n
      = ⟨chars, malformed, .rest (n - 0xC0) 1 0x80 0xBF⟩ := by
  rw [Reader.first, if_neg (by omega), if_neg (by omega), if_pos hhigh]

/-- The first of three octets lets the second pass, unless the character could
be written in two or would be half of a surrogate pair. -/
theorem first_three (chars : Array Char) (malformed : Bool) {code : Nat} (hlow : 0x800 ≤ code)
    (hhigh : code < 0x10000) (hvalid : code < 0xD800 ∨ 0xDFFF < code) : ∃ low high,
      Reader.first ⟨chars, malformed, .character⟩ (0xE0 + code / 4096)
        = ⟨chars, malformed, .rest (code / 4096) 2 low high⟩ ∧
      low ≤ 0x80 + code / 64 % 64 ∧ 0x80 + code / 64 % 64 ≤ high := by
  rw [Reader.first, if_neg (by omega), if_neg (by omega), if_neg (by omega)]
  split
  · rename_i hfirst
    have hzero : code / 4096 = 0 := by
      have := beq_iff_eq.mp hfirst
      omega
    rw [hzero]
    exact ⟨_, _, rfl, by omega, by omega⟩
  · split
    · rename_i hfirst
      have hsurrogates : code / 4096 = 0xD := by
        have := beq_iff_eq.mp hfirst
        omega
      rw [hsurrogates]
      exact ⟨_, _, rfl, by omega, by omega⟩
    · rw [if_pos (by omega), Nat.add_sub_cancel_left]
      exact ⟨_, _, rfl, by omega, by omega⟩

/-- The first of four octets lets the second pass, unless the character could
be written in three or is beyond the last one. -/
theorem first_four (chars : Array Char) (malformed : Bool) {code : Nat} (hlow : 0x10000 ≤ code)
    (hhigh : code < 0x110000) : ∃ low high,
      Reader.first ⟨chars, malformed, .character⟩ (0xF0 + code / 262144)
        = ⟨chars, malformed, .rest (code / 262144) 3 low high⟩ ∧
      low ≤ 0x80 + code / 4096 % 64 ∧ 0x80 + code / 4096 % 64 ≤ high := by
  have hne : ((0xF0 + code / 262144 == 0xE0) = false) ∧ (0xF0 + code / 262144 == 0xED) = false := by
    constructor <;> rw [beq_eq_false_iff_ne] <;> omega
  rw [Reader.first, if_neg (by omega), if_neg (by omega), if_neg (by omega), hne.1, hne.2,
    if_neg Bool.false_ne_true, if_neg Bool.false_ne_true, if_neg (by omega)]
  split
  · rename_i hfirst
    have hzero : code / 262144 = 0 := by
      have := beq_iff_eq.mp hfirst
      omega
    rw [hzero]
    exact ⟨_, _, rfl, by omega, by omega⟩
  · split
    · rw [Nat.add_sub_cancel_left]
      exact ⟨_, _, rfl, by omega, by omega⟩
    · have hlast : code / 262144 = 4 := by omega
      rw [hlast]
      exact ⟨_, _, rfl, by omega, by omega⟩

/-- **The octets of a character are read as the character.** -/
theorem foldl_step_encodeChar (c : Char) :
    (encodeChar c).foldl Reader.step ⟨chars, malformed, .character⟩
      = ⟨chars.push c, malformed, .character⟩ := by
  have hvalid : c.toNat < 0xD800 ∨ 0xDFFF < c.toNat ∧ c.toNat < 0x110000 := c.valid
  have hlimit : c.toNat < 0x110000 := by omega
  have hchar : ∀ code, code = c.toNat → Char.ofNat code = c := by
    rintro _ rfl
    exact Char.ofNat_toNat c
  unfold encodeChar
  dsimp only
  split
  · rename_i hone
    rw [List.foldl_cons, List.foldl_nil, step_character (by omega), Reader.first,
      if_pos (by omega), Reader.accept, hchar _ rfl]
  · split
    · rw [List.foldl_cons, List.foldl_cons, List.foldl_nil, step_character (by omega),
        first_two (by omega) (by omega), step_last (by omega) (by omega) (by omega),
        hchar _ (by omega)]
    · split
      · obtain ⟨low, high, hfirst, hlow, hhigh⟩ :=
          first_three chars malformed (by omega : 0x800 ≤ c.toNat) (by omega) (by omega)
        rw [List.foldl_cons, List.foldl_cons, List.foldl_cons, List.foldl_nil,
          step_character (by omega), hfirst, step_rest (by omega) hlow hhigh,
          step_last (by omega) (by omega) (by omega), hchar _ (by omega)]
      · obtain ⟨low, high, hfirst, hlow, hhigh⟩ :=
          first_four chars malformed (by omega : 0x10000 ≤ c.toNat) hlimit
        rw [List.foldl_cons, List.foldl_cons, List.foldl_cons, List.foldl_cons, List.foldl_nil,
          step_character (by omega), hfirst, step_rest (by omega) hlow hhigh,
          step_rest (by omega) (by omega) (by omega),
          step_last (by omega) (by omega) (by omega), hchar _ (by omega)]

/-- The octets of characters are read as the characters. -/
theorem foldl_step_encode (cs : List Char) :
    (cs.flatMap encodeChar).foldl Reader.step ⟨chars, malformed, .character⟩
      = ⟨chars ++ cs.toArray, malformed, .character⟩ := by
  induction cs generalizing chars with
  | nil => rw [List.flatMap_nil, List.foldl_nil, Array.append_empty]
  | cons c cs ih =>
    rw [List.flatMap_cons, List.foldl_append, foldl_step_encodeChar, ih]
    simp

/-- **Every string is read back from its octets.** -/
theorem decode?_encode (s : String) : decode? (encode s) = some (.ofString s) := by
  have hread : read (encode s) = ⟨s.toList.toArray, false, .character⟩ := by
    rw [read, encode, List.foldl_toArray, Reader.initial, foldl_step_encode, Array.empty_append]
    rfl
  rw [decode?, hread]
  rfl

end Utf8

namespace LineBreak

/-- **A text without carriage returns has its line breaks already.** -/
theorem normalize_of_not_mem {text : Text} (h : '\r' ∉ text) : normalize text = text := by
  have hstep : ∀ cs : List Char, '\r' ∉ cs → ∀ chars,
      (cs.foldl Reader.step ⟨chars, false⟩).chars = chars ++ cs.toArray := by
    intro cs
    induction cs with
    | nil => exact fun _ chars => (Array.append_empty).symm
    | cons c cs ih =>
      intro hcs chars
      rw [List.mem_cons, not_or] at hcs
      obtain ⟨hc, hcs⟩ := hcs
      rw [List.foldl_cons, Reader.step, if_neg (by simpa using Ne.symm hc),
        if_neg (by simp), ih hcs]
      simp
  rw [normalize, ← Array.foldl_toList, hstep _ (by simpa using h), Array.empty_append]

end LineBreak

end SourceLens
