import Mathlib.Tactic.Common
import SourceLens.Text.Basic

/-!
# Characters and slices of a text

A slice of a text has the characters of the stretch, at offsets that count from
where it starts. A slice of a slice is one of the text, and with what comes
behind it a slice is the rest of the text.
-/

namespace SourceLens.Text

variable {text : Text} {start stop offset : Nat}

/-! ## Characters -/

/-- A character stands at an offset. -/
theorem hasAt_iff {c : Char} : text.hasAt offset c = true ↔ text[offset]? = some c := by
  rw [hasAt, beq_iff_eq]

/-- Where a character stands, there is text. -/
theorem lt_size_of_hasAt {c : Char} (h : text.hasAt offset c = true) : offset < text.size :=
  (Array.getElem?_eq_some_iff.mp (hasAt_iff.mp h)).1

/-- There is one character at an offset. -/
theorem eq_of_hasAt {c d : Char} (hc : text.hasAt offset c = true)
    (hd : text.hasAt offset d = true) : c = d :=
  Option.some.inj ((hasAt_iff.mp hc).symm.trans (hasAt_iff.mp hd))

theorem ofString_toString (text : Text) : ofString text.toString = text := by
  rw [ofString, toString, String.toList_ofList, Array.toArray_toList]

/-! ## Slices -/

theorem size_slice (h : stop ≤ text.size) : (text.slice start stop).size = stop - start := by
  unfold slice
  rw [Array.size_extract, Nat.min_eq_left h]

theorem length_slice : (text.slice start stop).toList.length = min stop text.size - start := by
  unfold slice
  rw [Array.length_toList, Array.size_extract]

theorem slice_size (text : Text) : text.slice 0 text.size = text :=
  Array.extract_size

theorem slice_eq_empty (h : stop ≤ start) : text.slice start stop = #[] := by
  rw [slice, Array.extract_eq_empty_of_le (Nat.le_trans (Nat.min_le_left _ _) h)]

/-- A slice with a character that is not blank is not empty. -/
theorem lt_of_hasInk (h : (text.slice start stop).hasInk = true) : start < stop := by
  by_contra hle
  rw [slice_eq_empty (Nat.le_of_not_lt hle)] at h
  simp [hasInk] at h

/-- A slice with a character that is not blank shows it. -/
theorem hasInk_slice {c : Char} (hc : text.hasAt offset c = true)
    (hblank : CharClass.isBlank c = false) (hstart : start ≤ offset) (hstop : offset < stop) :
    (text.slice start stop).hasInk = true := by
  obtain ⟨hlt, rfl⟩ := Array.getElem?_eq_some_iff.mp (hasAt_iff.mp hc)
  refine Array.any_eq_true.mpr ⟨offset - start, ?_, ?_⟩
  · rw [slice, Array.size_extract]
    omega
  · simp only [slice, Array.getElem_extract, Nat.add_sub_of_le hstart, hblank, Bool.not_false]

theorem getElem?_slice (hin : stop ≤ text.size) (h : start + offset < stop) :
    (text.slice start stop)[offset]? = text[start + offset]? := by
  rw [slice, Array.getElem?_extract, Nat.min_eq_left hin, if_pos (by omega)]

theorem hasAt_slice (hin : stop ≤ text.size) (h : start + offset < stop) (c : Char) :
    (text.slice start stop).hasAt offset c = text.hasAt (start + offset) c := by
  rw [hasAt, hasAt, getElem?_slice hin h]

/-- A slice of a slice. -/
theorem slice_slice {first last : Nat} (h : start + last ≤ stop) :
    (text.slice start stop).slice first last = text.slice (start + first) (start + last) := by
  rw [slice, slice, slice, Array.extract_extract, Nat.min_eq_left h]

/-- A slice that starts later is the end of one that ends at the same place. -/
theorem slice_suffix {later : Nat} (h : start ≤ later) (h' : later ≤ stop) :
    (text.slice later stop).toList <:+ (text.slice start stop).toList := by
  refine ⟨(text.slice start later).toList, ?_⟩
  rw [← Array.toList_append, slice, slice, slice, Array.extract_append_extract,
    Nat.min_eq_left h, Nat.max_eq_right h']

/-- A slice that starts later is a different one. -/
theorem slice_ne_of_lt {later : Nat} (h : start < later) (h' : later ≤ stop)
    (hin : stop ≤ text.size) : text.slice later stop ≠ text.slice start stop := by
  intro heq
  have hsize := congrArg Array.size heq
  rw [size_slice hin, size_slice hin] at hsize
  omega

/-- A slice and what comes after it. -/
theorem slice_append_drop (h : start ≤ stop) :
    (text.slice start stop).toList ++ text.toList.drop stop = text.toList.drop start := by
  have hdrop : text.toList.drop stop = (text.toList.drop start).drop (stop - start) := by
    rw [List.drop_drop, Nat.add_sub_of_le h]
  unfold slice
  rw [Array.toList_extract, List.extract_eq_take_drop, hdrop, List.take_append_drop]

end SourceLens.Text
