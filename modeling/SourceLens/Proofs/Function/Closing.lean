import Mathlib
import SourceLens.Proofs.Function.Balance

/-!
# Where blocks close

A block starts at an opening brace and nowhere else, and then its end is told by
the numbers of braces in the stretches from there on: it closes at the end of the
shortest balanced stretch, or runs to the end of the text if there is none
(`Block.blockEnd_by_counts`).

A block that closes is told by its own characters. The shortest balanced stretch
is looked for among the starts of the block, which are the same wherever the
block stands (`Text.slice_part`), so text put before or after it only shifts its
end (`Block.ClosesAt.blockEnd_elsewhere`). A block that does not close has no
such law: a brace that is appended may close it.
-/

namespace SourceLens

variable {text other : Text} {start stop place size : Nat}

/-- Equal slices have equal parts. -/
theorem Text.slice_part (hsame : other.slice place (place + size) = text.slice start (start + size))
    {part : Nat} (h : part ≤ size) :
    other.slice place (place + part) = text.slice start (start + part) := by
  have hparts : (other.slice place (place + size)).slice 0 part
      = (text.slice start (start + size)).slice 0 part := by rw [hsame]
  rwa [Text.slice_slice (by omega), Text.slice_slice (by omega)] at hparts

/-- A slice of a text, with more text around it. -/
theorem Text.slice_surrounded (before after : Text) (h : stop ≤ text.size) :
    (before ++ text ++ after).slice (before.size + start) (before.size + stop)
      = text.slice start stop := by
  have hbehind : after.extract (before.size + start - (before ++ text).size)
      (before.size + stop - (before ++ text).size) = #[] := by
    rw [Array.size_append, Array.extract_eq_empty_of_le (by omega)]
  rw [Text.slice, Text.slice, Array.extract_append, hbehind, Array.append_empty,
    Array.extract_append, Array.extract_eq_empty_of_le (by omega), Array.empty_append,
    Nat.add_sub_cancel_left, Nat.add_sub_cancel_left]

namespace Block

/-- **A closed block**, told by the numbers of braces in the stretches from its
opening brace on. -/
structure IsClosed (text : Text) (start stop : Nat) : Prop where
  /-- The block is the shortest balanced stretch. -/
  shortest : ClosesAt text start stop
  in_text : stop ≤ text.size
  /-- In all shorter stretches more braces are opened than closed. -/
  open_before : ∀ mid, start < mid → mid < stop →
    (text.slice start mid).count '}' < (text.slice start mid).count '{'
  /-- The last character closes the block. -/
  last : text.hasAt (stop - 1) '}' = true
  /-- The same block ends there wherever it stands. -/
  elsewhere : ∀ (other : Text) (place : Nat),
    other.slice place (place + (stop - start)) = text.slice start stop →
      blockEnd other (place : Int) = .ok (place + (stop - start))
  /-- In particular text put before it shifts its end, and text appended to it
  does nothing. -/
  surrounded : ∀ before after : Text,
    blockEnd (before ++ text ++ after) ((before.size + start : Nat) : Int)
      = .ok (before.size + stop)

/-- A closed block is one of its text. -/
theorem ClosesAt.bounds (h : ClosesAt text start stop) (hopen : text.hasAt start '{' = true) :
    start < stop ∧ stop ≤ text.size :=
  EndsAt.bounds (Or.inl h) hopen

/-- **Braces are open in a block** before it closes. -/
theorem ClosesAt.excess_pos (h : ClosesAt text start stop) (hopen : text.hasAt start '{' = true)
    {mid : Nat} (hfrom : start < mid) (hto : mid < stop) : 0 < excess text start mid :=
  Block.excess_pos hopen hfrom fun _ hbehind hle hbalanced =>
    absurd (h.2 ⟨hbehind, hbalanced⟩) (by omega)

/-- **The last character of a closed block closes it**: braces are open before
it, and none behind it. -/
theorem ClosesAt.hasAt_last (h : ClosesAt text start stop) (hopen : text.hasAt start '{' = true) :
    text.hasAt (stop - 1) '}' = true := by
  obtain ⟨last, rfl⟩ := Nat.exists_eq_succ_of_ne_zero (Nat.ne_zero_of_lt h.1.1)
  have hzero : excess text start (last + 1) = 0 := excess_eq_zero_iff.mpr h.1.2
  -- the opening brace alone is not balanced
  have hbehind : start < last := by
    refine Nat.lt_of_le_of_ne (Nat.le_of_lt_succ h.1.1) fun heq => ?_
    rw [← heq, excess_succ_of_hasAt hopen] at hzero
    cases hzero
  have hpos := h.excess_pos hopen hbehind (Nat.lt_succ_self last)
  have hsum := excess_add text hbehind.le (Nat.le_add_right last 1)
  have hin : last < text.size := (h.bounds hopen).2
  have hc := Array.getElem?_eq_getElem hin
  have hlast := excess_succ hc
  rw [Nat.succ_sub_one, Text.hasAt_iff, hc]
  split_ifs at hlast with hopens hcloses
  · omega
  · rw [hcloses]
  · omega

/-- **A closed block is one wherever it stands.** -/
theorem ClosesAt.of_slice_eq (h : ClosesAt text start (start + size))
    (hsame : other.slice place (place + size) = text.slice start (start + size)) :
    ClosesAt other place (place + size) := by
  have hparts {part : Nat} (hle : part ≤ size) :
      IsBalanced other place (place + part) ↔ IsBalanced text start (start + part) := by
    rw [IsBalanced, IsBalanced, Text.slice_part hsame hle]
  obtain ⟨⟨hlt, hbalanced⟩, hleast⟩ := h
  refine ⟨⟨by omega, (hparts (Nat.le_refl size)).mpr hbalanced⟩, ?_⟩
  rintro mid ⟨hfrom, hmid⟩
  by_contra hnot
  obtain ⟨part, rfl⟩ := Nat.exists_eq_add_of_le hfrom.le
  have hleast' : start + size ≤ start + part :=
    hleast ⟨by omega, (hparts (by omega)).mp hmid⟩
  omega

/-- **The end of a closed block** is found wherever the block stands. -/
theorem ClosesAt.blockEnd_elsewhere (h : ClosesAt text start (start + size))
    (hopen : text.hasAt start '{' = true)
    (hsame : other.slice place (place + size) = text.slice start (start + size)) :
    blockEnd other (place : Int) = .ok (place + size) := by
  have hbounds := h.bounds hopen
  have hin : place + size ≤ other.size := by
    have hsize := congrArg (·.toList.length) hsame
    simp only [Text.length_slice] at hsize
    omega
  have hopens : other.hasAt place '{' = true := by
    rw [← Nat.add_zero place, ← Text.hasAt_slice hin (by omega), hsame,
      Text.hasAt_slice hbounds.2 (by omega)]
    exact hopen
  exact (blockEnd_eq_ok_iff hopens).mpr (Or.inl (h.of_slice_eq hsame))

/-- A block that closes is told by the numbers of braces. -/
theorem ClosesAt.isClosed (h : ClosesAt text start stop) (hopen : text.hasAt start '{' = true) :
    IsClosed text start stop := by
  have hbounds := h.bounds hopen
  obtain ⟨size, rfl⟩ := Nat.exists_eq_add_of_le hbounds.1.le
  refine ⟨h, hbounds.2, fun mid hfrom hto => ?_, h.hasAt_last hopen, fun other place hsame => ?_,
    fun before after => ?_⟩
  · have hpos := h.excess_pos hopen hfrom hto
    rw [excess] at hpos
    omega
  · rw [Nat.add_sub_cancel_left] at hsame ⊢
    exact h.blockEnd_elsewhere hopen hsame
  · rw [← Nat.add_assoc]
    refine h.blockEnd_elsewhere hopen ?_
    rw [Nat.add_assoc, Text.slice_surrounded before after hbounds.2]

/-- **There is no block** where no opening brace stands, and only there. -/
theorem blockEnd_eq_error_iff {offset : Int} : blockEnd text offset = .error ⟨offset⟩ ↔
    ¬ ∃ start : Nat, offset = start ∧ text.hasAt start '{' = true := by
  constructor
  · rintro herror ⟨start, rfl, hopen⟩
    rw [blockEnd_of_hasAt hopen] at herror
    cases herror
  · intro hnone
    rw [blockEnd, if_neg]
    intro hbrace
    obtain ⟨hnonneg, hopen⟩ := Bool.and_eq_true_iff.mp hbrace
    exact hnone ⟨offset.toNat, (Int.toNat_of_nonneg (of_decide_eq_true hnonneg)).symm, hopen⟩

/-- **Where a block ends, told by counting braces**, for every text and every
offset. There is no block if and only if no opening brace stands at the offset,
which may lie anywhere. If one does, the block closes at the end of the shortest
stretch with as many closing braces as opening ones, or ends with the text if
there is no such stretch. -/
theorem blockEnd_by_counts (text : Text) (offset : Int) :
    (blockEnd text offset = .error ⟨offset⟩ ↔
      ¬ ∃ start : Nat, offset = start ∧ text.hasAt start '{' = true) ∧
    ∀ start : Nat, offset = start → text.hasAt start '{' = true →
      ∃ stop, blockEnd text offset = .ok stop ∧
        (IsClosed text start stop ∨
          (¬ ∃ later, start < later ∧ IsBalanced text start later) ∧ stop = text.size) := by
  refine ⟨blockEnd_eq_error_iff, ?_⟩
  rintro start rfl hopen
  obtain ⟨stop, hstop, hends⟩ := endsAt_blockEnd hopen
  refine ⟨stop, hstop, hends.imp (·.isClosed hopen) fun ⟨hnone, hsize⟩ => ⟨?_, hsize⟩⟩
  rintro ⟨later, hbehind, hbalanced⟩
  exact hnone later hbehind hbalanced

/-- A block with another one inside and text around it. -/
theorem blockEnd_by_counts_nested :
    Text.hasAt #['x', '{', 'a', '{', '}', 'b', '}', '}'] 1 '{' = true ∧
      blockEnd #['x', '{', 'a', '{', '}', 'b', '}', '}'] 1 = .ok 7 ∧
      IsClosed #['x', '{', 'a', '{', '}', 'b', '}', '}'] 1 7 := by
  obtain ⟨-, hends⟩ := blockEnd_by_counts #['x', '{', 'a', '{', '}', 'b', '}', '}'] 1
  obtain ⟨stop, hstop, hends⟩ := hends 1 rfl rfl
  obtain rfl : stop = 7 := Except.ok.inj (hstop.symm.trans rfl)
  exact ⟨rfl, hstop, hends.resolve_right fun ⟨hnone, _⟩ => hnone ⟨7, by decide, by decide⟩⟩

end Block

end SourceLens
