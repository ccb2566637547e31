import SourceLens.Proofs.Function.Headers

/-!
# Where blocks end

A block ends behind a brace that closes it, or with the text
(`Block.endFrom_spec`). Only the braces between count, so a slice that ends with
a block has the block with the same end (`blockEnd_slice`).
-/

namespace SourceLens

namespace Block

/-- **The end of a block** is in the text: behind a brace that closes it, if it
is not the end of the text. -/
theorem endFrom_spec {text : Text} (left offset depth : Nat) (h : offset + left = text.size) :
    offset ≤ endFrom text left offset depth ∧ endFrom text left offset depth ≤ text.size ∧
      (endFrom text left offset depth = text.size ∨ offset < endFrom text left offset depth ∧
        text.hasAt (endFrom text left offset depth - 1) '}' = true) := by
  induction left generalizing offset depth with
  | zero => exact ⟨by rw [endFrom]; omega, by rw [endFrom], Or.inl rfl⟩
  | succ left ih =>
    have hlater (depth : Nat) := ih (offset + 1) depth (by omega)
    have hweaken {e : Nat} (he : offset + 1 ≤ e ∧ e ≤ text.size ∧
        (e = text.size ∨ offset + 1 < e ∧ text.hasAt (e - 1) '}' = true)) :
        offset ≤ e ∧ e ≤ text.size ∧
          (e = text.size ∨ offset < e ∧ text.hasAt (e - 1) '}' = true) :=
      ⟨by omega, he.2.1, he.2.2.imp_right fun hbrace => ⟨by omega, hbrace.2⟩⟩
    unfold endFrom
    split
    · exact hweaken (hlater _)
    · rename_i hbrace
      split
      · refine ⟨by omega, by omega, Or.inr ⟨by omega, ?_⟩⟩
        rw [Nat.add_sub_cancel, Text.hasAt, hbrace]
        rfl
      · exact hweaken (hlater _)
    · exact hweaken (hlater _)

/-- A block does not end where characters are left. -/
theorem lt_endFrom {text : Text} {left offset : Nat} (depth : Nat)
    (h : offset + (left + 1) = text.size) : offset < endFrom text (left + 1) offset depth := by
  have hlater (depth : Nat) : offset + 1 ≤ endFrom text left (offset + 1) depth :=
    (endFrom_spec left (offset + 1) depth (by omega)).1
  unfold endFrom
  split
  · exact hlater _
  · split
    · exact Nat.lt_succ_self _
    · exact hlater _
  · exact hlater _

/-- **A block ends in a part where it does in the text**, if the part ends
there. -/
theorem endFrom_part {text part : Text} {start : Nat}
    (hsame : ∀ offset, offset < part.size → part[offset]? = text[start + offset]?)
    {left offset depth : Nat} (hleft : start + offset + left = text.size)
    (hend : endFrom text left (start + offset) depth = start + part.size) :
    endFrom part (part.size - offset) offset depth = part.size := by
  induction left generalizing offset depth with
  | zero =>
    rw [endFrom] at hend
    rw [show part.size - offset = 0 by omega]
    rfl
  | succ left ih =>
    have hmore : offset < part.size := by
      have hlt := lt_endFrom depth hleft
      omega
    have hlater (depth : Nat) := @ih (offset + 1) depth (by omega)
    rw [show part.size - offset = part.size - (offset + 1) + 1 by omega]
    unfold endFrom at hend ⊢
    rw [hsame offset hmore]
    split at hend
    · exact hlater _ hend
    · split at hend
      · rw [if_pos ‹_›]
        omega
      · rw [if_neg ‹_›]
        exact hlater _ hend
    · exact hlater _ hend

end Block

/-- **A block that ends** starts with a brace. It ends behind another one that
closes it, if not with the text. -/
theorem blockEnd_spec {text : Text} {offset : Int} {stop : Nat}
    (h : blockEnd text offset = .ok stop) :
    ∃ first : Nat, offset = first ∧ text.hasAt first '{' = true ∧ first < stop ∧ stop ≤ text.size ∧
      (stop = text.size ∨ first + 1 < stop ∧ text.hasAt (stop - 1) '}' = true) := by
  unfold blockEnd at h
  split at h
  · rename_i hbrace
    obtain ⟨hnonneg, hbrace⟩ := Bool.and_eq_true_iff.mp hbrace
    obtain ⟨first, rfl⟩ := Int.eq_ofNat_of_zero_le (of_decide_eq_true hnonneg)
    rw [Int.toNat_natCast] at hbrace h
    obtain rfl := Except.ok.inj h
    have hlt : first < text.size := Text.lt_size_of_hasAt hbrace
    obtain ⟨-, hsize, hend⟩ := Block.endFrom_spec (text.size - first) first 0
      (Nat.add_sub_cancel' hlt.le)
    have hclosed : Block.endFrom text (text.size - first) first 0 = text.size ∨
        first + 1 < Block.endFrom text (text.size - first) first 0 ∧
          text.hasAt (Block.endFrom text (text.size - first) first 0 - 1) '}' = true := by
      refine hend.imp_right fun ⟨hle, hclose⟩ => ⟨?_, hclose⟩
      -- the brace that opens the block is not the one that closes it
      by_contra hnot
      rw [show Block.endFrom text (text.size - first) first 0 - 1 = first by omega] at hclose
      cases Text.eq_of_hasAt hbrace hclose
    exact ⟨first, rfl, hbrace, by omega, hsize, hclosed⟩
  · cases h

/-- **A block that ends a part** ends there in the part as well. -/
theorem blockEnd_slice {text : Text} {start first stop : Nat}
    (h : blockEnd text ((start + first : Nat) : Int) = .ok stop) :
    blockEnd (text.slice start stop) (first : Int) = .ok (text.slice start stop).size := by
  obtain ⟨_, heq, hbrace, hlt, hin, -⟩ := blockEnd_spec h
  obtain rfl := Int.ofNat_inj.mp heq
  have hsize : (text.slice start stop).size = stop - start := Text.size_slice hin
  rw [blockEnd_of_hasAt hbrace] at h
  have hend : Block.endFrom text (text.size - (start + first)) (start + first) 0
      = start + (text.slice start stop).size := by
    have hstop := Except.ok.inj h
    omega
  have hopens : (text.slice start stop).hasAt first '{' = true := by
    rw [Text.hasAt_slice hin hlt, hbrace]
  rw [blockEnd_of_hasAt hopens, Block.endFrom_part (fun offset hoffset => ?_) (by omega) hend]
  exact Text.getElem?_slice hin (by omega)

end SourceLens
