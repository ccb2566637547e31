import Mathlib
import SourceLens.Proofs.Function.Blocks

/-!
# Blocks in balance

The end of a block is found by counting how many braces are open. Without the
counting it is told by the stretches from its opening brace on. A stretch is
balanced if as many braces are closed in it as are opened, and a block ends with
the first balanced stretch, or with the text if there is none
(`Block.blockEnd_eq_ok_iff`).

The one fact behind this is that the excess of opened over closed braces changes
by at most one from character to character. So it stays positive from an opening
brace on as long as no stretch is balanced (`Block.excess_pos`), and where it
has become negative, a stretch was balanced before. Behind a brace inside a
block the excess is negative at the end of the block: whatever starts in a block
ends in it, and before it if the block is closed (`Block.EndsAt.inside`).
-/

namespace SourceLens.Block

variable {text : Text} {start mid stop : Nat}

/-- How many more braces are opened than closed in a stretch. -/
def excess (text : Text) (start stop : Nat) : Int :=
  (text.slice start stop).count '{' - (text.slice start stop).count '}'

/-- **A stretch is balanced**: as many braces are closed in it as are opened. -/
def IsBalanced (text : Text) (start stop : Nat) : Prop :=
  (text.slice start stop).count '}' = (text.slice start stop).count '{'

instance (text : Text) (start stop : Nat) : Decidable (IsBalanced text start stop) :=
  inferInstanceAs (Decidable (_ = _))

/-- **A block is closed** at the end of the shortest balanced stretch. -/
def ClosesAt (text : Text) (start stop : Nat) : Prop :=
  IsLeast {stop | start < stop ∧ IsBalanced text start stop} stop

/-- **Where a block ends**: where it is closed, or with the text if no stretch is
balanced. -/
def EndsAt (text : Text) (start stop : Nat) : Prop :=
  ClosesAt text start stop ∨
    (∀ later, start < later → ¬ IsBalanced text start later) ∧ stop = text.size

/-! ## Excess -/

theorem excess_eq_zero_iff : excess text start stop = 0 ↔ IsBalanced text start stop := by
  rw [excess, sub_eq_zero, Nat.cast_inj, IsBalanced, eq_comm]

/-- Nothing is opened in an empty stretch. -/
theorem excess_self (text : Text) (start : Nat) : excess text start start = 0 := by
  rw [excess, Text.slice_eq_empty (Nat.le_refl start)]
  rfl

/-- The excess of a stretch is that of its parts. -/
theorem excess_add (text : Text) (hfirst : start ≤ mid) (hsecond : mid ≤ stop) :
    excess text start stop = excess text start mid + excess text mid stop := by
  have hparts : text.slice start stop = text.slice start mid ++ text.slice mid stop := by
    rw [Text.slice, Text.slice, Text.slice, Array.extract_append_extract, Nat.min_eq_left hfirst,
      Nat.max_eq_right hsecond]
  unfold excess
  rw [hparts, Array.count_append, Array.count_append]
  push_cast
  ring

/-- The excess of one character. -/
theorem excess_succ {c : Char} (hc : text[start]? = some c) :
    excess text start (start + 1) = if c = '{' then 1 else if c = '}' then -1 else 0 := by
  have hslice : text.slice start (start + 1) = #[c] := by
    obtain ⟨hlt, hat⟩ := Array.getElem?_eq_some_iff.mp hc
    rw [Text.slice, Array.extract_succ_right (Nat.lt_succ_self start) hlt, hat,
      Array.extract_eq_empty_of_le (Nat.min_le_left _ _)]
    rfl
  unfold excess
  rw [hslice, Array.count_singleton, Array.count_singleton]
  by_cases hopen : c = '{'
  · subst hopen
    rfl
  · by_cases hclose : c = '}'
    · subst hclose
      rfl
    · simp [hopen, hclose]

/-- An opening brace is one more that is open. -/
theorem excess_succ_of_hasAt (h : text.hasAt start '{' = true) :
    excess text start (start + 1) = 1 := by
  rw [excess_succ (Text.hasAt_iff.mp h), if_pos rfl]

/-- Behind the text nothing is opened or closed. -/
theorem excess_of_size_le (start : Nat) (h : text.size ≤ stop) :
    excess text start stop = excess text start text.size := by
  have hslice : text.slice start stop = text.slice start text.size := by
    rw [Text.slice, Text.slice]
    grind
  unfold excess
  rw [hslice]

/-- A character closes at most one brace. -/
theorem neg_one_le_excess_succ (text : Text) (start : Nat) :
    -1 ≤ excess text start (start + 1) := by
  cases hc : text[start]? with
  | none =>
    have hsize : text.size ≤ start := Array.getElem?_eq_none_iff.mp hc
    have hslice : text.slice start (start + 1) = #[] :=
      Array.extract_eq_empty_of_le ((Nat.min_le_right _ _).trans hsize)
    unfold excess
    rw [hslice]
    decide
  | some c =>
    rw [excess_succ hc]
    split_ifs <;> decide

/-- **Braces stay open** from an opening brace on, as long as no stretch is
balanced. -/
theorem excess_pos (hopen : text.hasAt start '{' = true) (hlt : start < stop)
    (h : ∀ mid, start < mid → mid ≤ stop → ¬ IsBalanced text start mid) :
    0 < excess text start stop := by
  induction stop, hlt using Nat.le_induction with
  | base => rw [excess_succ_of_hasAt hopen]; decide
  | succ stop hlt ih =>
    have hbefore := ih fun mid hfrom hto => h mid hfrom (by omega)
    have hlast := neg_one_le_excess_succ text stop
    have hsum := excess_add text (Nat.le_of_lt hlt) (Nat.le_add_right stop 1)
    have hne : excess text start (stop + 1) ≠ 0 := fun hzero =>
      h (stop + 1) (by omega) (Nat.le_refl _) (excess_eq_zero_iff.mp hzero)
    omega

/-- Where more braces have been closed than opened, a stretch was balanced
before. -/
theorem exists_isBalanced_of_neg (hopen : text.hasAt start '{' = true) (hlt : start < stop)
    (hneg : excess text start stop < 0) :
    ∃ mid, start < mid ∧ mid < stop ∧ IsBalanced text start mid := by
  by_contra hnone
  refine absurd (excess_pos hopen hlt fun mid hfrom hto hmid => ?_) (by omega)
  obtain rfl | hbefore := Nat.eq_or_lt_of_le hto
  · rw [excess_eq_zero_iff.mpr hmid] at hneg
    exact absurd hneg (by decide)
  · exact hnone ⟨mid, hfrom, hbefore, hmid⟩

/-! ## Where blocks end -/

/-- **Braces stay open** up to an offset, of which `depth` are open at the start:
before it some of them are open, and there they are all closed, or the text
ends. -/
structure StaysOpen (text : Text) (start depth stop : Nat) : Prop where
  open_before : ∀ mid, start ≤ mid → mid < stop → 0 < depth + excess text start mid
  ends : start < stop ∧ depth + excess text start stop = 0 ∨
    stop = text.size ∧ 0 < depth + excess text start text.size

/-- Braces that stay open behind a character do so from the character on, if as
many are open behind it as it leaves. -/
theorem StaysOpen.of_succ {depth next : Nat} (h : StaysOpen text (start + 1) next stop)
    (hdepth : 0 < depth) (hin : start < text.size)
    (hnext : (next : Int) = depth + excess text start (start + 1)) :
    StaysOpen text start depth stop := by
  have hsum {mid : Nat} (hmid : start + 1 ≤ mid) :
      depth + excess text start mid = next + excess text (start + 1) mid := by
    rw [excess_add text (Nat.le_add_right start 1) hmid, hnext, add_assoc]
  refine ⟨fun mid hfrom hto => ?_, ?_⟩
  · obtain rfl | hbehind := Nat.eq_or_lt_of_le hfrom
    · rw [excess_self]
      omega
    · rw [hsum hbehind]
      exact h.open_before mid hbehind hto
  · rw [hsum (show start + 1 ≤ text.size from hin)]
    refine h.ends.imp_left fun hclosed => ⟨(Nat.lt_succ_self start).trans hclosed.1, ?_⟩
    rw [hsum hclosed.1.le]
    exact hclosed.2

/-- **Counting finds how far braces stay open.** -/
theorem staysOpen_endFrom {left offset depth : Nat} (hdepth : 0 < depth)
    (h : offset + left = text.size) :
    StaysOpen text offset depth (endFrom text left offset depth) := by
  induction left generalizing offset depth with
  | zero =>
    obtain rfl : offset = text.size := h
    rw [endFrom]
    refine ⟨fun mid hfrom hto => absurd hto (Nat.not_lt.mpr hfrom), Or.inr ⟨rfl, ?_⟩⟩
    rw [excess_self]
    omega
  | succ left ih =>
    have hin : offset < text.size := by omega
    have hlater {next : Nat} (hnext : 0 < next) :
        StaysOpen text (offset + 1) next (endFrom text left (offset + 1) next) :=
      ih hnext (by omega)
    unfold endFrom
    split
    · rename_i hc
      exact (hlater (Nat.succ_pos depth)).of_succ hdepth hin (by rw [excess_succ hc]; rfl)
    · rename_i hc
      have hcloses : excess text offset (offset + 1) = -1 := excess_succ hc
      split
      · obtain rfl : depth = 1 := by omega
        refine ⟨fun mid hfrom hto => ?_, Or.inl ⟨Nat.lt_succ_self offset, by rw [hcloses]; rfl⟩⟩
        obtain rfl : mid = offset := by omega
        rw [excess_self]
        decide
      · exact (hlater (by omega)).of_succ hdepth hin (by rw [hcloses]; omega)
    · rename_i hopens hcloses
      have hc := Array.getElem?_eq_getElem hin
      have hneutral : excess text offset (offset + 1) = 0 := by
        rw [excess_succ hc, if_neg fun heq => hopens (by rw [hc, heq]),
          if_neg fun heq => hcloses (by rw [hc, heq])]
      exact (hlater hdepth).of_succ hdepth hin (by rw [hneutral, add_zero])

/-- A block ends where the brace that opens it stays open to. -/
theorem StaysOpen.endsAt (h : StaysOpen text (start + 1) 1 stop)
    (hopen : text.hasAt start '{' = true) : EndsAt text start stop := by
  have hlt := Text.lt_size_of_hasAt hopen
  have hexcess {mid : Nat} (hmid : start + 1 ≤ mid) :
      excess text start mid = (1 : Nat) + excess text (start + 1) mid := by
    rw [excess_add text (Nat.le_add_right start 1) hmid, excess_succ_of_hasAt hopen]
    rfl
  obtain ⟨hbehind, hzero⟩ | ⟨hsize, hpos⟩ := h.ends
  · refine Or.inl ⟨⟨by omega, excess_eq_zero_iff.mp (by rw [hexcess hbehind.le, hzero])⟩, ?_⟩
    rintro mid ⟨hfrom, hmid⟩
    by_contra hnot
    have hpos := h.open_before mid hfrom (Nat.not_le.mp hnot)
    rw [← hexcess hfrom, excess_eq_zero_iff.mpr hmid] at hpos
    exact absurd hpos (by decide)
  · refine Or.inr ⟨fun later hfrom hmid => ?_, hsize⟩
    have hpos : 0 < excess text start later := by
      obtain hin | hbeyond := Nat.lt_or_ge later text.size
      · rw [hexcess hfrom]
        exact h.open_before later hfrom (by rw [hsize]; exact hin)
      · rw [excess_of_size_le start hbeyond, hexcess (show start + 1 ≤ text.size by omega)]
        exact hpos
    rw [excess_eq_zero_iff.mpr hmid] at hpos
    exact absurd hpos (by decide)

/-- **There is one place where a block ends.** -/
theorem EndsAt.unique {other : Nat} (h : EndsAt text start stop) (h' : EndsAt text start other) :
    stop = other := by
  obtain hleast | ⟨hnone, rfl⟩ := h
  · obtain hleast' | ⟨hnone', -⟩ := h'
    · exact hleast.unique hleast'
    · exact absurd hleast.1.2 (hnone' stop hleast.1.1)
  · obtain hleast' | ⟨-, rfl⟩ := h'
    · exact absurd hleast'.1.2 (hnone other hleast'.1.1)
    · rfl

/-- A block ends behind its opening brace, in the text. -/
theorem EndsAt.bounds (h : EndsAt text start stop) (hopen : text.hasAt start '{' = true) :
    start < stop ∧ stop ≤ text.size := by
  have hlt := Text.lt_size_of_hasAt hopen
  obtain ⟨⟨hbehind, hbalanced⟩, hleast⟩ | ⟨-, rfl⟩ := h
  · refine ⟨hbehind, ?_⟩
    by_contra hbeyond
    have hwhole : IsBalanced text start text.size := by
      rw [← excess_eq_zero_iff, ← excess_of_size_le start (Nat.not_le.mp hbeyond).le,
        excess_eq_zero_iff]
      exact hbalanced
    exact hbeyond (hleast ⟨hlt, hwhole⟩)
  · exact ⟨hlt, Nat.le_refl _⟩

/-- Counting finds where a block ends. -/
theorem endsAt_blockEnd (hopen : text.hasAt start '{' = true) :
    ∃ stop, blockEnd text (start : Int) = .ok stop ∧ EndsAt text start stop := by
  have hlt := Text.lt_size_of_hasAt hopen
  obtain ⟨left, hleft⟩ := Nat.exists_eq_add_of_lt hlt
  -- the first brace is counted, and then it is open
  have hfirst : endFrom text (text.size - start) start 0 = endFrom text left (start + 1) 1 := by
    rw [show text.size - start = left + 1 by omega, endFrom, Text.hasAt_iff.mp hopen]
    rfl
  refine ⟨_, blockEnd_of_hasAt hopen, ?_⟩
  rw [hfirst]
  exact (staysOpen_endFrom Nat.one_pos (by omega)).endsAt hopen

/-- **A block ends** where counting finds its end, and nowhere else. -/
theorem blockEnd_eq_ok_iff (hopen : text.hasAt start '{' = true) :
    blockEnd text (start : Int) = .ok stop ↔ EndsAt text start stop := by
  obtain ⟨found, hfound, hends⟩ := endsAt_blockEnd hopen
  rw [hfound]
  exact ⟨fun h => Except.ok.inj h ▸ hends, fun h => congrArg Except.ok (hends.unique h)⟩

/-- **What starts in a block ends in it**, and before it if the block is
closed. -/
theorem EndsAt.inside {inner innerStop : Nat} (h : EndsAt text start stop)
    (hinner : EndsAt text inner innerStop) (hopen : text.hasAt start '{' = true)
    (hopenInner : text.hasAt inner '{' = true) (hbehind : start < inner) (hin : inner < stop) :
    innerStop ≤ stop ∧ (ClosesAt text start stop → innerStop < stop) := by
  have hclosed (hcloses : ClosesAt text start stop) : innerStop < stop := by
    obtain ⟨⟨hlt, hbalanced⟩, hleast⟩ := hcloses
    have hpos : 0 < excess text start inner := excess_pos hopen hbehind fun mid hfrom hto hmid =>
      absurd (hleast ⟨hfrom, hmid⟩) (by omega)
    have hsum := excess_add text hbehind.le hin.le
    rw [excess_eq_zero_iff.mpr hbalanced] at hsum
    -- the rest of the block closes what the first part has opened
    obtain ⟨mid, hfrom, hto, hmid⟩ := exists_isBalanced_of_neg hopenInner hin (by omega)
    obtain ⟨-, hleastInner⟩ | ⟨hnone, -⟩ := hinner
    · exact (hleastInner ⟨hfrom, hmid⟩).trans_lt hto
    · exact absurd hmid (hnone mid hfrom)
  refine ⟨?_, hclosed⟩
  obtain hcloses | ⟨-, rfl⟩ := h
  · exact (hclosed hcloses).le
  · exact (hinner.bounds hopenInner).2

end SourceLens.Block
