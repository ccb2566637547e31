import Mathlib.Data.List.Infix
import SourceLens.Proofs.Token.Scan

/-!
# Words and their edges

An edge of a word is a place with a word character on one side and none on the
other. A pattern that asks for an edge at both ends of a stretch of word
characters therefore matches maximal runs alone (`CharSet.IsRun`), and since
only one such run starts at an offset, the order in which the words of a list are
tried makes no difference: a shorter word that the text goes on behind is given
up, and a longer one is found after it (`Pattern.mem_ways_wordOf`).
-/

namespace SourceLens

/-! ## Maximal runs -/

/-- **A maximal run of characters of a set**: a stretch of them that is not empty
and that neither the character before it nor the one behind it belongs to. -/
structure CharSet.IsRun (set : CharSet) (text : Text) (start stop : Nat) : Prop where
  nonempty : start < stop
  fills : set.Fills text start stop
  before : ∀ offset c, offset + 1 = start → text[offset]? = some c → set.contains c = false
  behind : ∀ c, text[stop]? = some c → set.contains c = false

namespace CharSet

variable {set : CharSet} {text : Text} {start stop offset : Nat}

instance (set : CharSet) (text : Text) (start stop : Nat) : Decidable (set.Fills text start stop) :=
  decidable_of_iff (∀ offset < stop, start ≤ offset → text[offset]?.any set.contains = true) <| by
    simp only [Fills, Option.any_eq_true]
    exact forall_congr' fun _ => forall_comm

instance (set : CharSet) (text : Text) (start stop : Nat) : Decidable (set.IsRun text start stop) :=
  decidable_of_iff
    (start < stop ∧ set.Fills text start stop ∧
      (∀ offset < start, offset + 1 = start → text[offset]?.any set.contains = false) ∧
      text[stop]?.any set.contains = false) <| by
    simp only [Option.any_eq_false]
    exact ⟨fun ⟨hlt, hfills, hbefore, hbehind⟩ => ⟨hlt, hfills,
        fun offset c hnext hc => hbefore offset (hnext ▸ Nat.lt_succ_self offset) hnext c hc,
        hbehind⟩,
      fun h => ⟨h.nonempty, h.fills, fun offset _ hnext c hc => h.before offset c hnext hc,
        h.behind⟩⟩

/-- A maximal run lies in its text. -/
theorem IsRun.le_size (h : set.IsRun text start stop) : stop ≤ text.size := by
  obtain ⟨c, hc, -⟩ := h.fills start (Nat.le_refl _) h.nonempty
  obtain ⟨hlt, -⟩ := Array.getElem?_eq_some_iff.mp hc
  exact h.fills.le_size (Nat.le_of_lt h.nonempty) (Nat.le_of_lt hlt)

/-- **One maximal run at most starts at an offset.** -/
theorem IsRun.stop_unique {other : Nat} (h : set.IsRun text start stop)
    (h' : set.IsRun text start other) : stop = other := by
  -- a run that went on beyond the other would hold the character behind it
  have hle : ∀ {a b}, set.IsRun text start a → set.IsRun text start b → a ≤ b := by
    intro a b ha hb
    by_contra hlt
    obtain ⟨c, hc, hset⟩ := ha.fills b (Nat.le_of_lt hb.nonempty) (Nat.not_le.mp hlt)
    rw [hb.behind c hc] at hset
    cases hset
  exact Nat.le_antisymm (hle h h') (hle h' h)

/-- The set of word characters holds those. -/
theorem contains_word (c : Char) : word.contains c = CharKind.word.contains false c := by
  simp [word, ofItems, contains, CharItem.contains]

/-- A character of a word stands where one of the set does. -/
theorem wordAt_iff : wordAt text false offset = true ↔
    ∃ c, text[offset]? = some c ∧ word.contains c = true := by
  unfold wordAt
  cases text[offset]? with
  | none => simp
  | some c => simp [contains_word]

end CharSet

/-! ## Edges -/

/-- A word character stands directly before an offset. -/
def Text.wordBefore (text : Text) (offset : Nat) : Bool :=
  offset != 0 && wordAt text false (offset - 1)

namespace CharSet

variable {text : Text} {start stop offset : Nat}

/-- **A maximal run of word characters**, by the characters at its ends. -/
theorem isRun_word_iff : word.IsRun text start stop ↔
    start < stop ∧ word.Fills text start stop ∧ text.wordBefore start = false ∧
      wordAt text false stop = false := by
  have houtside (place : Nat) : (∀ c, text[place]? = some c → word.contains c = false) ↔
      wordAt text false place = false := by
    rw [← Bool.not_eq_true, wordAt_iff]
    simp
  have hbefore : (∀ offset c, offset + 1 = start → text[offset]? = some c →
      word.contains c = false) ↔ text.wordBefore start = false := by
    cases start with
    | zero => simp [Text.wordBefore]
    | succ last =>
      exact ⟨fun h => (houtside last).mp fun c hc => h last c rfl hc,
        fun h offset c hoffset hc => (houtside last).mpr h c (Nat.succ.inj hoffset ▸ hc)⟩
  exact ⟨fun h => ⟨h.nonempty, h.fills, hbefore.mp h.before, (houtside stop).mp h.behind⟩,
    fun ⟨hlt, hfills, hstart, hstop⟩ =>
      ⟨hlt, hfills, hbefore.mpr hstart, (houtside stop).mpr hstop⟩⟩

/-- A stretch of word characters ends behind one. -/
theorem Fills.wordBefore (h : word.Fills text start stop) (hlt : start < stop) :
    text.wordBefore stop = true := by
  obtain ⟨last, rfl⟩ := Nat.exists_eq_succ_of_ne_zero (Nat.ne_of_gt (Nat.zero_lt_of_lt hlt))
  exact wordAt_iff.mpr (h last (Nat.lt_succ_iff.mp hlt) (Nat.lt_succ_self last))

/-- A stretch of word characters starts with one. -/
theorem Fills.wordAt (h : word.Fills text start stop) (hlt : start < stop) :
    wordAt text false start = true :=
  wordAt_iff.mpr (h start (Nat.le_refl _) hlt)

end CharSet

/-- **An edge of a word**: a word character stands on one side alone. -/
def Text.isWordEdge (text : Text) (offset : Nat) : Bool :=
  text.wordBefore offset != wordAt text false offset

/-- The condition for an edge holds at the edges. -/
theorem Anchor.holds_wordEdge {text : Text} {offset : Nat} :
    (wordEdge true false).holds text offset = text.isWordEdge offset := by
  show (text.size != 0 && (text.isWordEdge offset == true)) = _
  cases hsize : text.size with
  | zero =>
    have hnone (place : Nat) : wordAt text false place = false := by
      unfold wordAt
      rw [Array.getElem?_eq_none (by omega)]
    simp [Text.isWordEdge, Text.wordBefore, hnone]
  | succ size => simp

/-- A string stands where the slice of its length is the string. -/
theorem Text.standsAt_iff {text : Text} {s : String} {offset : Nat} :
    text.StandsAt s offset ↔ (text.slice offset (offset + s.length)).toString = s := by
  rw [StandsAt, List.prefix_iff_eq_take, String.length_toList, toString, slice,
    Array.toList_extract, List.extract_eq_take_drop, Nat.add_sub_cancel_left,
    ← String.toList_inj, String.toList_ofList]
  exact eq_comm

/-- The characters of a slice stand in its stretch of the text. -/
theorem Text.exists_of_mem_slice {text : Text} {start stop : Nat} {c : Char}
    (h : c ∈ (text.slice start stop).toString.toList) :
    ∃ offset, start ≤ offset ∧ offset < stop ∧ text[offset]? = some c := by
  rw [toString, String.toList_ofList] at h
  obtain ⟨index, hindex⟩ := List.mem_iff_getElem?.mp h
  rw [slice, Array.getElem?_toList, Array.getElem?_extract] at hindex
  split at hindex
  · exact ⟨start + index, Nat.le_add_right _ _, by omega, hindex⟩
  · cases hindex

/-- A run has as many characters as it is long. -/
theorem CharSet.IsRun.add_length {set : CharSet} {text : Text} {start stop : Nat}
    (h : set.IsRun text start stop) :
    start + (text.slice start stop).toString.length = stop := by
  rw [Text.toString, String.length_ofList, Array.length_toList, Text.size_slice h.le_size,
    Nat.add_sub_cancel' (Nat.le_of_lt h.nonempty)]

/-- The text of a run stands where it starts. -/
theorem CharSet.IsRun.standsAt {set : CharSet} {text : Text} {start stop : Nat}
    (h : set.IsRun text start stop) :
    text.StandsAt (text.slice start stop).toString start := by
  rw [Text.standsAt_iff, h.add_length]

namespace Pattern

variable {text : Text} {words : List String} {cur next : Cursor}

/-- An edge is passed where it is. -/
theorem mem_ways_edge : next ∈ ways text edge cur ↔
    next = cur ∧ text.isWordEdge cur.offset = true := by
  rw [edge, ways, Anchor.holds_wordEdge]
  split <;> simp_all

/-- **A list of words**: not empty, and each of them made of word characters. -/
def IsWordList (words : List String) : Prop :=
  words ≠ [] ∧ ∀ w ∈ words, w.length ≠ 0 ∧ w.toList.all CharSet.word.contains = true

instance (words : List String) : Decidable (IsWordList words) :=
  inferInstanceAs (Decidable (_ ∧ ∀ w ∈ words, _ ∧ _))

/-- The ways of the words of a list: each word that stands in the text between
two edges. -/
theorem mem_ways_wordOf_iff_standsAt (hne : words ≠ []) : next ∈ ways text (wordOf words) cur ↔
    text.isWordEdge cur.offset = true ∧
      ∃ w ∈ words, text.StandsAt w cur.offset ∧ next = cur.move (cur.offset + w.length) ∧
        text.isWordEdge next.offset = true := by
  have hchoice (mid : Cursor) : mid ∈ ways text (choice (words.map literal)) cur ↔
      ∃ w ∈ words, text.StandsAt w cur.offset ∧ mid = cur.move (cur.offset + w.length) := by
    rw [ways_choice text (by simpa using hne), List.flatMap_map, List.mem_flatMap]
    refine exists_congr fun w => and_congr_right fun _ => ?_
    rw [ways_literal]
    split <;> simp_all
  rw [wordOf, ways_concat_cons, List.mem_flatMap]
  constructor
  · rintro ⟨first, hfirst, hnext⟩
    obtain ⟨rfl, hedge⟩ := mem_ways_edge.mp hfirst
    rw [ways_concat_cons] at hnext
    obtain ⟨mid, hmid, hnext⟩ := List.mem_flatMap.mp hnext
    obtain ⟨w, hw, hstands, rfl⟩ := (hchoice mid).mp hmid
    obtain ⟨rfl, hend⟩ := mem_ways_edge.mp hnext
    exact ⟨hedge, w, hw, hstands, rfl, hend⟩
  · rintro ⟨hedge, w, hw, hstands, rfl, hend⟩
    refine ⟨cur, mem_ways_edge.mpr ⟨rfl, hedge⟩, ?_⟩
    rw [ways_concat_cons, List.mem_flatMap]
    exact ⟨_, (hchoice _).mpr ⟨w, hw, hstands, rfl⟩, mem_ways_edge.mpr ⟨rfl, hend⟩⟩

/-- **A list of words matches the maximal runs whose text is in the list**, and
nothing else. -/
theorem mem_ways_wordOf (h : IsWordList words) : next ∈ ways text (wordOf words) cur ↔
    ∃ stop, next = cur.move stop ∧ CharSet.word.IsRun text cur.offset stop ∧
      (text.slice cur.offset stop).toString ∈ words := by
  rw [mem_ways_wordOf_iff_standsAt h.1]
  constructor
  · rintro ⟨hedge, w, hw, hstands, rfl, hend⟩
    obtain ⟨hlength, hchars⟩ := h.2 w hw
    have hfills := CharSet.fills_of_standsAt hstands (List.all_eq_true.mp hchars)
    have hlt : cur.offset < cur.offset + w.length := by omega
    rw [Text.isWordEdge, hfills.wordAt hlt] at hedge
    rw [Cursor.offset_move, Text.isWordEdge, hfills.wordBefore hlt] at hend
    refine ⟨_, rfl, CharSet.isRun_word_iff.mpr ⟨hlt, hfills, ?_, ?_⟩, ?_⟩
    · simpa using hedge
    · simpa using hend
    · rw [Text.standsAt_iff.mp hstands]
      exact hw
  · rintro ⟨stop, rfl, hrun, hword⟩
    obtain ⟨hlt, hfills, hstart, hstop⟩ := CharSet.isRun_word_iff.mp hrun
    refine ⟨?_, _, hword, hrun.standsAt, by rw [hrun.add_length], ?_⟩
    · rw [Text.isWordEdge, hstart, hfills.wordAt hlt]
      rfl
    · rw [Cursor.offset_move, Text.isWordEdge, hfills.wordBefore hlt, hstop]
      rfl

end Pattern

end SourceLens
