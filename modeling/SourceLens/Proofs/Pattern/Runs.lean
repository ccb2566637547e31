import Mathlib.Data.List.Infix
import Mathlib.Logic.Relation
import Mathlib.Order.Nat
import SourceLens.Proofs.Pattern.Ways
import SourceLens.Proofs.Text.Slices

/-!
# Literals, runs and rounds

The building blocks of the token patterns, told by the characters of the text.
A literal matches where its string stands (`Pattern.ways_literal`). A run of
characters passes characters of its set alone (`CharSet.Fills`) and, where
nothing else bounds it, all of them (`Pattern.exists_head?_run`). A lazy run up
to a closing delimiter ends at the first one, or at the end of the text
(`Pattern.exists_head?_upTo`). A repetition is a chain of rounds, whatever its
bounds and its preference (`Pattern.reaches_of_mem_repeated`), so what a round
keeps is kept by all of them.
-/

namespace SourceLens

/-! ## Strings in a text -/

/-- **A string stands in a text at an offset**: its characters are there, one
behind the other. -/
def Text.StandsAt (text : Text) (s : String) (offset : Nat) : Prop :=
  s.toList <+: text.toList.drop offset

instance (text : Text) (s : String) (offset : Nat) : Decidable (text.StandsAt s offset) :=
  inferInstanceAs (Decidable (s.toList <+: text.toList.drop offset))

/-- Of characters in a text, the first one stands at their offset and the
others stand behind it. -/
theorem Text.cons_prefix_drop {text : Text} {c : Char} {rest : List Char} {offset : Nat} :
    c :: rest <+: text.toList.drop offset ↔
      text[offset]? = some c ∧ rest <+: text.toList.drop (offset + 1) := by
  rw [← Array.getElem?_toList]
  cases hat : text.toList[offset]? with
  | none =>
    have hle := List.getElem?_eq_none_iff.mp hat
    simp [List.drop_eq_nil_of_le hle]
  | some d =>
    obtain ⟨hlt, rfl⟩ := List.getElem?_eq_some_iff.mp hat
    rw [List.drop_eq_getElem_cons hlt, List.cons_prefix_cons, Option.some.injEq]
    exact and_congr_left fun _ => eq_comm

/-- A string that stands in a text is no longer than what is left of it. -/
theorem Text.StandsAt.length_le {text : Text} {s : String} {offset : Nat}
    (h : text.StandsAt s offset) : s.length ≤ text.size - offset := by
  have hlength : s.toList.length ≤ (text.toList.drop offset).length :=
    List.IsPrefix.length_le h
  have hsize : text.toList.length = text.size := Array.length_toList
  rw [List.length_drop, String.length_toList] at hlength
  omega

/-- Where a string stands, its first character does. -/
theorem Text.StandsAt.first {text : Text} {s : String} {c : Char} {rest : List Char} {offset : Nat}
    (h : text.StandsAt s offset) (hs : s.toList = c :: rest) : text[offset]? = some c := by
  rw [StandsAt, hs] at h
  exact (cons_prefix_drop.mp h).1

/-- The code point of a character is that of this character alone. -/
theorem CharItem.contains_range_self {c d : Char} {asciiOnly : Bool} :
    (CharItem.range c.toNat c.toNat).contains .exact asciiOnly d = true ↔ d = c := by
  rw [← Char.toNat_inj]
  simp [CharItem.contains]
  omega

namespace CharSet

/-- The set of one character holds that character alone. -/
theorem contains_single {c d : Char} : (single c).contains d = true ↔ d = c := by
  simp [single, contains, ofItems, CharItem.contains_range_self]

/-- The complement of the characters of a string holds all others. -/
theorem contains_compl_oneOf {s : String} {c : Char} :
    (compl (union [oneOf s])).contains c = true ↔ c ∉ s.toList := by
  have hcontains : (compl (union [oneOf s])).contains c = true ↔ ∀ d ∈ s.toList, ¬ c = d := by
    simp [compl, union, oneOf, ofItems, contains, CharItem.contains_range_self]
  rw [hcontains]
  exact ⟨fun h hc => h c hc rfl, fun h d hd heq => h (heq ▸ hd)⟩

/-- The set of all characters holds every character. -/
theorem contains_any (c : Char) : any.contains c = true := by
  unfold any ofItems contains CharItem.contains
  cases h : CharKind.blank.contains false c <;> simp [h]

/-- **The set fills a stretch of a text**: every character of the stretch is
there and in the set. -/
def Fills (set : CharSet) (text : Text) (start stop : Nat) : Prop :=
  ∀ offset, start ≤ offset → offset < stop → ∃ c, text[offset]? = some c ∧ set.contains c = true

variable {set : CharSet} {text : Text} {start mid stop : Nat}

/-- A stretch of one character. -/
theorem Fills.single {c : Char} (hc : text[start]? = some c) (hset : set.contains c = true) :
    set.Fills text start (start + 1) := by
  intro offset hfrom hto
  obtain rfl : offset = start := by omega
  exact ⟨c, hc, hset⟩

theorem Fills.trans (h : set.Fills text start mid) (h' : set.Fills text mid stop) :
    set.Fills text start stop := by
  intro offset hfrom hto
  obtain hlt | hle := Nat.lt_or_ge offset mid
  · exact h offset hfrom hlt
  · exact h' offset hle hto

/-- A stretch that is filled ends in the text, if it starts in it. -/
theorem Fills.le_size (h : set.Fills text start stop) (hle : start ≤ stop)
    (hin : start ≤ text.size) : stop ≤ text.size := by
  obtain rfl | hlt := Nat.eq_or_lt_of_le hle
  · exact hin
  · -- the last character of the stretch is in the text
    obtain ⟨c, hc, -⟩ := h (stop - 1) (by omega) (by omega)
    obtain ⟨hlast, -⟩ := Array.getElem?_eq_some_iff.mp hc
    omega

/-- A string of characters of the set fills the stretch at which it stands. -/
theorem fills_of_standsAt {s : String} (h : text.StandsAt s start)
    (hset : ∀ c ∈ s.toList, set.contains c = true) :
    set.Fills text start (start + s.length) := by
  unfold Text.StandsAt at h
  rw [← String.length_toList]
  generalize s.toList = chars at h hset
  induction chars generalizing start with
  | nil => exact fun offset hfrom hto => absurd hto (Nat.not_lt.mpr hfrom)
  | cons c rest ih =>
    obtain ⟨hc, hrest⟩ := Text.cons_prefix_drop.mp h
    have hfirst : set.Fills text start (start + 1) := .single hc (hset c List.mem_cons_self)
    have hlater := ih hrest fun d hd => hset d (List.mem_cons_of_mem c hd)
    rw [List.length_cons, Nat.add_comm rest.length, ← Nat.add_assoc]
    exact hfirst.trans hlater

end CharSet

namespace Cursor

@[simp] theorem offset_move (cur : Cursor) (offset : Nat) : (cur.move offset).offset = offset := rfl

@[simp] theorem move_move (cur : Cursor) (first second : Nat) :
    (cur.move first).move second = cur.move second := rfl

end Cursor

namespace Pattern

variable {text : Text}

/-! ## Single characters and literals -/

/-- A way of a set of characters reads one of them. -/
theorem exists_of_mem_ways_char {set : CharSet} {cur next : Cursor}
    (h : next ∈ ways text (.char set) cur) :
    ∃ c, text[cur.offset]? = some c ∧ set.contains c = true ∧ next = cur.move (cur.offset + 1) := by
  unfold ways at h
  cases hc : text[cur.offset]? with
  | none => simp [hc] at h
  | some c =>
    simp only [hc] at h
    split at h
    · rename_i hset
      exact ⟨c, rfl, hset, List.mem_singleton.mp h⟩
    · cases h

/-- The ways of several patterns in a row are those of the first one, with the
ways of the others behind each. -/
theorem ways_concat_cons (p : Pattern) (rest : List Pattern) (cur : Cursor) :
    ways text (concat (p :: rest)) cur = (ways text p cur).flatMap (ways text (concat rest)) := by
  cases rest with
  | nil =>
    show ways text p cur = (ways text p cur).flatMap fun next => [next]
    rw [List.flatMap_singleton']
  | cons q rest => rfl

/-- Given characters, one after the other, match where they stand in the text,
and nowhere else. -/
theorem ways_concat_only (chars : List Char) (cur : Cursor) :
    ways text (concat (chars.map only)) cur
      = if chars <+: text.toList.drop cur.offset then [cur.move (cur.offset + chars.length)]
        else [] := by
  induction chars generalizing cur with
  | nil =>
    rw [if_pos List.nil_prefix]
    rfl
  | cons c rest ih =>
    rw [List.map_cons, ways_concat_cons, only, ways]
    cases hat : text[cur.offset]? with
    | none =>
      rw [if_neg fun h => by rw [(Text.cons_prefix_drop.mp h).1] at hat; cases hat]
      rfl
    | some d =>
      by_cases hd : d = c
      · subst hd
        dsimp only
        rw [if_pos (CharSet.contains_single.mpr rfl), List.flatMap_singleton, ih,
          Cursor.offset_move, Cursor.move_move]
        by_cases hrest : rest <+: text.toList.drop (cur.offset + 1)
        · rw [if_pos hrest, if_pos (Text.cons_prefix_drop.mpr ⟨hat, hrest⟩), List.length_cons,
            Nat.add_comm rest.length, ← Nat.add_assoc]
        · rw [if_neg hrest, if_neg fun h => hrest (Text.cons_prefix_drop.mp h).2]
      · dsimp only
        rw [if_neg fun h => hd (CharSet.contains_single.mp h),
          if_neg fun h => hd (Option.some.inj (hat.symm.trans (Text.cons_prefix_drop.mp h).1))]
        rfl

/-- **A literal** matches where its string stands in the text, and nowhere
else. -/
theorem ways_literal (s : String) (cur : Cursor) :
    ways text (literal s) cur
      = if text.StandsAt s cur.offset then [cur.move (cur.offset + s.length)] else [] := by
  rw [← String.length_toList]
  exact ways_concat_only s.toList cur

/-- What starts with a literal goes on behind it where its string stands. -/
theorem ways_concat_literal {s : String} {cur : Cursor} (h : text.StandsAt s cur.offset)
    (rest : List Pattern) :
    ways text (concat (literal s :: rest)) cur
      = ways text (concat rest) (cur.move (cur.offset + s.length)) := by
  rw [ways_concat_cons, ways_literal, if_pos h, List.flatMap_singleton]

/-- What starts with a literal matches nowhere else. -/
theorem ways_concat_literal_eq_nil {s : String} {cur : Cursor}
    (h : ¬ text.StandsAt s cur.offset) (rest : List Pattern) :
    ways text (concat (literal s :: rest)) cur = [] := by
  rw [ways_concat_cons, ways_literal, if_neg h, List.flatMap_nil]

/-! ## Runs of characters -/

/-- **What a run passes**: at most as many characters as it may, all of them in
its set; and if it may pass more, the set does not hold the next one. -/
theorem runEnd_spec (text : Text) (set : CharSet) (offset limit : Nat) :
    runEnd text set offset limit ≤ offset + limit ∧
      set.Fills text offset (runEnd text set offset limit) ∧
      (runEnd text set offset limit < offset + limit →
        ∀ c, text[runEnd text set offset limit]? = some c → set.contains c = false) := by
  induction limit generalizing offset with
  | zero =>
    unfold runEnd
    exact ⟨Nat.le_refl _, fun _ _ _ => by omega, fun hlt => by omega⟩
  | succ limit ih =>
    have hstays : offset ≤ offset + (limit + 1) ∧ set.Fills text offset offset :=
      ⟨by omega, fun _ _ _ => by omega⟩
    unfold runEnd
    cases hc : text[offset]? with
    | none => exact ⟨hstays.1, hstays.2, fun _ c hat => by rw [hc] at hat; cases hat⟩
    | some c =>
      dsimp only
      split
      · rename_i hset
        obtain ⟨hle, hfills, hends⟩ := ih (offset + 1)
        exact ⟨by omega, (CharSet.Fills.single hc hset).trans hfills, fun hlt => hends (by omega)⟩
      · rename_i hset
        refine ⟨hstays.1, hstays.2, fun _ d hat => ?_⟩
        rw [hc] at hat
        cases hat
        exact Bool.eq_false_iff.mpr hset

/-- **A way of a run** passes characters of its set alone, no fewer than it has
to and no more than it may. -/
theorem exists_of_mem_charsWays {set : CharSet} {least : Nat} {most : Option Nat} {greedy : Bool}
    {cur next : Cursor} (h : next ∈ charsWays text set least most greedy cur) :
    ∃ stop, next = cur.move stop ∧ cur.offset + least ≤ stop ∧
      (∀ bound, most = some bound → stop ≤ cur.offset + max least bound) ∧
      set.Fills text cur.offset stop := by
  unfold charsWays at h
  dsimp only at h
  split at h
  · cases h
  · rename_i hleast
    obtain ⟨hlow, hfirst, -⟩ := runEnd_spec text set cur.offset least
    generalize runEnd text set cur.offset least = low at h hleast hlow hfirst
    obtain ⟨hmore, hlast, -⟩ := runEnd_spec text set low (charsLeft text least most low)
    have hle := le_runEnd text set low (charsLeft text least most low)
    generalize runEnd text set low (charsLeft text least most low) = high at h hmore hlast hle
    obtain ⟨stop, hmem, rfl⟩ := List.mem_map.mp h
    -- greedy or not, the ends tried are the same
    have hends : low ≤ stop ∧ stop ≤ high := by
      cases greedy with
      | true =>
        obtain ⟨hfrom, hto⟩ := List.mem_range'_1.mp (List.mem_reverse.mp hmem)
        exact ⟨hfrom, by omega⟩
      | false =>
        obtain ⟨hfrom, hto⟩ := List.mem_range'_1.mp hmem
        exact ⟨hfrom, by omega⟩
    have hfills : set.Fills text cur.offset stop :=
      hfirst.trans fun offset hfrom hto => hlast offset hfrom (by omega)
    refine ⟨stop, rfl, by omega, ?_, hfills⟩
    rintro bound rfl
    have hleft : charsLeft text least (some bound) low ≤ bound - least := Nat.min_le_right _ _
    omega

/-- The ways of a run without bounds: every offset as far as it goes. -/
theorem charsWays_unbounded (set : CharSet) (greedy : Bool) (cur : Cursor) :
    charsWays text set 0 none greedy cur
      = (let ends := List.range' cur.offset
          (runEnd text set cur.offset (text.size - cur.offset) - cur.offset + 1)
        if greedy then ends.reverse else ends).map cur.move := by
  unfold charsWays charsLeft runEnd
  dsimp only
  rw [if_neg (by omega)]

/-- **A greedy run without bounds** goes on over all characters of its set that
stand in a row. -/
theorem exists_head?_run (set : CharSet) (cur : Cursor) (hin : cur.offset ≤ text.size) :
    ∃ stop, (ways text (.chars set 0 none true) cur).head? = some (cur.move stop) ∧
      cur.offset ≤ stop ∧ stop ≤ text.size ∧ set.Fills text cur.offset stop ∧
      ∀ c, text[stop]? = some c → set.contains c = false := by
  have hle := le_runEnd text set cur.offset (text.size - cur.offset)
  obtain ⟨hlimit, hfills, hends⟩ := runEnd_spec text set cur.offset (text.size - cur.offset)
  have hhead : (ways text (.chars set 0 none true) cur).head?
      = some (cur.move (runEnd text set cur.offset (text.size - cur.offset))) := by
    rw [ways, charsWays_unbounded]
    generalize runEnd text set cur.offset (text.size - cur.offset) = stop at hle ⊢
    dsimp only
    rw [if_pos rfl, List.range'_concat, List.reverse_append, Nat.one_mul, Nat.add_sub_cancel' hle]
    rfl
  refine ⟨_, hhead, hle, by omega, hfills, fun c hc => hends ?_ c hc⟩
  obtain ⟨hlt, -⟩ := Array.getElem?_eq_some_iff.mp hc
  omega

/-! ## Lazy runs -/

/-- Along a range of offsets, the first that has anything decides. -/
theorem head?_flatMap_range' {β : Type} {f : Nat → List β} {low count stop : Nat}
    (hfrom : low ≤ stop) (hto : stop < low + count)
    (hbefore : ∀ offset, low ≤ offset → offset < stop → f offset = []) (hstop : f stop ≠ []) :
    ((List.range' low count).flatMap f).head? = (f stop).head? := by
  induction count generalizing low with
  | zero => omega
  | succ count ih =>
    rw [List.range'_succ, List.flatMap_cons, List.head?_append]
    obtain rfl | hlt := Nat.eq_or_lt_of_le hfrom
    · cases hf : f low with
      | nil => exact absurd hf hstop
      | cons first rest => rfl
    · rw [hbefore low (Nat.le_refl low) hlt]
      exact ih hlt (by omega) fun offset hle => hbefore offset (by omega)

/-- A lazy run over any characters tries every offset, up to the end of the
text, for what comes after it. -/
theorem ways_seq_starLazy_any (p : Pattern) {cur : Cursor} (hin : cur.offset ≤ text.size) :
    ways text (.seq (char .any).starLazy p) cur
      = (List.range' cur.offset (text.size - cur.offset + 1)).flatMap
          fun offset => ways text p (cur.move offset) := by
  have hends : runEnd text .any cur.offset (text.size - cur.offset) = text.size := by
    obtain ⟨hle, -, hends⟩ := runEnd_spec text .any cur.offset (text.size - cur.offset)
    by_contra hne
    -- short of the end there is one more character, and the set holds it
    have hlt : runEnd text .any cur.offset (text.size - cur.offset) < text.size := by omega
    have hlast := hends (by omega) _ (Array.getElem?_eq_getElem hlt)
    rw [CharSet.contains_any] at hlast
    cases hlast
  show (charsWays text .any 0 none false cur).flatMap (ways text p) = _
  rw [charsWays_unbounded, hends]
  dsimp only
  rw [if_neg Bool.false_ne_true, List.flatMap_map]

/-- **A lazy run up to a closing delimiter**, or else to the end of the text. -/
def upTo (closer : String) : Pattern :=
  concat [(char .any).starLazy, choice [literal closer, textEnd]]

/-- **A lazy run ends behind the first closing delimiter**, or at the end of the
text if there is none. -/
theorem exists_head?_upTo {closer : String} (hcloser : closer.length ≠ 0) (cur : Cursor)
    (hin : cur.offset ≤ text.size) :
    ∃ stop, (ways text (upTo closer) cur).head? = some (cur.move stop) ∧
      ((∃ last, IsLeast {offset | cur.offset ≤ offset ∧ text.StandsAt closer offset} last ∧
          stop = last + closer.length) ∨
        ((∀ offset, cur.offset ≤ offset → ¬ text.StandsAt closer offset) ∧ stop = text.size)) := by
  -- what closes the run at an offset
  let closings (offset : Nat) : List Cursor :=
    (if text.StandsAt closer offset then [cur.move (offset + closer.length)] else []) ++
      (if (offset == text.size) = true then [cur.move offset] else [])
  have hways : ways text (upTo closer) cur
      = (List.range' cur.offset (text.size - cur.offset + 1)).flatMap closings := by
    refine (ways_seq_starLazy_any _ hin).trans (List.flatMap_congr fun offset _ => ?_)
    show ways text (literal closer) (cur.move offset) ++ ways text textEnd (cur.move offset) = _
    rw [ways_literal]
    rfl
  have hexists : ∃ offset, cur.offset ≤ offset ∧
      (text.StandsAt closer offset ∨ offset = text.size) := ⟨text.size, hin, Or.inr rfl⟩
  obtain ⟨⟨hfrom, hends⟩, hfirst⟩ := Nat.isLeast_find hexists
  generalize Nat.find hexists = first at hfrom hends hfirst
  have hfirst_le : first ≤ text.size := hfirst ⟨hin, Or.inr rfl⟩
  have hbefore : ∀ offset, cur.offset ≤ offset → offset < first → closings offset = [] := by
    intro offset hle hlt
    have hnot : ¬ (text.StandsAt closer offset ∨ offset = text.size) := fun h =>
      Nat.not_le.mpr hlt (hfirst ⟨hle, h⟩)
    rw [not_or] at hnot
    simp [closings, hnot]
  have hhead (h : closings first ≠ []) :
      (ways text (upTo closer) cur).head? = (closings first).head? := by
    rw [hways, head?_flatMap_range' hfrom (by omega) hbefore h]
  by_cases hcloses : text.StandsAt closer first
  · have hclosings : (closings first).head? = some (cur.move (first + closer.length)) := by
      simp [closings, hcloses]
    refine ⟨_, (hhead fun h => by rw [h] at hclosings; cases hclosings).trans hclosings,
      .inl ⟨first, ⟨⟨hfrom, hcloses⟩, ?_⟩, rfl⟩⟩
    rintro offset ⟨hle, hstands⟩
    exact hfirst ⟨hle, Or.inl hstands⟩
  · obtain rfl : first = text.size := hends.resolve_left hcloses
    have hclosings : (closings text.size).head? = some (cur.move text.size) := by
      simp [closings, hcloses]
    refine ⟨_, (hhead fun h => by rw [h] at hclosings; cases hclosings).trans hclosings,
      .inr ⟨fun offset hle hstands => ?_, rfl⟩⟩
    -- a delimiter is not empty, so it stands before the end
    have hlength := hstands.length_le
    have hle_first := hfirst ⟨hle, Or.inl hstands⟩
    omega

/-! ## Rounds -/

section Rounds

variable {body : Cursor → List Cursor}

/-- A number of rounds is a chain of rounds. -/
theorem reaches_of_mem_exactlyWays {rounds : Nat} {cur next : Cursor}
    (h : next ∈ exactlyWays body rounds cur) :
    Relation.ReflTransGen (fun a b => b ∈ body a) cur next := by
  induction rounds generalizing cur with
  | zero =>
    rw [exactlyWays, List.mem_singleton] at h
    exact h ▸ .refl
  | succ rounds ih =>
    obtain ⟨mid, hmid, hnext⟩ := List.mem_flatMap.mp h
    exact .head hmid (ih hnext)

/-- Any number of rounds is a chain of rounds. -/
theorem reaches_of_mem_moreWays {greedy : Bool} {steps : Nat} {left : Option Nat}
    {cur next : Cursor} (h : next ∈ moreWays body greedy steps left cur) :
    Relation.ReflTransGen (fun a b => b ∈ body a) cur next := by
  induction steps generalizing left cur with
  | zero =>
    rw [moreWays, List.mem_singleton] at h
    exact h ▸ .refl
  | succ steps ih =>
    -- whatever the preference, a way stays where it is or goes on by a round
    have hcases : next = cur ∨ ∃ mid ∈ body cur,
        next ∈ (if mid.offset == cur.offset then [mid]
          else moreWays body greedy steps (left.map (· - 1)) mid) := by
      unfold moreWays at h
      dsimp only at h
      split at h
      · obtain h | h := List.mem_append.mp h
        · split at h
          · cases h
          · exact Or.inr (List.mem_flatMap.mp h)
        · exact Or.inl (List.mem_singleton.mp h)
      · obtain h | h := List.mem_cons.mp h
        · exact Or.inl h
        · split at h
          · cases h
          · exact Or.inr (List.mem_flatMap.mp h)
    obtain rfl | ⟨mid, hmid, hnext⟩ := hcases
    · exact .refl
    · split at hnext
      · rw [List.mem_singleton] at hnext
        exact hnext ▸ .single hmid
      · exact .head hmid (ih hnext)

end Rounds

/-- **A way of a repetition** is a chain of ways of what is repeated. -/
theorem reaches_of_mem_repeated {body : Pattern} {least : Nat} {most : Option Nat}
    {greedy : Bool} {cur next : Cursor}
    (h : next ∈ ways text (.repeated body least most greedy) cur) :
    Relation.ReflTransGen (fun a b => b ∈ ways text body a) cur next := by
  obtain ⟨mid, hmid, hnext⟩ := List.mem_flatMap.mp h
  exact (reaches_of_mem_exactlyWays hmid).trans (reaches_of_mem_moreWays hnext)

end Pattern

end SourceLens
