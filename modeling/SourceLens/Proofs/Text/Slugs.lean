import Mathlib
import SourceLens.Text.Slug

/-!
# The form of slugs

A slug is made in four steps, and what a reader wants to know of it is its form:
words of kept characters, joined by single hyphens (`Slug.IsJoined`). The steps do
not build this form one after the other, since the cut can end in the middle of a
word or behind a hyphen. What survives all of them is a condition on neighbours:
every character is kept or a hyphen, and no two hyphens stand side by side
(`Slug.IsSpaced`). Every stretch of such a list is one. Without hyphens at its
ends, which are taken off last, it is a list of words (`Slug.IsSlug.isJoined`).

A slug of a length that is no longer than the limit is left as it is by each of
the steps (`Slug.IsSlug.ofChars_eq`). The fallback is a slug of seven characters,
so from this limit on a slug is its own slug.
-/

namespace SourceLens

namespace Slug

variable {cs : List Char} {limit : Int}

/-- **Words joined by single hyphens**: one or more, none of them empty, of kept
characters. -/
def IsJoined (cs : List Char) : Prop :=
  ∃ words : List (List Char), words ≠ [] ∧
    (∀ word ∈ words, word ≠ [] ∧ ∀ c ∈ word, isKept c = true) ∧ cs = ['-'].intercalate words

/-- **Kept characters with single hyphens**, which may stand at the ends. -/
structure IsSpaced (cs : List Char) : Prop where
  chars : ∀ c ∈ cs, isKept c = true ∨ c = '-'
  single : cs.IsChain fun c next => c = '-' → next ≠ '-'

/-- **A slug, character by character.** -/
structure IsSlug (cs : List Char) : Prop extends IsSpaced cs where
  nonempty : cs ≠ []
  first : cs.head? ≠ some '-'
  last : cs.getLast? ≠ some '-'

/-- The codes of the small letters and of the digits. -/
theorem toNat_of_isKept {c : Char} (hc : isKept c = true) :
    97 ≤ c.toNat ∧ c.toNat ≤ 122 ∨ 48 ≤ c.toNat ∧ c.toNat ≤ 57 := by
  simp only [isKept, Bool.or_eq_true, Bool.and_eq_true, decide_eq_true_eq, Char.le_def,
    UInt32.le_iff_toNat_le] at hc
  exact hc

theorem ne_hyphen_of_isKept {c : Char} (hc : isKept c = true) : c ≠ '-' := by
  rintro rfl
  cases hc

theorem head?_cons_ne_hyphen {c : Char} (hc : isKept c = true) (rest : List Char) :
    (c :: rest).head? ≠ some '-' :=
  fun heq => ne_hyphen_of_isKept hc (Option.some.inj heq)

/-! ## Words -/

theorem IsJoined.singleton {c : Char} (hc : isKept c = true) : IsJoined [c] := by
  refine ⟨[[c]], List.cons_ne_nil _ _, fun word hword => ?_, rfl⟩
  rw [List.mem_singleton.mp hword]
  exact ⟨List.cons_ne_nil _ _, fun d hd => List.mem_singleton.mp hd ▸ hc⟩

/-- A character in front belongs to the first word. -/
theorem IsJoined.cons {c : Char} (hc : isKept c = true) (h : IsJoined cs) :
    IsJoined (c :: cs) := by
  obtain ⟨words, hne, hwords, rfl⟩ := h
  obtain ⟨word, rest, rfl⟩ := List.exists_cons_of_ne_nil hne
  obtain ⟨hword, hrest⟩ := List.forall_mem_cons.mp hwords
  refine ⟨(c :: word) :: rest, List.cons_ne_nil _ _, List.forall_mem_cons.mpr ⟨?_, hrest⟩, ?_⟩
  · exact ⟨List.cons_ne_nil _ _, List.forall_mem_cons.mpr ⟨hc, hword.2⟩⟩
  · cases rest with
    | nil => rfl
    | cons next later =>
      rw [List.intercalate_cons_cons, List.intercalate_cons_cons]
      rfl

/-- A character and a hyphen in front are a word of their own. -/
theorem IsJoined.cons_hyphen {c : Char} (hc : isKept c = true) (h : IsJoined cs) :
    IsJoined (c :: '-' :: cs) := by
  obtain ⟨words, hne, hwords, rfl⟩ := h
  obtain ⟨word, rest, rfl⟩ := List.exists_cons_of_ne_nil hne
  refine ⟨[c] :: word :: rest, List.cons_ne_nil _ _, List.forall_mem_cons.mpr ⟨?_, hwords⟩, ?_⟩
  · exact ⟨List.cons_ne_nil _ _, fun d hd => List.mem_singleton.mp hd ▸ hc⟩
  · rw [List.intercalate_cons_cons]
    rfl

theorem IsSpaced.tail {c : Char} {rest : List Char} (h : IsSpaced (c :: rest)) : IsSpaced rest :=
  ⟨(List.forall_mem_cons.mp h.chars).2, h.single.tail⟩

/-- No hyphen stands behind a hyphen. -/
theorem IsSpaced.head?_ne {rest : List Char} (h : IsSpaced ('-' :: rest)) :
    rest.head? ≠ some '-' :=
  fun hhyphen => (List.isChain_cons.mp h.single).1 '-' hhyphen rfl rfl

/-- What does not start with a hyphen is not stripped in front. -/
theorem dropWhile_hyphen_eq_self (h : cs.head? ≠ some '-') : cs.dropWhile (· == '-') = cs := by
  cases cs with
  | nil => rfl
  | cons c rest =>
    have hc : ¬ (c == '-') = true := fun heq => h (congrArg some (beq_iff_eq.mp heq))
    exact List.dropWhile_cons_of_neg hc

/-- **Single hyphens join words**, from the first kept character on, if the last
character is kept. -/
theorem IsSpaced.isJoined (h : IsSpaced cs) (hne : cs ≠ []) (hlast : cs.getLast? ≠ some '-') :
    IsJoined (cs.dropWhile (· == '-')) := by
  induction cs with
  | nil => exact absurd rfl hne
  | cons c rest ih =>
    have hrest (hmore : rest ≠ []) : IsJoined (rest.dropWhile (· == '-')) := by
      obtain ⟨d, more, rfl⟩ := List.exists_cons_of_ne_nil hmore
      exact ih h.tail hmore (List.getLast?_cons_cons ▸ hlast)
    obtain hc | rfl := h.chars c List.mem_cons_self
    · rw [dropWhile_hyphen_eq_self (head?_cons_ne_hyphen hc rest)]
      cases rest with
      | nil => exact .singleton hc
      | cons d more =>
        have hjoined := hrest (List.cons_ne_nil d more)
        obtain hd | rfl := h.tail.chars d List.mem_cons_self
        · rw [dropWhile_hyphen_eq_self (head?_cons_ne_hyphen hd more)] at hjoined
          exact hjoined.cons hc
        · rw [List.dropWhile_cons_of_pos rfl, dropWhile_hyphen_eq_self h.tail.head?_ne] at hjoined
          exact hjoined.cons_hyphen hc
    · rw [List.dropWhile_cons_of_pos rfl]
      refine hrest fun hnil => hlast ?_
      rw [hnil]
      rfl

/-- **A slug consists of words.** -/
theorem IsSlug.isJoined (h : IsSlug cs) : IsJoined cs :=
  dropWhile_hyphen_eq_self h.first ▸ h.toIsSpaced.isJoined h.nonempty h.last

/-! ## The steps -/

theorem IsSpaced.stretch {part : List Char} (h : IsSpaced cs) (hpart : part <:+: cs) :
    IsSpaced part :=
  ⟨fun c hc => h.chars c (hpart.subset hc), h.single.infix hpart⟩

/-- **Each run of other characters becomes one hyphen**, and none is written
behind one. -/
theorem isSpaced_hyphenateAfter (inGap : Bool) (cs : List Char) :
    IsSpaced (hyphenateAfter inGap cs) ∧
      (inGap = true → (hyphenateAfter inGap cs).head? ≠ some '-') := by
  induction cs generalizing inGap with
  | nil => exact ⟨⟨by simp [hyphenateAfter], .nil⟩, by simp [hyphenateAfter]⟩
  | cons c rest ih =>
    unfold hyphenateAfter
    split_ifs with hc hgap
    · refine ⟨⟨List.forall_mem_cons.mpr ⟨Or.inl hc, (ih false).1.chars⟩, ?_⟩,
        fun _ => head?_cons_ne_hyphen hc _⟩
      exact List.isChain_cons.mpr
        ⟨fun _ _ heq => absurd heq (ne_hyphen_of_isKept hc), (ih false).1.single⟩
    · exact ⟨(ih true).1, fun _ => (ih true).2 rfl⟩
    · refine ⟨⟨List.forall_mem_cons.mpr ⟨Or.inr rfl, (ih true).1.chars⟩, ?_⟩,
        fun htrue => absurd htrue hgap⟩
      refine List.isChain_cons.mpr ⟨fun next hnext _ heq => ?_, (ih true).1.single⟩
      rw [heq] at hnext
      exact (ih true).2 rfl hnext

theorem cut_prefix_self (limit : Int) (cs : List Char) : cut limit cs <+: cs := by
  unfold cut
  split <;> exact List.take_prefix _ _

theorem length_cut_le (hlimit : 0 ≤ limit) (cs : List Char) :
    ((cut limit cs).length : Int) ≤ limit := by
  rw [cut, if_pos hlimit, List.length_take]
  omega

theorem stripHyphens_infix_self (cs : List Char) : stripHyphens cs <:+: cs :=
  (List.rdropWhile_prefix _ _).isInfix.trans (List.dropWhile_suffix _).isInfix

/-- No hyphen is left at an end. -/
theorem stripHyphens_ends (cs : List Char) :
    (stripHyphens cs).head? ≠ some '-' ∧ (stripHyphens cs).getLast? ≠ some '-' := by
  refine ⟨fun heq => ?_, fun heq => ?_⟩
  · -- the first character is the first one that is not dropped in front
    obtain ⟨behind, hbehind⟩ : stripHyphens cs <+: cs.dropWhile (· == '-') :=
      List.rdropWhile_prefix _ _
    have hfirst := List.head?_dropWhile_not (· == '-') cs
    rw [← hbehind, List.head?_append, heq] at hfirst
    cases hfirst
  · have hne : stripHyphens cs ≠ [] := fun hnil => by
      rw [hnil] at heq
      cases heq
    rw [List.getLast?_eq_some_getLast hne] at heq
    exact List.rdropWhile_last_not _ _ hne (beq_iff_eq.mpr (Option.some.inj heq))

theorem isSlug_fallback : IsSlug fallback := by
  have hkept : ∀ c ∈ fallback, isKept c = true := List.all_eq_true.mp rfl
  exact ⟨⟨fun c hc => Or.inl (hkept c hc), by simp [fallback]⟩, List.cons_ne_nil _ _,
    by simp [fallback], by simp [fallback]⟩

/-- **Every text has a slug.** -/
theorem isSlug_ofChars (cs : List Char) (limit : Int) : IsSlug (ofChars cs limit) := by
  unfold ofChars
  dsimp only
  split_ifs with hempty
  · exact isSlug_fallback
  · have hpart := (stripHyphens_infix_self (cut limit (hyphenate (lowerChars cs)))).trans
      (cut_prefix_self limit _).isInfix
    obtain ⟨hfirst, hlast⟩ := stripHyphens_ends (cut limit (hyphenate (lowerChars cs)))
    exact ⟨(isSpaced_hyphenateAfter false (lowerChars cs)).1.stretch hpart,
      fun hnil => hempty (List.isEmpty_iff.mpr hnil), hfirst, hlast⟩

/-- A slug is cut to its limit, from that of the fallback on. -/
theorem length_ofChars_le (cs : List Char) (hlimit : 7 ≤ limit) :
    ((ofChars cs limit).length : Int) ≤ limit := by
  unfold ofChars
  dsimp only
  split_ifs
  · exact hlimit
  · refine le_trans ?_ (length_cut_le (by omega) (hyphenate (lowerChars cs)))
    exact Int.ofNat_le.mpr (stripHyphens_infix_self _).length_le

/-! ## Slugs of slugs -/

/-- The characters of slugs are their own small letters. -/
theorem lowerChar_eq_self {c : Char} (hc : isKept c = true ∨ c = '-') :
    c.toNat < 0x80 ∧ lowerChar c = c := by
  obtain hc | rfl := hc
  · have hcode := toNat_of_isKept hc
    have hascii : c.toNat < 0x80 := by omega
    refine ⟨hascii, ?_⟩
    rw [lowerChar, if_pos hascii]
    refine Char.toLower_eq_of_not_isUpper fun hupper => ?_
    simp only [Char.isUpper, ge_iff_le, UInt32.le_iff_toNat_le, decide_eq_true_eq] at hupper
    have hcapital : 65 ≤ c.toNat ∧ c.toNat ≤ 90 := hupper
    omega
  · exact ⟨by decide, rfl⟩

/-- A slug is its own lower case. -/
theorem lowerAfter_eq_self (before : List Char) (h : ∀ c ∈ cs, isKept c = true ∨ c = '-') :
    lowerAfter before cs = cs := by
  induction cs generalizing before with
  | nil => rfl
  | cons c rest ih =>
    obtain ⟨hc, hrest⟩ := List.forall_mem_cons.mp h
    obtain ⟨hascii, hlower⟩ := lowerChar_eq_self hc
    have hsigma : ¬ (c == 'Σ') = true := fun heq => by
      rw [beq_iff_eq.mp heq] at hascii
      exact absurd hascii (by decide)
    have hdotted : ¬ (c.toNat == 0x130) = true := fun heq => by
      rw [beq_iff_eq.mp heq] at hascii
      exact absurd hascii (by decide)
    rw [lowerAfter, ih _ hrest, if_neg hsigma, if_neg hdotted, hlower]
    rfl

/-- Single hyphens are left alone. -/
theorem hyphenateAfter_eq_self {inGap : Bool} (h : IsSpaced cs)
    (hgap : inGap = true → cs.head? ≠ some '-') : hyphenateAfter inGap cs = cs := by
  induction cs generalizing inGap with
  | nil => rfl
  | cons c rest ih =>
    unfold hyphenateAfter
    obtain hc | rfl := h.chars c List.mem_cons_self
    · rw [if_pos hc, @ih false h.tail fun hfalse => absurd hfalse Bool.false_ne_true]
    · have hfree : ¬ inGap = true := fun htrue => hgap htrue rfl
      rw [if_neg (by decide), if_neg hfree, ih h.tail fun _ => h.head?_ne]

/-- **A slug within the limit is its own slug.** -/
theorem IsSlug.ofChars_eq (h : IsSlug cs) (hlimit : (cs.length : Int) ≤ limit) :
    ofChars cs limit = cs := by
  have hcut : cut limit cs = cs := by
    rw [cut, if_pos (by omega), List.take_of_length_le (by omega)]
  have hlast : cs.rdropWhile (· == '-') = cs :=
    List.rdropWhile_eq_self_iff.mpr fun hne heq =>
      h.last (by rw [List.getLast?_eq_some_getLast hne, beq_iff_eq.mp heq])
  have hstripped : stripHyphens cs = cs := by
    rw [stripHyphens, dropWhile_hyphen_eq_self h.first]
    exact hlast
  have hslug : stripHyphens (cut limit (hyphenate (lowerChars cs))) = cs := by
    rw [lowerChars, lowerAfter_eq_self [] h.chars, hyphenate,
      @hyphenateAfter_eq_self cs false h.toIsSpaced fun hfalse => absurd hfalse Bool.false_ne_true,
      hcut, hstripped]
  rw [ofChars, hslug, if_neg fun hempty => h.nonempty (List.isEmpty_iff.mp hempty)]

end Slug

/-! ## Slugs of names -/

theorem isSlug_slugify (name : String) (limit : Int) : Slug.IsSlug (slugify name limit).toList := by
  rw [slugify, String.toList_ofList]
  exact Slug.isSlug_ofChars name.toList limit

theorem length_slugify_le (name : String) {limit : Int} (hlimit : 7 ≤ limit) :
    ((slugify name limit).length : Int) ≤ limit := by
  rw [slugify, String.length_ofList]
  exact Slug.length_ofChars_le name.toList hlimit

/-- **A slug is its own slug**, at the same limit. -/
theorem slugify_slugify (name : String) {limit : Int} (hlimit : 7 ≤ limit) :
    slugify (slugify name limit) limit = slugify name limit := by
  have hlength := length_slugify_le name hlimit
  rw [← String.length_toList] at hlength
  rw [slugify, (isSlug_slugify name limit).ofChars_eq hlength, String.ofList_toList]

end SourceLens
