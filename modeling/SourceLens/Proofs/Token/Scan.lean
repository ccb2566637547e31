import Mathlib.Data.List.Forall2
import SourceLens.Proofs.Pattern.Bounds
import SourceLens.Token.Basic

/-!
# Tokens offset by offset

`Rule.tokenize` jumps: it searches the joined pattern of a language from its
cursor on and takes the category of a match from the group that was closed
last. The tokens are meant to be something simpler, which `Category.scan` says
without a joined pattern and without a search: at each offset the categories
are tried in order of priority, the first one that matches decides, and the
scan goes on behind its match if there is anything in it, else one character
on.

The two are equal for every language whose token pattern is the choice of its
categories (`Rule.DividesBy`): one group for each of them, in order, under the
name of the category, which matches as the category does. Then a match of the
joined pattern is the match of the category that decides, and the group closed
last is the one of that category (`verdict_choice`); a search passes over no
offset at which a category decides; and an empty match is stepped over alike
(`Rule.DividesBy.tokenize_eq`).
-/

namespace SourceLens

/-! ## The scan -/

namespace Category

/-- Where the match of a category at an offset ends, if there is one. -/
def stopAt? (c : Category) (text : Text) (offset : Nat) : Option Nat :=
  (c.pattern.matchAt text offset).map (·.stop)

/-- The match of a category ends where the first way of its pattern does. -/
theorem stopAt?_eq_head? (c : Category) (text : Text) (offset : Nat) :
    c.stopAt? text offset = (c.pattern.ways text (.start offset)).head?.map (·.offset) := by
  rw [stopAt?, Pattern.matchAt_eq_head?, Option.map_map]
  rfl

/-- **The category that decides at an offset**, with the end of its match: the
first one that matches there, whether or not the match is empty. -/
def deciding? (categories : List Category) (text : Text) (offset : Nat) :
    Option (Category × Nat) :=
  categories.findSome? fun c => (c.stopAt? text offset).map (c, ·)

/-- The tokens of a scan from an offset on. -/
def scanFrom (categories : List Category) (text : Text) (offset : Nat) : List Token :=
  if offset < text.size then
    match deciding? categories text offset with
    | some (c, stop) =>
      if h : offset < stop then
        ⟨⟨offset, stop, c.tag, by omega⟩, text.slice offset stop⟩ :: scanFrom categories text stop
      else scanFrom categories text (offset + 1)
    | none => scanFrom categories text (offset + 1)
  else []
termination_by text.size - offset

/-- **The tokens of a text, offset by offset**: at each offset the first
category that matches decides. -/
def scan (categories : List Category) (text : Text) : List Token :=
  scanFrom categories text 0

end Category

/-! ## Languages that are the choice of their categories -/

/-- **Two patterns agree**: from every offset they lead to the same offsets in
the same order of preference. -/
def Pattern.Agree (p q : Pattern) : Prop :=
  ∀ (text : Text) (offset : Nat),
    (p.ways text (.start offset)).map (·.offset) = (q.ways text (.start offset)).map (·.offset)

/-- A pattern is the alternative of a category: a group with its name that
agrees with its pattern. -/
def Category.IsAlternative (c : Category) (alternative : Pattern) : Prop :=
  ∃ index body, alternative = .group index (some c.name) body ∧ body.Agree c.pattern

/-- **A language divides texts by some categories**: its token pattern is the
choice of their alternatives in order, no two have one name, and it shows each
with the tag of the category. -/
structure Rule.DividesBy (rule : Rule) (categories : List Category) : Prop where
  styles : rule.styles = categories.map fun c => (c.name, c.tag)
  distinct : (categories.map (·.name)).Nodup
  tokens : ∃ alternatives, List.Forall₂ Category.IsAlternative categories alternatives ∧
    rule.tokens = if categories.isEmpty then none else some (Pattern.choice alternatives)

namespace Pattern

/-- The ways of a choice are those of its alternatives in order. -/
theorem ways_choice (text : Text) {alternatives : List Pattern} (h : alternatives ≠ [])
    (cur : Cursor) :
    ways text (choice alternatives) cur = alternatives.flatMap (ways text · cur) := by
  induction alternatives with
  | nil => exact absurd rfl h
  | cons p rest ih =>
    cases rest with
    | nil => rw [choice, List.flatMap_cons, List.flatMap_nil, List.append_nil]
    | cons q rest =>
      rw [List.flatMap_cons, ← ih (List.cons_ne_nil q rest)]
      rfl

/-- The first way of a category's alternative closes the group of the category
last and ends where the category's match does. -/
theorem head?_ways_alternative {c : Category} {alternative : Pattern}
    (h : c.IsAlternative alternative) (text : Text) (offset : Nat) :
    (alternative.ways text (.start offset)).head?.map
        (fun cur => (cur.groups.head?.bind (·.name), cur.offset))
      = (c.stopAt? text offset).map (some c.name, ·) := by
  obtain ⟨index, body, rfl, hagree⟩ := h
  have hheads := congrArg List.head? (hagree text offset)
  rw [List.head?_map, List.head?_map] at hheads
  rw [c.stopAt?_eq_head?, ← hheads, ways, List.head?_map, Option.map_map, Option.map_map]
  rfl

/-- **A match of the joined pattern is the match of the category that
decides**: the group closed last has the name of that category. -/
theorem verdict_choice {categories : List Category} {alternatives : List Pattern}
    (h : List.Forall₂ Category.IsAlternative categories alternatives) (hne : categories ≠ [])
    (text : Text) (offset : Nat) :
    ((choice alternatives).matchAt text offset).map
        (fun m => (m.lastGroup?.bind (·.name), m.stop))
      = (Category.deciding? categories text offset).map fun d => (some d.1.name, d.2) := by
  have hne' : alternatives ≠ [] := by
    rintro rfl
    exact hne (List.forall₂_nil_right_iff.mp h)
  rw [matchAt_eq_head?, Option.map_map, ways_choice text hne', Category.deciding?]
  clear hne hne'
  induction h with
  | nil => rfl
  | @cons c alternative categories alternatives hhead _ ih =>
    have hfirst := head?_ways_alternative hhead text offset
    rw [List.flatMap_cons, List.head?_append, List.findSome?_cons]
    cases hway : (alternative.ways text (.start offset)).head? with
    | some cur =>
      rw [hway] at hfirst
      cases hstop : c.stopAt? text offset with
      | none => simp [hstop] at hfirst
      | some stop =>
        rw [hstop] at hfirst
        exact hfirst
    | none =>
      rw [hway] at hfirst
      cases hstop : c.stopAt? text offset with
      | some stop => simp [hstop] at hfirst
      | none => exact ih

end Pattern

namespace Category

variable {categories : List Category} {text : Text}

theorem mem_of_deciding? {offset stop : Nat} {c : Category}
    (h : deciding? categories text offset = some (c, stop)) : c ∈ categories := by
  obtain ⟨d, hd, hfound⟩ := List.exists_of_findSome?_eq_some h
  obtain ⟨_, -, hpair⟩ := Option.map_eq_some_iff.mp hfound
  cases hpair
  exact hd

/-- The category that decides matches. -/
theorem stopAt?_of_deciding? {offset stop : Nat} {c : Category}
    (h : deciding? categories text offset = some (c, stop)) : c.stopAt? text offset = some stop := by
  obtain ⟨d, -, hfound⟩ := List.exists_of_findSome?_eq_some h
  obtain ⟨_, hstop, hpair⟩ := Option.map_eq_some_iff.mp hfound
  cases hpair
  exact hstop

/-- The match of the category that decides ends in the text, at or after its
start. -/
theorem leads_of_deciding? {offset stop : Nat} {c : Category}
    (h : deciding? categories text offset = some (c, stop)) : Leads text offset stop := by
  obtain ⟨m, hm, rfl⟩ := Option.map_eq_some_iff.mp (stopAt?_of_deciding? h)
  exact Pattern.leads_of_matchAt hm

/-- Nothing is scanned from the end of the text on. -/
theorem scanFrom_of_size_le {offset : Nat} (h : text.size ≤ offset) :
    scanFrom categories text offset = [] := by
  rw [scanFrom, if_neg (by omega)]

/-- Where no category decides, the scan goes on one character further. -/
theorem scanFrom_of_deciding?_eq_none {offset : Nat}
    (h : deciding? categories text offset = none) :
    scanFrom categories text offset = scanFrom categories text (offset + 1) := by
  rw [scanFrom]
  split
  · rw [h]
  · exact (scanFrom_of_size_le (by omega)).symm

/-- Where a category decides with a match that is not empty, its token is
first. -/
theorem scanFrom_of_lt {offset stop : Nat} {c : Category} (hinside : offset < text.size)
    (h : deciding? categories text offset = some (c, stop)) (hlt : offset < stop) :
    scanFrom categories text offset
      = ⟨⟨offset, stop, c.tag, Nat.le_of_lt hlt⟩, text.slice offset stop⟩
          :: scanFrom categories text stop := by
  rw [scanFrom, if_pos hinside, h]
  dsimp only
  rw [dif_pos hlt]

/-- Where a category decides with an empty match, the scan goes on one
character further. -/
theorem scanFrom_of_not_lt {offset stop : Nat} {c : Category}
    (h : deciding? categories text offset = some (c, stop)) (hlt : ¬ offset < stop) :
    scanFrom categories text offset = scanFrom categories text (offset + 1) := by
  rw [scanFrom]
  split
  · rw [h]
    dsimp only
    rw [dif_neg hlt]
  · exact (scanFrom_of_size_le (by omega)).symm

/-- A scan passes over offsets at which no category decides. -/
theorem scanFrom_skip {offset stop : Nat} (hle : offset ≤ stop)
    (h : ∀ before, offset ≤ before → before < stop → deciding? categories text before = none) :
    scanFrom categories text offset = scanFrom categories text stop := by
  induction hle with
  | refl => rfl
  | @step stop hle ih =>
    rw [ih fun before hfrom hto => h before hfrom (by omega)]
    exact scanFrom_of_deciding?_eq_none (h stop hle (Nat.lt_succ_self stop))

/-- **A token of the scan** is the match of the category that decides where it
starts. -/
theorem exists_deciding?_of_mem_scanFrom {offset : Nat} {token : Token}
    (h : token ∈ scanFrom categories text offset) :
    ∃ c, deciding? categories text token.span.start = some (c, token.span.stop) ∧
      token.span.tag = c.tag := by
  fun_induction scanFrom categories text offset with
  | case1 offset hinside c stop hdeciding hlt ih =>
    obtain rfl | h := List.mem_cons.mp h
    · exact ⟨c, hdeciding, rfl⟩
    · exact ih h
  | case2 offset hinside c stop hdeciding hempty ih => exact ih h
  | case3 offset hinside hnone ih => exact ih h
  | case4 offset houtside => cases h

/-- A token of the scan is the match of a category, from where it starts. -/
theorem exists_of_mem_scanFrom {offset : Nat} {token : Token}
    (h : token ∈ scanFrom categories text offset) :
    ∃ c ∈ categories, c.stopAt? text token.span.start = some token.span.stop ∧
      token.span.tag = c.tag := by
  obtain ⟨c, hdeciding, htag⟩ := exists_deciding?_of_mem_scanFrom h
  exact ⟨c, mem_of_deciding? hdeciding, stopAt?_of_deciding? hdeciding, htag⟩

/-- **The scan comes to every offset or covers it**: either a token that starts
before the offset ends behind it, or the tokens from the offset on are the last
ones of the scan. -/
theorem covered_or_suffix (categories : List Category) (text : Text) {offset place : Nat}
    (hle : offset ≤ place) :
    (∃ token ∈ scanFrom categories text offset,
        token.span.start < place ∧ place < token.span.stop) ∨
      scanFrom categories text place <:+ scanFrom categories text offset := by
  fun_induction scanFrom categories text offset with
  | case1 offset hinside c stop hdeciding hnonempty ih =>
    obtain rfl | hlt := Nat.eq_or_lt_of_le hle
    · rw [scanFrom_of_lt hinside hdeciding hnonempty]
      exact .inr (List.suffix_refl _)
    · by_cases hcovers : place < stop
      · exact .inl ⟨_, List.mem_cons_self, hlt, hcovers⟩
      · obtain ⟨token, htoken, hcovered⟩ | hsuffix := ih (by omega)
        · exact .inl ⟨token, List.mem_cons_of_mem _ htoken, hcovered⟩
        · exact .inr (hsuffix.trans (List.suffix_cons _ _))
  | case2 offset hinside c stop hdeciding hempty ih =>
    obtain rfl | hlt := Nat.eq_or_lt_of_le hle
    · rw [scanFrom_of_not_lt hdeciding hempty]
      exact .inr (List.suffix_refl _)
    · exact ih hlt
  | case3 offset hinside hnone ih =>
    obtain rfl | hlt := Nat.eq_or_lt_of_le hle
    · rw [scanFrom_of_deciding?_eq_none hnone]
      exact .inr (List.suffix_refl _)
    · exact ih hlt
  | case4 offset houtside =>
    rw [scanFrom_of_size_le (by omega)]
    exact .inr (List.suffix_refl _)

end Category

/-! ## The search finds the tokens of the scan -/

namespace Rule.DividesBy

variable {rule : Rule} {categories : List Category} {text : Text}

/-- A category's name is shown with its tag. -/
theorem lookup_name (h : rule.DividesBy categories) {c : Category} (hc : c ∈ categories) :
    rule.styles.lookup c.name = some c.tag := by
  have hdistinct := h.distinct
  rw [h.styles]
  clear h
  induction categories with
  | nil => cases hc
  | cons d rest ih =>
    rw [List.map_cons] at hdistinct
    obtain ⟨hnotin, hrest⟩ := List.nodup_cons.mp hdistinct
    rw [List.map_cons, List.lookup_cons]
    obtain rfl | hc := List.mem_cons.mp hc
    · rw [beq_self_eq_true]
    · have hne : (c.name == d.name) = false :=
        beq_false_of_ne fun heq => hnotin (heq ▸ List.mem_map_of_mem hc)
      rw [hne]
      exact ih hc hrest

/-- The tag of a match whose last group is that of a category. -/
theorem tagOf (h : rule.DividesBy categories) {c : Category} (hc : c ∈ categories) {m : Match}
    (hname : m.lastGroup?.bind (·.name) = some c.name) : rule.tagOf m = .ok c.tag := by
  unfold Rule.tagOf
  dsimp only
  rw [hname, Option.bind_some, h.lookup_name hc]

/-- **Every match of the tokens of a language has a tag**, whether it is empty
or not: that of the category that decides where it starts. -/
theorem exists_tagOf (h : rule.DividesBy categories) {pattern : Pattern}
    (hpattern : rule.tokens = some pattern) {offset : Nat} {m : Match}
    (hfound : pattern.search text offset = some m) : ∃ tag, rule.tagOf m = .ok tag := by
  obtain ⟨alternatives, halternatives, htokens⟩ := h.tokens
  rw [hpattern] at htokens
  cases categories with
  | nil => cases htokens
  | cons c rest =>
    cases htokens
    obtain ⟨-, -, hat, -⟩ := Pattern.searchWithin_eq_some hfound
    have hverdict :=
      Pattern.verdict_choice halternatives (List.cons_ne_nil c rest) text m.start
    rw [hat, Option.map_some] at hverdict
    obtain ⟨⟨d, stop⟩, hdeciding, hpair⟩ := Option.map_eq_some_iff.mp hverdict.symm
    obtain ⟨hname, -⟩ := Prod.mk.inj hpair
    exact ⟨d.tag, h.tagOf (Category.mem_of_deciding? hdeciding) hname.symm⟩

/-- **Searching from an offset finds the tokens of the scan from there.** The
induction is on the steps that the search may take, which are enough as long
as they reach the end of the text. -/
theorem tokensFrom_eq_scanFrom (h : rule.DividesBy categories) {alternatives : List Pattern}
    (halternatives : List.Forall₂ Category.IsAlternative categories alternatives)
    (hne : categories ≠ []) (steps offset : Nat) (henough : text.size ≤ offset + steps) :
    rule.tokensFrom (Pattern.choice alternatives) text steps offset
      = .ok (Category.scanFrom categories text offset) := by
  have hverdict := Pattern.verdict_choice halternatives hne text
  have hnone : ∀ offset, (Pattern.choice alternatives).matchAt text offset = none →
      Category.deciding? categories text offset = none := by
    intro offset hm
    have hv := hverdict offset
    rw [hm] at hv
    exact Option.map_eq_none_iff.mp hv.symm
  induction steps generalizing offset with
  | zero => rw [tokensFrom, Category.scanFrom_of_size_le (by omega)]
  | succ steps ih =>
    unfold tokensFrom
    split
    · rename_i hend
      rw [Category.scanFrom_of_size_le hend]
    · rename_i hinside
      cases hsearch : (Pattern.choice alternatives).search text offset with
      | none =>
        -- no offset that is left has a match, so the scan finds nothing either
        have hskip : Category.scanFrom categories text offset
            = Category.scanFrom categories text text.size :=
          Category.scanFrom_skip (by omega) fun before hfrom hto =>
            hnone before (Pattern.searchWithin_eq_none hsearch hfrom (by omega))
        rw [hskip, Category.scanFrom_of_size_le (Nat.le_refl text.size)]
      | some m =>
        obtain ⟨hfrom, hto, hat, hbefore⟩ := Pattern.searchWithin_eq_some hsearch
        have hv := hverdict m.start
        rw [hat, Option.map_some] at hv
        obtain ⟨⟨c, stop⟩, hdeciding, hpair⟩ := Option.map_eq_some_iff.mp hv.symm
        obtain ⟨hname, rfl⟩ := Prod.mk.inj hpair
        have hleads := Category.leads_of_deciding? hdeciding
        -- the scan passes over everything that the search has passed over
        have hskip : Category.scanFrom categories text offset
            = Category.scanFrom categories text m.start :=
          Category.scanFrom_skip hfrom fun before hge hlt => hnone before (hbefore before hge hlt)
        rw [hskip]
        dsimp only
        split
        · rename_i hnonempty
          have hinside : m.start < text.size := by
            have := hleads.inText (by omega)
            omega
          rw [h.tagOf (Category.mem_of_deciding? hdeciding) hname.symm, ih m.stop (by omega),
            Category.scanFrom_of_lt hinside hdeciding hnonempty]
          rfl
        · rename_i hempty
          rw [ih (m.start + 1) (by omega), Category.scanFrom_of_not_lt hdeciding hempty]

/-- **The tokens of a language are those of the scan** by its categories. -/
theorem tokenize_eq (h : rule.DividesBy categories) (text : Text) :
    rule.tokenize text = .ok (Category.scan categories text) := by
  obtain ⟨alternatives, halternatives, htokens⟩ := h.tokens
  unfold tokenize Category.scan
  rw [htokens]
  cases categories with
  | nil =>
    -- without a category there is no pattern, and nothing ever decides
    have hskip : Category.scanFrom [] text 0 = Category.scanFrom [] text text.size :=
      Category.scanFrom_skip (Nat.zero_le _) fun _ _ _ => rfl
    rw [hskip, Category.scanFrom_of_size_le (Nat.le_refl _)]
    rfl
  | cons c rest =>
    exact h.tokensFrom_eq_scanFrom halternatives (List.cons_ne_nil c rest) _ _ (by omega)

end Rule.DividesBy

end SourceLens
