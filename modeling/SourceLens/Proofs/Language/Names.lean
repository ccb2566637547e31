import Mathlib
import SourceLens.Function.Extraction
import SourceLens.Highlight.Basic
import SourceLens.Proofs.Language.Registry
import SourceLens.Proofs.Lookup

/-!
# What the languages of a registry are called

A registry enters the names of its languages one by one into a table, where a
key replaces what stands there and any other name only fills a free place. What
comes out does not depend on that order: `Registry.called?` says of a list of
languages which of them a name stands for, without any table. A language whose
key the name is goes before all others; else it is the first one that goes by
the name.

`Registry.lookup_foldl_enter` tells what the table holds after any number of
languages, whatever it held before. From it, `Registry.ofRules_called` says
when languages make a registry, and that everything a registry decides by a
name, it decides by `Registry.called?`.
-/

namespace SourceLens

/-! ## Names -/

/-- The lower case of a text has a character for every one of the text. -/
theorem lower_eq_empty_iff {s : String} : lower s = "" ↔ s = "" := by
  rw [lower, String.ofList_eq_empty_iff, ← String.toList_inj, String.toList_empty, lowerChars]
  cases s.toList with
  | nil => exact ⟨fun _ => rfl, fun _ => rfl⟩
  | cons c rest =>
    refine ⟨fun h => ?_, fun h => absurd h (List.cons_ne_nil c rest)⟩
    rw [lowerAfter] at h
    -- one character is written for `c`, or two of them
    have hsmall := (List.append_eq_nil_iff.mp h).1
    split at hsmall
    · cases hsmall
    · split at hsmall <;> cases hsmall

/-- **What a name is looked up as**: in lower case, without the blanks around
it. -/
def plainName (name : String) : String :=
  lower (String.ofList (stripBlanks name.toList))

/-- Blanks around a list of characters are stripped with its own. -/
theorem stripBlanks_pad {before after : List Char} (hbefore : ∀ c ∈ before, CharClass.isBlank c)
    (hafter : ∀ c ∈ after, CharClass.isBlank c) (cs : List Char) :
    stripBlanks (before ++ cs ++ after) = stripBlanks cs := by
  have hfront : (before ++ cs ++ after).dropWhile CharClass.isBlank
      = (cs ++ after).dropWhile CharClass.isBlank := by
    rw [List.append_assoc, List.dropWhile_append_of_pos hbefore]
  have hback : ∀ front : List Char,
      (front ++ after).reverse.dropWhile CharClass.isBlank
        = front.reverse.dropWhile CharClass.isBlank := by
    intro front
    rw [List.reverse_append, List.dropWhile_append_of_pos fun c hc =>
      hafter c (List.mem_reverse.mp hc)]
  unfold stripBlanks
  rw [hfront, List.dropWhile_append]
  split
  · rename_i hblank
    -- nothing but blanks is left, and they are all stripped
    rw [List.isEmpty_iff.mp hblank, List.dropWhile_eq_nil_iff.mpr hafter]
  · rw [hback]

/-- Blanks around a name do not count. -/
theorem plainName_pad {before after : List Char} (hbefore : ∀ c ∈ before, CharClass.isBlank c)
    (hafter : ∀ c ∈ after, CharClass.isBlank c) (name : String) :
    plainName (String.ofList (before ++ name.toList ++ after)) = plainName name := by
  rw [plainName, plainName, String.toList_ofList, stripBlanks_pad hbefore hafter]

/-- A language goes by a name: it is another name of it, in any case. -/
def Rule.goesBy (rule : Rule) (plain : String) : Bool :=
  rule.aliases.any (lower · == plain)

namespace Registry

variable {rules : List Rule} {plain : String}

/-- The language of a name in lower case: the one whose key it is, or else the
first one that goes by it. -/
def ofName? (rules : List Rule) (plain : String) : Option Rule :=
  (rules.find? fun rule => lower rule.key == plain).or (rules.find? (·.goesBy plain))

/-- **The language that a name stands for** among some languages. Case and the
blanks around a name do not count. The empty name stands for no language, and
no name stands for a language with the empty key. -/
def called? (rules : List Rule) : Option String → Option Rule
  | none => none
  | some name =>
    if name = "" then none else (ofName? rules (plainName name)).filter (·.key ≠ "")

/-! ## The table of names -/

/-- A name that is entered where it is free takes nobody's place. -/
theorem lookup_assignNew (names : List (String × String)) (name key : String) :
    (assignNew names name key).lookup plain
      = (names.lookup plain).or (if name == plain then some key else none) := by
  unfold assignNew
  by_cases hname : plain = name
  · rw [hname, beq_self_eq_true, if_pos rfl]
    cases hlookup : names.lookup name with
    | some old => rw [Option.isSome_some, if_pos rfl, hlookup, Option.some_or]
    | none =>
      rw [Option.isSome_none, if_neg Bool.false_ne_true, List.lookup_cons_self, Option.none_or]
  · rw [beq_false_of_ne (Ne.symm hname), if_neg Bool.false_ne_true, Option.or_none]
    split
    · rfl
    · exact lookup_cons_of_ne hname

/-- The other names of a language that are free are its own from now on. -/
theorem lookup_foldl_assignNew (aliases : List String) (names : List (String × String))
    (key : String) :
    (aliases.foldl (fun names other => assignNew names (lower other) key) names).lookup plain
      = (names.lookup plain).or (if aliases.any (lower · == plain) then some key else none) := by
  induction aliases generalizing names with
  | nil => rw [List.foldl_nil, List.any_nil, if_neg Bool.false_ne_true, Option.or_none]
  | cons other aliases ih =>
    rw [List.foldl_cons, ih, lookup_assignNew, List.any_cons, Option.or_assoc]
    refine congrArg (names.lookup plain).or ?_
    cases lower other == plain with
    | true => rfl
    | false => rfl

/-- **A language enters the table**: its key in any case, its other names where
they are free. -/
theorem lookup_enter (names : List (String × String)) (rule : Rule) :
    (enter names rule).lookup plain
      = if lower rule.key == plain then some plain
        else (names.lookup plain).or
          (if rule.goesBy plain then some (lower rule.key) else none) := by
  rw [enter, lookup_foldl_assignNew, assign]
  by_cases hkey : plain = lower rule.key
  · rw [hkey, beq_self_eq_true, if_pos rfl, List.lookup_cons_self, Option.some_or]
  · rw [lookup_cons_of_ne hkey, beq_false_of_ne (Ne.symm hkey), if_neg Bool.false_ne_true]
    rfl

/-- **What the table holds** when some languages have entered it. A key stands
for itself; any other name for what it stood for before, or else for the key of
the first language that goes by it. -/
theorem lookup_foldl_enter (rules : List Rule) (names : List (String × String)) :
    (rules.foldl enter names).lookup plain
      = if rules.any (lower ·.key == plain) then some plain
        else (names.lookup plain).or
          ((rules.find? (·.goesBy plain)).map fun rule => lower rule.key) := by
  induction rules generalizing names with
  | nil => rw [List.foldl_nil, List.any_nil, if_neg Bool.false_ne_true, List.find?_nil,
      Option.map_none, Option.or_none]
  | cons rule rules ih =>
    rw [List.foldl_cons, ih, lookup_enter, List.any_cons, List.find?_cons]
    cases rules.any (lower ·.key == plain) with
    | true => rw [Bool.or_true, if_pos rfl, if_pos rfl]
    | false =>
      rw [Bool.or_false, if_neg Bool.false_ne_true]
      cases lower rule.key == plain with
      | true => rw [if_pos rfl, if_pos rfl, Option.some_or]
      | false =>
        rw [if_neg Bool.false_ne_true, if_neg Bool.false_ne_true, Option.or_assoc]
        cases rule.goesBy plain <;> rfl

/-- A table of some languages stands for them. -/
theorem lookup_foldl_enter_nil (rules : List Rule) :
    (rules.foldl enter []).lookup plain
      = (ofName? rules plain).map fun rule => lower rule.key := by
  rw [lookup_foldl_enter, List.lookup_nil, Option.none_or, ofName?]
  cases hfound : rules.find? fun rule => lower rule.key == plain with
  | some rule =>
    have hkey : lower rule.key = plain := by simpa using List.find?_some hfound
    have hany : rules.any (lower ·.key == plain) = true :=
      List.any_eq_true.mpr ⟨rule, List.mem_of_find?_eq_some hfound, beq_iff_eq.mpr hkey⟩
    rw [hany, if_pos rfl, Option.some_or, Option.map_some, hkey]
  | none =>
    have hany : rules.any (lower ·.key == plain) = false :=
      List.any_eq_false.mpr (List.find?_eq_none.mp hfound)
    rw [hany, if_neg Bool.false_ne_true, Option.none_or]

/-! ## Registries -/

/-- No key is among those seen or repeats another where none is found to. -/
theorem firstRepeated?_eq_none_iff {seen : List String} :
    firstRepeated? seen rules = none ↔
      (∀ rule ∈ rules, lower rule.key ∉ seen) ∧ (rules.map fun rule => lower rule.key).Nodup := by
  induction rules generalizing seen with
  | nil => exact ⟨fun _ => ⟨fun _ h => absurd h List.not_mem_nil, List.nodup_nil⟩, fun _ => rfl⟩
  | cons rule rules ih =>
    rw [firstRepeated?, List.map_cons, List.nodup_cons, List.forall_mem_cons]
    split
    · rename_i hseen
      refine ⟨fun h => (nomatch h), fun h => ?_⟩
      exact absurd (List.contains_iff_mem.mp hseen) h.1.1
    · rename_i hseen
      rw [List.contains_iff_mem] at hseen
      rw [ih]
      -- a later key is not this one, and not among those seen before it
      constructor
      · rintro ⟨hnew, hnodup⟩
        refine ⟨⟨hseen, fun r hr hmem => hnew r hr (List.mem_cons_of_mem _ hmem)⟩, ?_, hnodup⟩
        intro hmem
        obtain ⟨r, hr, heq⟩ := List.mem_map.mp hmem
        exact hnew r hr (heq ▸ List.mem_cons_self)
      · rintro ⟨⟨-, hnew⟩, hnotin, hnodup⟩
        refine ⟨fun r hr hmem => ?_, hnodup⟩
        obtain heq | hmem := List.mem_cons.mp hmem
        · exact hnotin (heq ▸ List.mem_map_of_mem hr)
        · exact hnew r hr hmem

/-- **Languages make a registry** when there are some and no two keys are alike;
it is the one of their table. -/
theorem ofRules_eq_ok_iff {registry : Registry} :
    ofRules rules = .ok registry ↔
      (rules.map fun rule => lower rule.key).Nodup ∧
        ∃ nonempty : rules ≠ [], registry = ofNonempty rules nonempty := by
  unfold ofRules
  cases hrepeated : firstRepeated? [] rules with
  | some key =>
    refine ⟨fun h => (nomatch h), fun h => ?_⟩
    have hnone := firstRepeated?_eq_none_iff.mpr ⟨fun _ _ => List.not_mem_nil, h.1⟩
    rw [hrepeated] at hnone
    cases hnone
  | none =>
    have hnodup := (firstRepeated?_eq_none_iff.mp hrepeated).2
    dsimp only
    by_cases hempty : rules = []
    · rw [dif_pos hempty]
      exact ⟨fun h => (nomatch h), fun ⟨_, hne, _⟩ => absurd hempty hne⟩
    · rw [dif_neg hempty]
      refine ⟨fun h => ?_, fun ⟨_, _, h⟩ => h ▸ rfl⟩
      cases h
      exact ⟨hnodup, hempty, rfl⟩

/-- Where no two keys are alike, a key finds the language that has it. -/
theorem find?_key_eq_some_iff (hnodup : (rules.map fun rule => lower rule.key).Nodup)
    {key : String} {rule : Rule} :
    (rules.find? fun r => lower r.key == key) = some rule ↔
      rule ∈ rules ∧ lower rule.key = key := by
  constructor
  · intro h
    exact ⟨List.mem_of_find?_eq_some h, by simpa using List.find?_some h⟩
  · rintro ⟨hrule, hkey⟩
    cases hfound : rules.find? fun r => lower r.key == key with
    | none => exact absurd (beq_iff_eq.mpr hkey) (List.find?_eq_none.mp hfound rule hrule)
    | some found =>
      have hfoundKey : lower found.key = key := by simpa using List.find?_some hfound
      rw [List.inj_on_of_nodup_map hnodup (List.mem_of_find?_eq_some hfound) hrule
        (hfoundKey.trans hkey.symm)]

theorem mem_of_ofName? {rule : Rule} (h : ofName? rules plain = some rule) : rule ∈ rules := by
  obtain h | ⟨-, h⟩ := Option.or_eq_some_iff.mp h
  · exact List.mem_of_find?_eq_some h
  · exact List.mem_of_find?_eq_some h

/-- **A registry finds the language that a name stands for** among its own. -/
theorem get?_ofNonempty (hnodup : (rules.map fun rule => lower rule.key).Nodup)
    (nonempty : rules ≠ []) (name : Option String) :
    (ofNonempty rules nonempty).get? name = called? rules name := by
  cases name with
  | none => rfl
  | some name =>
    by_cases hname : name = ""
    · rw [called?, if_pos hname, hname]
      rfl
    · have hisEmpty : name.isEmpty = false :=
        Bool.eq_false_iff.mpr fun h => hname (String.isEmpty_iff.mp h)
      rw [called?, if_neg hname, get?, hisEmpty, if_neg Bool.false_ne_true]
      -- the table gives the key of a language, and the key gives the language
      show (match (rules.foldl enter []).lookup (plainName name) with
        | none => none
        | some key => if key.isEmpty then none
          else rules.find? fun rule : Rule => lower rule.key == key) = _
      rw [lookup_foldl_enter_nil]
      cases hfound : ofName? rules (plainName name) with
      | none => rfl
      | some rule =>
        have hkey := (find?_key_eq_some_iff hnodup).mpr ⟨mem_of_ofName? hfound, rfl⟩
        rw [Option.map_some, Option.filter_some]
        dsimp only
        rw [hkey]
        by_cases hempty : rule.key = ""
        · rw [if_pos (String.isEmpty_iff.mpr (lower_eq_empty_iff.mpr hempty)), hempty]
          rfl
        · rw [if_neg fun h => hempty (lower_eq_empty_iff.mp (String.isEmpty_iff.mp h)),
            if_pos (decide_eq_true hempty)]

/-! ## What a name stands for -/

/-- **A key goes before every other name**, wherever its language stands. -/
theorem called?_of_key (hnodup : (rules.map fun rule => lower rule.key).Nodup) {rule : Rule}
    (hrule : rule ∈ rules) (hkey : rule.key ≠ "") {name : String} (hname : name ≠ "")
    (hplain : plainName name = lower rule.key) : called? rules (some name) = some rule := by
  have hfound := (find?_key_eq_some_iff hnodup).mpr ⟨hrule, rfl⟩
  rw [called?, if_neg hname, hplain, ofName?, hfound, Option.some_or, Option.filter_some,
    if_pos (decide_eq_true hkey)]

/-- **The first of several languages that go by a name has it**, if it is the
key of none. -/
theorem called?_of_goesBy {before after : List Rule} {rule : Rule}
    (hrules : rules = before ++ rule :: after) (hkey : rule.key ≠ "") {name : String}
    (hname : name ≠ "") (hkeys : ∀ r ∈ rules, lower r.key ≠ plainName name)
    (hbefore : ∀ r ∈ before, r.goesBy (plainName name) = false)
    (hgoesBy : rule.goesBy (plainName name) = true) : called? rules (some name) = some rule := by
  have hnone : (rules.find? fun r => lower r.key == plainName name) = none :=
    List.find?_eq_none.mpr fun r hr h => hkeys r hr (beq_iff_eq.mp h)
  have hother : before.find? (·.goesBy (plainName name)) = none :=
    List.find?_eq_none.mpr fun r hr => Bool.eq_false_iff.mp (hbefore r hr)
  have hfirst : rules.find? (·.goesBy (plainName name)) = some rule := by
    rw [hrules, List.find?_append, hother, Option.none_or, List.find?_cons, hgoesBy]
  rw [called?, if_neg hname, ofName?, hnone, Option.none_or, hfirst, Option.filter_some,
    if_pos (decide_eq_true hkey)]

/-- **A registry decides by what its languages are called.** Languages make a
registry unless there is none or two keys are alike up to case. Then the
language of every name is the one that it stands for among these languages, and
so is the language that stands in for an unknown name, the membership of a
name, the language that a text is highlighted in and the one that its functions
are found in. In particular a key goes before every other name, the first of
several languages that go by a name has it, and neither case nor blanks around
a name count. -/
theorem ofRules_called (rules : List Rule) :
    ((∃ cause, ofRules rules = .error cause) ↔
      rules = [] ∨ ¬ (rules.map fun rule => lower rule.key).Nodup) ∧
    ∀ registry, ofRules rules = .ok registry →
      (∀ name, registry.get? name = called? rules name) ∧
      (∀ name, some (registry.resolve name) = (called? rules name).or rules.head?) ∧
      (∀ name, registry.contains name = (called? rules name).isSome) ∧
      (∀ name, some (registry.ruleFor name).1 = (called? rules name).or rules.head?) ∧
      (∀ text name file, (registry.extract text name file).1
        = ((called? rules name).map fun rule => rule.functionsIn text file).getD (.ok [])) ∧
      (∀ rule ∈ rules, rule.key ≠ "" → ∀ name, name ≠ "" → plainName name = lower rule.key →
        registry.get? (some name) = some rule) ∧
      (∀ before rule after name, rules = before ++ rule :: after → rule.key ≠ "" → name ≠ "" →
        (∀ r ∈ rules, lower r.key ≠ plainName name) →
        (∀ r ∈ before, r.goesBy (plainName name) = false) → rule.goesBy (plainName name) = true →
        registry.get? (some name) = some rule) ∧
      (∀ name other, name ≠ "" → other ≠ "" → plainName name = plainName other →
        registry.get? (some name) = registry.get? (some other)) ∧
      ∀ before after name, name ≠ "" → (∀ c ∈ before ++ after, CharClass.isBlank c = true) →
        registry.get? (some (String.ofList (before ++ name.toList ++ after)))
          = registry.get? (some name) := by
  refine ⟨?_, fun registry hregistry => ?_⟩
  · constructor
    · rintro ⟨cause, hcause⟩
      by_contra hnot
      obtain ⟨hne, hnodup⟩ := not_or.mp hnot
      have hok := ofRules_eq_ok_iff.mpr ⟨not_not.mp hnodup, hne, rfl⟩
      rw [hcause] at hok
      cases hok
    · intro hrefused
      cases hregistry : ofRules rules with
      | error cause => exact ⟨cause, rfl⟩
      | ok registry =>
        obtain ⟨hnodup, hne, -⟩ := ofRules_eq_ok_iff.mp hregistry
        exact absurd hrefused (not_or.mpr ⟨hne, not_not.mpr hnodup⟩)
  · obtain ⟨hnodup, hne, rfl⟩ := ofRules_eq_ok_iff.mp hregistry
    have hget := get?_ofNonempty hnodup hne
    have hdefault : rules.head? = some (ofNonempty rules hne).default :=
      List.head?_eq_some_head hne
    have hplain : ∀ name other, name ≠ "" → other ≠ "" → plainName name = plainName other →
        (ofNonempty rules hne).get? (some name) = (ofNonempty rules hne).get? (some other) := by
      intro name other hname hother hplain
      rw [hget, hget, called?, called?, if_neg hname, if_neg hother, hplain]
    refine ⟨hget, fun name => ?_, fun name => ?_, fun name => ?_, fun text name file => ?_, ?_, ?_,
      hplain, ?_⟩
    · rw [resolve, hget, hdefault, Option.or_some]
    · rw [contains, hget]
    · rw [ruleFor, hget, hdefault]
      cases called? rules name <;> rfl
    · rw [extract, hget]
      cases called? rules name <;> rfl
    · intro rule hrule hkey name hname hplain
      rw [hget, called?_of_key hnodup hrule hkey hname hplain]
    · intro before rule after name hrules hkey hname hkeys hbefore hgoesBy
      rw [hget, called?_of_goesBy hrules hkey hname hkeys hbefore hgoesBy]
    · intro before after name hname hblank
      refine hplain _ name (fun h => ?_) hname (plainName_pad
        (fun c hc => hblank c (List.mem_append_left _ hc))
        (fun c hc => hblank c (List.mem_append_right _ hc)) name)
      have hnil := (List.append_eq_nil_iff.mp (String.ofList_eq_empty_iff.mp h)).1
      exact hname (String.toList_inj.mp (List.append_eq_nil_iff.mp hnil).2)

/-- Two languages, the first of which goes by the key of the second. -/
def clashing : List Rule := [
  .ofCategories "One" ["two", "X"] ".1" [] none, .ofCategories "TWO" ["one", "x"] ".2" [] none]

/-- The key goes before the other name, and the name of both is the first
one's. -/
theorem clashing_called :
    ∃ registry, ofRules clashing = .ok registry ∧
      (registry.get? (some " Two\t")).map (·.extension) = some ".2" ∧
      (registry.get? (some "x")).map (·.extension) = some ".1" := by
  have hnonempty : clashing ≠ [] := List.cons_ne_nil _ _
  refine ⟨ofNonempty clashing hnonempty, rfl, ?_, ?_⟩
  · rw [((ofRules_called clashing).2 _ rfl).1]
    cbv
  · rw [((ofRules_called clashing).2 _ rfl).1]
    cbv

end Registry

end SourceLens
