import Mathlib
import SourceLens.Proofs.Language.PythonLiterals

/-!
# The words of a language

Keywords, types and built-in names are shown by lists of words. Their tokens are
exact on words: each of them covers a maximal run of word characters whose text
is in the list, and every such run that no token has covered before is one of
them (`Registry.builtin_words`). So neither `do` in `double` nor `in` in `int` is
a keyword, and letters outside ASCII count.

That a word in the list is shown at all is not a matter of the list alone. The
categories before it could match where the word starts, and have to yield to it
(`Pattern.YieldsTo`). Mostly they do because they start with another character.
Two lists yield to each other if they have no word in common. And the kind of a
literal in Python, which is a word until its quote is seen, consists of letters
that no word in the lists is made of.
-/

namespace SourceLens

/-! ## Yielding to words -/

namespace Pattern

variable {text : Text} {p : Pattern} {words : List String}

/-- **A pattern yields to words**: it does not match where a maximal run starts
whose text is one of them. -/
def YieldsTo (p : Pattern) (words : List String) : Prop :=
  ∀ (text : Text) (cur : Cursor) (stop : Nat), CharSet.word.IsRun text cur.offset stop →
    (text.slice cur.offset stop).toString ∈ words → p.ways text cur = []

/-- A pattern yields to words if it shuns the characters they start with. -/
theorem yieldsTo_of_shuns (h : ∀ w ∈ words, w.toList.head?.any p.shuns = true) :
    p.YieldsTo words := by
  intro text cur stop hrun hword
  obtain ⟨first, hfirst, hshuns⟩ := (Option.any_eq_true _ _).mp (h _ hword)
  obtain ⟨rest, hw⟩ := List.head?_eq_some_iff.mp hfirst
  exact ways_eq_nil_of_shuns hshuns (hrun.standsAt.first hw)

/-- A list of words yields to those that it does not hold. -/
theorem yieldsTo_wordOf {others : List String} (h : IsWordList others)
    (hdisjoint : ∀ w ∈ others, w ∉ words) : (wordOf others).YieldsTo words := by
  intro text cur stop hrun hword
  rw [List.eq_nil_iff_forall_not_mem]
  intro next hnext
  obtain ⟨stop', -, hrun', hword'⟩ := (mem_ways_wordOf h).mp hnext
  rw [hrun'.stop_unique hrun] at hword'
  exact hdisjoint _ hword' hword

end Pattern

namespace Builtin.Python

open Pattern

variable {text : Text} {words : List String}

/-- What a literal consists of behind its kind starts with a quote. -/
theorem mem_quotes_of_mayRead {c : Char} (h : fenced.mayRead c = true) : c ∈ quotes := by
  simp only [fenced, choice, longString, concat, literal, String.reduceToList, List.map_cons, only,
    List.map_nil, quotedString, mayRead, mayStay, Bool.false_and, Bool.or_false, Bool.and_self,
    Bool.or_eq_true, CharSet.contains_single] at h
  obtain rfl | rfl | rfl | rfl := h
  all_goals decide

/-- **Literals yield to words that are not all letters of a kind.** A literal that
starts where a run of word characters does has its quote behind the run, and only
letters of the kind before it. -/
theorem yieldsTo_string (h : ∀ w ∈ words, w.toList.all kindLetters.contains = false) :
    string.YieldsTo words := by
  intro text cur stop hrun hword
  rw [List.eq_nil_iff_forall_not_mem]
  intro next hnext
  obtain ⟨first, hfirst, hnext⟩ := List.mem_flatMap.mp hnext
  have hstays : first.offset = cur.offset := offset_of_mem_lookWays hfirst
  obtain ⟨mid, hmid, hnext⟩ := List.mem_flatMap.mp hnext
  -- the kind goes from the start of the run up to the quote
  obtain ⟨quote, rfl, hle, -, hkind⟩ := exists_of_mem_charsWays hmid
  rw [hstays] at hle hkind
  have hin : quote ≤ text.size :=
    hkind.le_size hle (Nat.le_trans (Nat.le_of_lt hrun.nonempty) hrun.le_size)
  obtain ⟨delimiter, hat, hread⟩ := exists_mayRead_of_mem_ways (p := fenced) (by decide) hin hnext
  have hbehind : stop ≤ quote := by
    by_contra hlt
    obtain ⟨d, hd, hset⟩ := hrun.fills quote hle (Nat.not_le.mp hlt)
    obtain rfl : delimiter = d := Option.some.inj (hat.symm.trans hd)
    obtain rfl | rfl := List.mem_pair.mp (mem_quotes_of_mayRead hread)
    all_goals exact absurd hset (by decide)
  obtain ⟨c, hc, hletter⟩ := List.all_eq_false.mp (h _ hword)
  obtain ⟨place, hfrom, hto, hplace⟩ := Text.exists_of_mem_slice hc
  obtain ⟨d, hd, hset⟩ := hkind place hfrom (Nat.lt_of_lt_of_le hto hbehind)
  obtain rfl : c = d := Option.some.inj (hplace.symm.trans hd)
  exact hletter hset

end Builtin.Python

/-! ## Lists of words among the categories -/

namespace Category

variable {categories : List Category} {listed : Category} {words : List String} {text : Text}
  {offset stop : Nat}

/-- **The categories list some words**: one of them consists of the words, and
those before it yield to them. -/
structure ListsWords (categories : List Category) (listed : Category) (words : List String) :
    Prop where
  pattern : listed.pattern = .wordOf words
  proper : Pattern.IsWordList words
  first : ∃ before after, categories = before ++ listed :: after ∧
    ∀ c ∈ before, c.pattern.YieldsTo words

theorem ListsWords.mem (h : ListsWords categories listed words) : listed ∈ categories := by
  obtain ⟨before, after, rfl, -⟩ := h.first
  exact List.mem_append_right _ List.mem_cons_self

/-- The match of a list of words is the run that starts there, if its text is in
the list. -/
theorem ListsWords.stopAt?_eq_some_iff (h : ListsWords categories listed words) :
    listed.stopAt? text offset = some stop ↔
      CharSet.word.IsRun text offset stop ∧ (text.slice offset stop).toString ∈ words := by
  rw [stopAt?_eq_head?, h.pattern, Option.map_eq_some_iff]
  constructor
  · rintro ⟨next, hnext, rfl⟩
    obtain ⟨stop, rfl, hrun⟩ := (Pattern.mem_ways_wordOf h.proper).mp (List.mem_of_head? hnext)
    exact hrun
  · rintro ⟨hrun, hword⟩
    have hway : Cursor.start stop ∈ (Pattern.wordOf words).ways text (.start offset) :=
      (Pattern.mem_ways_wordOf h.proper).mpr ⟨stop, rfl, hrun, hword⟩
    obtain ⟨first, hfirst⟩ := Option.isSome_iff_exists.mp
      (List.isSome_head?.mpr (List.ne_nil_of_mem hway))
    -- all ways end where the run does
    obtain ⟨stop', rfl, hrun', -⟩ :=
      (Pattern.mem_ways_wordOf h.proper).mp (List.mem_of_head? hfirst)
    exact ⟨_, hfirst, hrun'.stop_unique hrun⟩

/-- **Where a word of the list starts, the list decides.** -/
theorem ListsWords.deciding?_of_isRun (h : ListsWords categories listed words)
    (hrun : CharSet.word.IsRun text offset stop)
    (hword : (text.slice offset stop).toString ∈ words) :
    deciding? categories text offset = some (listed, stop) := by
  obtain ⟨before, after, rfl, hyields⟩ := h.first
  have hnone : deciding? before text offset = none := by
    rw [deciding?, List.findSome?_eq_none_iff]
    intro c hc
    rw [stopAt?_eq_head?, hyields c hc text (.start offset) stop hrun hword]
    rfl
  rw [deciding?] at hnone ⊢
  rw [List.findSome?_append, hnone, List.findSome?_cons, h.stopAt?_eq_some_iff.mpr ⟨hrun, hword⟩]
  rfl

end Category

/-- **A language is exact on the words of its lists**: the tokens of a list cover
maximal runs of word characters whose text is in it, and every such run has a
token of the list to itself, unless a token before it goes over its start. -/
theorem Rule.MadeOf.words {rule : Rule} {categories : List Category}
    (hmade : rule.MadeOf categories) {listed : Category} {words : List String}
    (h : Category.ListsWords categories listed words) (text : Text) :
    ∃ tokens, rule.tokenize text = .ok tokens ∧
      (∀ token ∈ tokens, rule.categoryAt? text token.span.start = some listed.name →
        CharSet.word.IsRun text token.span.start token.span.stop ∧
          token.lexeme.toString ∈ words) ∧
      (∀ start stop, CharSet.word.IsRun text start stop →
        (text.slice start stop).toString ∈ words → IsFreeAt tokens start →
        rule.categoryAt? text start = some listed.name ∧
          HasSoleToken tokens start stop listed.tag) := by
  have htokens := hmade.dividesBy.tokenize_eq text
  refine ⟨_, htokens, fun token htoken hname => ?_, fun start stop hrun hword hfree => ?_⟩
  · obtain ⟨c, hc, hname, hdeciding⟩ :=
      hmade.dividesBy.exists_deciding?_of_categoryAt? htoken hname
    -- the names of the categories are different
    obtain rfl : c = listed :=
      List.inj_on_of_nodup_map hmade.dividesBy.distinct hc h.mem hname
    obtain ⟨hrun, hword⟩ := h.stopAt?_eq_some_iff.mp (Category.stopAt?_of_deciding? hdeciding)
    rw [(placedIn_of_tokenize htokens token htoken).lexeme]
    exact ⟨hrun, hword⟩
  · have hdeciding := h.deciding?_of_isRun hrun hword
    refine ⟨?_, Category.hasSoleToken_of_deciding? htokens hdeciding hrun.nonempty
      (Nat.lt_of_lt_of_le hrun.nonempty hrun.le_size) hfree⟩
    rw [hmade.dividesBy.categoryAt?_eq, hdeciding]
    rfl

/-! ## The built-in languages -/

/-- The lists of words of a built-in language, by its key, each with the name of
its category. -/
def Builtin.wordLists (key : String) : List (String × List String) :=
  match key with
  | "java" => [("keyword", Java.keywords), ("type", Java.types)]
  | "python" => [("keyword", Python.keywords), ("builtin", Python.builtins)]
  | "javascript" => [("keyword", JavaScript.keywords)]
  | "cpp" => [("keyword", Cpp.keywords)]
  | "csharp" => [("keyword", CSharp.keywords)]
  | _ => []

/-- The categories list some words, if those before them shun the characters
that the words start with. -/
theorem Category.listsWords_of_shuns (before after : List Category) {name tag : String}
    {words : List String} (hproper : Pattern.IsWordList words)
    (hshuns : ∀ c ∈ before, ∀ w ∈ words, w.toList.head?.any c.pattern.shuns = true) :
    ListsWords (before ++ ⟨name, tag, .wordOf words⟩ :: after) ⟨name, tag, .wordOf words⟩ words :=
  ⟨rfl, hproper, before, after, rfl, fun c hc => Pattern.yieldsTo_of_shuns (hshuns c hc)⟩

/-- The keywords of Python are listed. -/
theorem Builtin.Python.listsWords_keywords :
    Category.ListsWords categories ⟨"keyword", "keyword", .wordOf keywords⟩ keywords := by
  refine ⟨rfl, by decide, categories.take 3, categories.drop 4, rfl, ?_⟩
  simp only [categories, List.take_succ_cons, List.take_zero, List.forall_mem_cons]
  exact ⟨Pattern.yieldsTo_of_shuns (by decide), yieldsTo_string (by decide),
    Pattern.yieldsTo_of_shuns (by decide), List.forall_mem_nil _⟩

/-- The built-in names of Python are listed. No keyword is among them. -/
theorem Builtin.Python.listsWords_builtins :
    Category.ListsWords categories ⟨"builtin", "builtin", .wordOf builtins⟩ builtins := by
  refine ⟨rfl, by decide, categories.take 4, categories.drop 5, rfl, ?_⟩
  simp only [categories, List.take_succ_cons, List.take_zero, List.forall_mem_cons]
  exact ⟨Pattern.yieldsTo_of_shuns (by decide), yieldsTo_string (by decide),
    Pattern.yieldsTo_of_shuns (by decide), Pattern.yieldsTo_wordOf (by decide) (by decide),
    List.forall_mem_nil _⟩

/-- The categories of the built-in languages list the words. -/
theorem Registry.exists_listsWords {rule : Rule} (hrule : rule ∈ builtin.rules) {name : String}
    {words : List String} (hlist : (name, words) ∈ Builtin.wordLists rule.key) :
    ∃ categories listed, rule.MadeOf categories ∧ listed.name = name ∧
      Category.ListsWords categories listed words := by
  obtain rfl | rfl | rfl | rfl | rfl | rfl | rfl | rfl := mem_rules_builtin.mp hrule
  case inl =>
    obtain h | h := List.mem_pair.mp hlist
    · cases h
      exact ⟨_, _, .given _ _ _ _ (by decide), rfl,
        Category.listsWords_of_shuns (Builtin.Java.categories.take 3)
          (Builtin.Java.categories.drop 4) (by decide) (by decide)⟩
    · cases h
      exact ⟨_, _, .given _ _ _ _ (by decide), rfl,
        Category.listsWords_of_shuns (Builtin.Java.categories.take 4)
          (Builtin.Java.categories.drop 5) (by decide) (by decide)⟩
  case inr.inl =>
    obtain h | h := List.mem_pair.mp hlist
    · cases h
      exact ⟨_, _, .given _ _ _ _ (by decide), rfl, Builtin.Python.listsWords_keywords⟩
    · cases h
      exact ⟨_, _, .given _ _ _ _ (by decide), rfl, Builtin.Python.listsWords_builtins⟩
  case inr.inr.inl =>
    cases List.mem_singleton.mp hlist
    exact ⟨_, _, .given _ _ _ _ (by decide), rfl,
      Category.listsWords_of_shuns (Builtin.JavaScript.categories.take 2)
        (Builtin.JavaScript.categories.drop 3) (by decide) (by decide)⟩
  case inr.inr.inr.inl =>
    cases List.mem_singleton.mp hlist
    exact ⟨_, _, .given _ _ _ _ (by decide), rfl,
      Category.listsWords_of_shuns (Builtin.Cpp.categories.take 3)
        (Builtin.Cpp.categories.drop 4) (by decide) (by decide)⟩
  case inr.inr.inr.inr.inl =>
    cases List.mem_singleton.mp hlist
    exact ⟨_, _, .given _ _ _ _ (by decide), rfl,
      Category.listsWords_of_shuns (Builtin.CSharp.categories.take 2)
        (Builtin.CSharp.categories.drop 3) (by decide) (by decide)⟩
  all_goals cases hlist

/-- **Keywords are exact on words.** In the built-in languages that list words,
every token of a list covers a maximal run of word characters whose text is in
the list. Conversely every such run whose text is in the list, and whose start no
token has covered, has a token to itself: it is of the list's category and has the
tag of the list. -/
theorem Registry.builtin_words {rule : Rule} (hrule : rule ∈ builtin.rules) {name : String}
    {words : List String} (hlist : (name, words) ∈ Builtin.wordLists rule.key) (text : Text) :
    ∃ tokens, rule.tokenize text = .ok tokens ∧
      (∀ token ∈ tokens, rule.categoryAt? text token.span.start = some name →
        CharSet.word.IsRun text token.span.start token.span.stop ∧
          token.lexeme.toString ∈ words) ∧
      (∀ start stop, CharSet.word.IsRun text start stop →
        (text.slice start stop).toString ∈ words → IsFreeAt tokens start →
        rule.categoryAt? text start = some name ∧
          ∃ tag, rule.styles.lookup name = some tag ∧ HasSoleToken tokens start stop tag) := by
  obtain ⟨categories, listed, hmade, rfl, hlists⟩ := exists_listsWords hrule hlist
  obtain ⟨tokens, htokens, hsound, hcomplete⟩ := hmade.words hlists text
  refine ⟨tokens, htokens, hsound, fun start stop hrun hword hfree => ?_⟩
  obtain ⟨hcategory, hsole⟩ := hcomplete start stop hrun hword hfree
  exact ⟨hcategory, _, hmade.dividesBy.lookup_name hlists.mem, hsole⟩

/-- A built-in name of Python behind a name that starts with it. -/
theorem Registry.python_words :
    Builtin.Python.rule ∈ builtin.rules ∧
      ("builtin", Builtin.Python.builtins) ∈ Builtin.wordLists Builtin.Python.rule.key ∧
      ∃ tokens,
        Builtin.Python.rule.tokenize #['i', 'n', 't', '_', '=', 'i', 'n', 't'] = .ok tokens ∧
        IsFreeAt tokens 5 ∧ HasSoleToken tokens 5 8 "builtin" := by
  have hrule : Builtin.Python.rule ∈ builtin.rules := mem_rules_builtin.mpr (by simp)
  have hlist : ("builtin", Builtin.Python.builtins) ∈ Builtin.wordLists Builtin.Python.rule.key :=
    by decide
  have hevaluated :
      Builtin.Python.rule.tokenize #['i', 'n', 't', '_', '=', 'i', 'n', 't']
        = .ok [⟨⟨4, 5, "operator", by decide⟩, #['=']⟩,
          ⟨⟨5, 8, "builtin", by decide⟩, #['i', 'n', 't']⟩] := by
    cbv
  obtain ⟨tokens, htokens, -, hcomplete⟩ :=
    builtin_words hrule hlist #['i', 'n', 't', '_', '=', 'i', 'n', 't']
  have hfree : IsFreeAt tokens 5 := by
    rw [hevaluated] at htokens
    cases htokens
    decide
  obtain ⟨-, tag, htag, hsole⟩ := hcomplete 5 8 (by decide) (by decide) hfree
  have hlookup : Builtin.Python.rule.styles.lookup "builtin" = some "builtin" := by decide
  obtain rfl : "builtin" = tag := Option.some.inj (hlookup.symm.trans htag)
  exact ⟨hrule, hlist, tokens, htokens, hfree, hsole⟩

end SourceLens
