import Mathlib.Data.List.Nodup
import Mathlib.Data.String.Basic
import SourceLens.Files.Tree
import SourceLens.Proofs.Lookup

/-!
# What is below a folder

A walk lists everything below a folder and sorts the list. What it is meant to
list can be said without a walk: some names lead from an entry to another if
each is the name of an entry of the folder before (`Entry.at?`), and a walk comes
to all of these but for what is behind a folder that it cannot list
(`FileTree.WalksTo`). The walk lists exactly these, each once, and the list
ascends in the order of lists of names (`FileTree.walk_eq_ok`).

A walk does not always go through. It is barred (`FileTree.IsBarred`) if it cannot
ask what is at its start, or if it comes to a folder that cannot be listed for
another reason than that this is not permitted; and it fails just then
(`FileTree.exists_walk_eq_error_iff`).
-/

namespace SourceLens

namespace Entry

/-- **The entry that some names lead to**, one after the other. -/
def at? : Entry → List String → Option Entry
  | entry, [] => some entry
  | entry, name :: names => (entry.entry? name).bind fun below => below.at? names

mutual

/-- **The walk lists what names lead to**, and nothing else. -/
theorem mem_descendants : ∀ (entry : Entry) (names : List String) (e : Entry),
    (names, e) ∈ entry.descendants ↔ names ≠ [] ∧ entry.at? names = some e
  | .file content, names, e => by
    unfold descendants
    cases names with
    | nil => simp
    | cons name names => simp [at?, entry?]
  | .folder entries, names, e => by
    rw [descendants, mem_descendantsOf]
    constructor
    · rintro ⟨name, rest, below, rfl, -, hlookup, hat⟩
      refine ⟨List.cons_ne_nil _ _, ?_⟩
      rw [at?, entry?, hlookup]
      exact hat
    · rintro ⟨hne, hat⟩
      cases names with
      | nil => exact absurd rfl hne
      | cons name rest =>
        rw [at?, entry?] at hat
        obtain ⟨below, hlookup, hat⟩ := Option.bind_eq_some_iff.mp hat
        exact ⟨name, rest, below, rfl, List.not_mem_nil, hlookup, hat⟩

theorem mem_descendantsOf : ∀ (entries : List (String × Entry)) (seen : List String)
    (names : List String) (e : Entry),
    (names, e) ∈ descendantsOf seen entries ↔ ∃ name rest below, names = name :: rest ∧
      name ∉ seen ∧ entries.lookup name = some below ∧ below.at? rest = some e
  | [], seen, names, e => by simp [descendantsOf]
  | (first, entry) :: entries, seen, names, e => by
    have hlater : (names, e) ∈ descendantsOf (first :: seen) entries ↔
        ∃ name rest below, names = name :: rest ∧ (name ≠ first ∧ name ∉ seen) ∧
          List.lookup name ((first, entry) :: entries) = some below ∧ below.at? rest = some e := by
      rw [mem_descendantsOf entries (first :: seen) names e]
      refine exists_congr fun name => exists_congr fun rest => exists_congr fun below => ?_
      rw [List.mem_cons, not_or]
      refine and_congr_right fun _ => and_congr_right fun hname => ?_
      rw [lookup_cons_of_ne hname.1]
    rw [descendantsOf]
    dsimp only
    split
    · -- the name has its entry already
      rename_i hseen
      rw [hlater]
      refine exists_congr fun name => exists_congr fun rest => exists_congr fun below => ?_
      refine and_congr_right fun _ => and_congr_left fun _ => ⟨And.right, fun hname => ⟨?_, hname⟩⟩
      rintro rfl
      exact hname (List.contains_iff_mem.mp hseen)
    · -- the entry itself, what is below it, and what the other names lead to
      rename_i hseen
      rw [List.mem_append, List.mem_cons, List.mem_map, hlater]
      constructor
      · rintro ((hfirst | ⟨⟨rest, below⟩, hrest, hpair⟩) | ⟨name, rest, below, rfl, hname, hat⟩)
        · cases hfirst
          exact ⟨first, [], entry, rfl, fun hmem => hseen (List.contains_iff_mem.mpr hmem),
            List.lookup_cons_self, rfl⟩
        · cases hpair
          exact ⟨first, rest, entry, rfl, fun hmem => hseen (List.contains_iff_mem.mpr hmem),
            List.lookup_cons_self, ((mem_descendants entry rest below).mp hrest).2⟩
        · exact ⟨name, rest, below, rfl, hname.2, hat⟩
      · rintro ⟨name, rest, below, rfl, hname, hlookup, hat⟩
        by_cases hfirst : name = first
        · subst hfirst
          rw [List.lookup_cons_self] at hlookup
          cases hlookup
          refine Or.inl ?_
          cases rest with
          | nil =>
            cases hat
            exact Or.inl rfl
          | cons second rest =>
            exact Or.inr ⟨(second :: rest, e),
              (mem_descendants entry _ e).mpr ⟨List.cons_ne_nil _ _, hat⟩, rfl⟩
        · exact Or.inr ⟨name, rest, below, rfl, ⟨hfirst, hname⟩, hlookup, hat⟩

end

/-- What is listed of a folder after some names starts with another name. -/
theorem head_not_mem_of_mem {entries : List (String × Entry)} {seen : List String}
    {name : String} {rest : List String}
    (h : name :: rest ∈ (descendantsOf seen entries).map (·.1)) : name ∉ seen := by
  obtain ⟨⟨names, e⟩, hmem, heq⟩ := List.mem_map.mp h
  obtain ⟨_, _, _, rfl, hname, -⟩ := (mem_descendantsOf entries seen names e).mp hmem
  cases heq
  exact hname

mutual

/-- **The walk lists nothing twice.** -/
theorem nodup_descendants : ∀ entry : Entry, (entry.descendants.map (·.1)).Nodup
  | .file _ => List.nodup_nil
  | .folder entries => nodup_descendantsOf entries []

theorem nodup_descendantsOf : ∀ (entries : List (String × Entry)) (seen : List String),
    ((descendantsOf seen entries).map (·.1)).Nodup
  | [], _ => List.nodup_nil
  | (first, entry) :: entries, seen => by
    have hlater := nodup_descendantsOf entries (first :: seen)
    have hbelow := nodup_descendants entry
    have hother : ∀ rest, first :: rest ∉ (descendantsOf (first :: seen) entries).map (·.1) :=
      fun rest hmem => head_not_mem_of_mem hmem List.mem_cons_self
    rw [descendantsOf]
    dsimp only
    split
    · exact hlater
    · have hpaths : (entry.descendants.map fun (names, e) => (first :: names, e)).map (·.1)
          = (entry.descendants.map (·.1)).map (first :: ·) := by
        rw [List.map_map, List.map_map]
        rfl
      rw [List.map_append, List.map_cons, hpaths, List.cons_append, List.nodup_cons,
        List.nodup_append]
      refine ⟨?_, List.Nodup.map List.cons_injective hbelow, hlater, ?_⟩
      · -- the folder itself is not among what is below it or behind it
        rw [List.mem_append, not_or]
        refine ⟨fun hmem => ?_, hother []⟩
        obtain ⟨names, hnames, heq⟩ := List.mem_map.mp hmem
        obtain ⟨⟨_, e⟩, hdescendant, rfl⟩ := List.mem_map.mp hnames
        cases heq
        exact ((mem_descendants entry [] e).mp hdescendant).1 rfl
      · rintro a ha b hb rfl
        obtain ⟨names, -, rfl⟩ := List.mem_map.mp ha
        exact hother names hb

end

end Entry

/-! ## The order of lists of names -/

namespace Path

/-- The order by the first name that differs is the order of lists. -/
theorem namesLe_iff {a b : List String} : namesLe a b = true ↔ a < b ∨ a = b := by
  induction a generalizing b with
  | nil => cases b <;> simp [namesLe]
  | cons a as ih =>
    cases b with
    | nil => simp [namesLe]
    | cons b bs =>
      rw [namesLe, List.cons_lt_cons_iff, List.cons.injEq]
      by_cases heq : a = b
      · subst heq
        rw [if_pos (beq_self_eq_true a), ih]
        simp
      · rw [if_neg (fun h => heq (beq_iff_eq.mp h))]
        simp [heq]

/-- Of two lists of names, one comes first. -/
theorem namesLe_total (a b : List String) : (namesLe a b || namesLe b a) = true := by
  rw [Bool.or_eq_true, namesLe_iff, namesLe_iff]
  obtain h | h | h := lt_trichotomy a b
  · exact Or.inl (Or.inl h)
  · exact Or.inl (Or.inr h)
  · exact Or.inr (Or.inl h)

theorem namesLe_trans (a b c : List String) (hab : namesLe a b = true)
    (hbc : namesLe b c = true) : namesLe a c = true := by
  rw [namesLe_iff, ← le_iff_lt_or_eq] at *
  exact le_trans hab hbc

end Path

/-- Below a path by no names is the path. -/
theorem Path.join_nil (path : Path) : path.join [] = path := by
  rw [join, List.append_nil]

theorem Path.join_join (path : Path) (names more : List String) :
    (path.join names).join more = path.join (names ++ more) := by
  rw [join, join, join, List.append_assoc]

namespace FileTree

variable {files : FileTree} {path folder : Path} {names : List String} {below : Entry}

/-! ## What a walk comes to -/

/-- **A walk from a path comes to an entry**: some names lead to it from there,
and every folder on the way can be listed. -/
def WalksTo (files : FileTree) (path : Path) (names : List String) (below : Entry) : Prop :=
  names ≠ [] ∧ (∃ entry, files.entry path = .ok entry ∧ entry.at? names = some below) ∧
    ∀ front, front <+: names → front ≠ names → files.refusals.listing (path.join front) = none

theorem reaches_iff : files.reaches path names = true ↔
    ∀ front, front <+: names → front ≠ names →
      files.refusals.listing (path.join front) = none := by
  induction names generalizing path with
  | nil => exact ⟨fun _ front hfront hne => absurd (List.prefix_nil.mp hfront) hne, fun _ => rfl⟩
  | cons name names ih =>
    rw [reaches, Bool.and_eq_true, Option.isNone_iff_eq_none, ih]
    constructor
    · rintro ⟨hfirst, hlater⟩ front hfront hne
      cases front with
      | nil => rwa [Path.join_nil]
      | cons other front =>
        obtain ⟨rfl, htail⟩ := List.cons_prefix_cons.mp hfront
        have hlisting := hlater front htail fun heq => hne (heq ▸ rfl)
        rwa [Path.join_join] at hlisting
    · intro h
      refine ⟨?_, fun front hfront hne => ?_⟩
      · have hlisting := h [] List.nil_prefix (List.cons_ne_nil _ _).symm
        rwa [Path.join_nil] at hlisting
      · rw [Path.join_join]
        exact h (name :: front) (List.cons_prefix_cons.mpr ⟨rfl, hfront⟩)
          fun heq => hne (List.cons.inj heq).2

theorem mem_entriesWalked :
    (names, below) ∈ files.entriesWalked path ↔ files.WalksTo path names below := by
  unfold entriesWalked WalksTo
  cases hentry : files.entry path with
  | error problem => simp
  | ok entry =>
    dsimp only
    rw [List.mem_filter, Entry.mem_descendants, reaches_iff]
    simp only [Except.ok.injEq, exists_eq_left', and_assoc]

theorem mem_namesBelow :
    names ∈ files.namesBelow path ↔ ∃ below, files.WalksTo path names below := by
  rw [namesBelow, List.mem_mergeSort, List.mem_map]
  constructor
  · rintro ⟨⟨_, below⟩, hmem, rfl⟩
    exact ⟨below, mem_entriesWalked.mp hmem⟩
  · rintro ⟨below, hwalks⟩
    exact ⟨(names, below), mem_entriesWalked.mpr hwalks, rfl⟩

/-- Nothing is listed twice, and the list ascends. -/
theorem pairwise_namesBelow (files : FileTree) (path : Path) :
    (files.namesBelow path).Pairwise (· < ·) := by
  have hsorted := List.pairwise_mergeSort Path.namesLe_trans Path.namesLe_total
    ((files.entriesWalked path).map (·.1))
  have hnodup : ((files.entriesWalked path).map (·.1)).Nodup := by
    unfold entriesWalked
    cases files.entry path with
    | error problem => exact List.nodup_nil
    | ok entry => exact (Entry.nodup_descendants entry).sublist (List.filter_sublist.map _)
  have hdistinct : (files.namesBelow path).Nodup :=
    (List.mergeSort_perm _ _).nodup_iff.mpr hnodup
  refine (hsorted.and hdistinct).imp ?_
  rintro a b ⟨hle, hne⟩
  exact (Path.namesLe_iff.mp hle).resolve_right hne

/-! ## Walks that go through, and walks that fail -/

/-- **A walk that goes through** lists what it comes to if there is a folder to
start from. The list ascends, so nothing is listed twice. -/
theorem walk_eq_ok {listed : List (List String)} (h : files.walk path = .ok listed) :
    listed.Pairwise (· < ·) ∧ ∀ names, names ∈ listed ↔
      files.leadsToFolder path = .ok true ∧ ∃ below, files.WalksTo path names below := by
  unfold walk at h
  split at h
  · cases h
  · rename_i hfolder
    cases h
    rw [hfolder]
    exact ⟨List.Pairwise.nil, fun names => by simp⟩
  · rename_i hfolder
    split at h
    · cases h
    · cases h
      rw [hfolder]
      exact ⟨pairwise_namesBelow files path, fun names => by simp [mem_namesBelow]⟩

/-- Where following a path fails, it leads nowhere. -/
theorem meansAbsence_of_follow {error : FileError} {above : List Entry} {entry : Entry}
    (h : follow path above entry names = .error error) : error.cause.meansAbsence = true := by
  induction names generalizing above entry with
  | nil => cases h
  | cons name names ih =>
    cases entry with
    | file content =>
      cases h
      rfl
    | folder entries =>
      unfold follow at h
      split at h
      · split at h
        · exact ih h
        · exact ih h
      · split at h
        · exact ih h
        · cases h
          rfl

theorem meansAbsence_of_entry {error : FileError} (h : files.entry path = .error error) :
    error.cause.meansAbsence = true := by
  unfold entry at h
  split at h
  · exact meansAbsence_of_follow h
  · exact meansAbsence_of_follow h

/-- **A question fails just if access is refused**, and not since the path leads
nowhere. -/
theorem ask_eq_error_iff {refusal : Option SystemError} {question : Entry → Bool}
    {error : FileError} : files.ask refusal path question = .error error ↔
      ∃ cause, refusal = some cause ∧ cause.meansAbsence = false ∧ error = ⟨cause, path⟩ := by
  unfold ask access
  cases refusal with
  | some cause =>
    dsimp only
    cases habsence : cause.meansAbsence with
    | true =>
      refine iff_of_false (by simp) ?_
      rintro ⟨_, ⟨⟩, hpresent, -⟩
      rw [habsence] at hpresent
      cases hpresent
    | false =>
      rw [if_neg Bool.false_ne_true]
      constructor
      · rintro ⟨⟩
        exact ⟨cause, rfl, habsence, rfl⟩
      · rintro ⟨_, ⟨⟩, -, rfl⟩
        rfl
  | none =>
    dsimp only
    cases hentry : files.entry path with
    | ok entry => simp
    | error problem => simp [meansAbsence_of_entry hentry]

/-- **A question is answered with yes** if nothing is refused and what is there
answers it so. -/
theorem ask_eq_true_iff {refusal : Option SystemError} {question : Entry → Bool} :
    files.ask refusal path question = .ok true ↔
      refusal = none ∧ ∃ entry, files.entry path = .ok entry ∧ question entry = true := by
  unfold ask access
  cases refusal with
  | some cause =>
    refine iff_of_false (fun h => ?_) fun h => (nomatch h.1)
    dsimp only at h
    split at h <;> cases h
  | none =>
    cases files.entry path with
    | ok entry => simp
    | error problem =>
      refine iff_of_false (fun h => ?_) fun ⟨_, _, h, _⟩ => (nomatch h)
      dsimp only at h
      split at h <;> cases h

theorem mem_foldersWalked : folder ∈ files.foldersWalked path ↔ folder = path ∨
    ∃ names entries, files.WalksTo path names (.folder entries) ∧ folder = path.join names := by
  rw [foldersWalked, List.mem_cons, List.mem_filterMap]
  refine or_congr_right ⟨?_, ?_⟩
  · rintro ⟨⟨names, below⟩, hmem, hfolder⟩
    cases below with
    | file content => cases hfolder
    | folder entries =>
      cases hfolder
      exact ⟨names, entries, mem_entriesWalked.mp hmem, rfl⟩
  · rintro ⟨names, entries, hwalks, rfl⟩
    exact ⟨(names, .folder entries), mem_entriesWalked.mpr hwalks, rfl⟩

theorem listingError?_eq_none_iff : files.listingError? folder = none ↔
    ∀ cause, files.refusals.listing folder = some cause → cause.meansDenial = true := by
  unfold listingError?
  cases files.refusals.listing folder with
  | none => simp
  | some cause => simp [Option.filter]

/-- **The walk from a path is barred**: access to its start is refused, and not
since nothing is there; or a folder is there, and it or a folder that the walk
comes to cannot be listed for another reason than that it is not permitted. No
file bars a walk, whatever is refused of it. -/
def IsBarred (files : FileTree) (path : Path) : Prop :=
  (∃ cause, files.refusals.entering path = some cause ∧ cause.meansAbsence = false) ∨
    files.leadsToFolder path = .ok true ∧ ∃ folder cause,
      (folder = path ∨ ∃ names entries, files.WalksTo path names (.folder entries) ∧
        folder = path.join names) ∧
      files.refusals.listing folder = some cause ∧ cause.meansDenial = false

/-- **A walk fails just if it is barred.** -/
theorem exists_walk_eq_error_iff : (∃ error, files.walk path = .error error) ↔
    files.IsBarred path := by
  have hasked : (∃ error, files.leadsToFolder path = .error error) ↔
      ∃ cause, files.refusals.entering path = some cause ∧ cause.meansAbsence = false := by
    unfold leadsToFolder
    simp only [ask_eq_error_iff]
    exact ⟨fun ⟨_, cause, hcause, hpresent, _⟩ => ⟨cause, hcause, hpresent⟩,
      fun ⟨cause, hcause, hpresent⟩ => ⟨_, cause, hcause, hpresent, rfl⟩⟩
  unfold IsBarred
  rw [← hasked]
  unfold walk
  cases files.leadsToFolder path with
  | error error => simp
  | ok isFolder =>
    cases isFolder with
    | false => simp
    | true =>
      dsimp only
      simp only [← mem_foldersWalked]
      cases hfound : (files.foldersWalked path).findSome? files.listingError? with
      | none =>
        have hnone := List.findSome?_eq_none_iff.mp hfound
        refine iff_of_false (by simp) ?_
        rintro (⟨_, h⟩ | ⟨-, folder, cause, hmem, hcause, hdenial⟩)
        · cases h
        · rw [listingError?_eq_none_iff.mp (hnone folder hmem) cause hcause] at hdenial
          cases hdenial
      | some error =>
        obtain ⟨folder, hmem, herror⟩ := List.exists_of_findSome?_eq_some hfound
        refine iff_of_true ⟨error, rfl⟩ (Or.inr ⟨trivial, folder, ?_⟩)
        by_contra hno
        rw [listingError?_eq_none_iff.mpr fun cause hcause => ?_] at herror
        · cases herror
        · by_contra hdenial
          exact hno ⟨cause, hmem, hcause, Bool.eq_false_iff.mpr hdenial⟩

/-- Where nothing is refused of folders, no walk is barred. -/
theorem not_isBarred (hentering : files.refusals.entering path = none)
    (hlisting : ∀ folder, files.refusals.listing folder = none) : ¬ files.IsBarred path := by
  rintro (⟨cause, hcause, -⟩ | ⟨-, folder, cause, -, hcause, -⟩)
  · cases hentering.symm.trans hcause
  · cases (hlisting folder).symm.trans hcause

end FileTree

end SourceLens
