import Mathlib
import SourceLens.Proofs.Files.Below

/-!
# The place of a path

A path with double dots is followed name by name, and only folders can be
passed. Its place is found without a tree: two dots take away the name before
(`Path.resolve`). The two meet as long as there are only folders on the way: a
path leads to a folder exactly if each of its fronts has a folder in its place
(`FileTree.isFolder_iff`), and from there a further name leads to what is in its
place (`FileTree.entry_join`).
-/

namespace SourceLens

namespace Path

theorem parent_join (path : Path) (name : String) : (path.join [name]).parent = path := by
  rw [join, parent, List.dropLast_concat]

/-- A path that has names is its last name below its parent. -/
theorem eq_join_parent (path : Path) :
    path.parent = path ∨ ∃ name, path = path.parent.join [name] := by
  obtain ⟨root, names⟩ := path
  obtain rfl | ⟨front, name, rfl⟩ := List.eq_nil_or_concat' names
  · exact .inl rfl
  · exact .inr ⟨name, by simp [join, parent]⟩

/-- Two dots take away the name before. -/
theorem collapse_up (kept names : List String) :
    collapse kept (".." :: names) = collapse kept.tail names := by
  rw [collapse, if_pos (beq_self_eq_true _)]

/-- Any other name is kept. -/
theorem collapse_down {name : String} (h : name ≠ "..") (kept names : List String) :
    collapse kept (name :: names) = collapse (name :: kept) names := by
  rw [collapse, if_neg fun heq => h (beq_iff_eq.mp heq)]

/-- The place of some names is found one name after the other. -/
theorem collapse_append (kept names more : List String) :
    collapse kept (names ++ more) = collapse (collapse kept names).reverse more := by
  induction names generalizing kept with
  | nil => rw [List.nil_append, collapse, List.reverse_reverse]
  | cons name names ih =>
    rw [List.cons_append, collapse, collapse]
    split
    · exact ih _
    · exact ih _

/-- Behind the double dots, a name is below what is before it. -/
theorem collapse_append_singleton {name : String} (h : name ≠ "..") (kept names : List String) :
    collapse kept (names ++ [name]) = collapse kept names ++ [name] := by
  rw [collapse_append, collapse_down h, collapse, List.reverse_cons, List.reverse_reverse]

end Path

namespace Entry

/-- Names lead on from where the names before them lead. -/
theorem at?_append (entry : Entry) (names more : List String) :
    entry.at? (names ++ more) = (entry.at? names).bind fun below => below.at? more := by
  induction names generalizing entry with
  | nil => rfl
  | cons name names ih =>
    rw [List.cons_append, at?, at?]
    cases entry.entry? name with
    | none => rfl
    | some below => exact ih below

/-- The entry of a name in a folder that some names lead to. -/
theorem at?_append_singleton {entry : Entry} {names : List String}
    {entries : List (String × Entry)} (h : entry.at? names = some (.folder entries))
    (name : String) : entry.at? (names ++ [name]) = entries.lookup name := by
  rw [at?_append, h]
  show (entries.lookup name).bind (fun below => some below) = _
  cases entries.lookup name <;> rfl

/-- A folder is at the end of some names. -/
def HasFolder (entry : Entry) (names : List String) : Prop :=
  ∃ entries, entry.at? names = some (.folder entries)

/-- Only folders lead on. -/
theorem HasFolder.of_append {entry : Entry} {names more : List String}
    (h : entry.HasFolder (names ++ more)) : entry.HasFolder names := by
  obtain ⟨entries, hat⟩ := h
  rw [at?_append] at hat
  obtain ⟨below, hbelow, hmore⟩ := Option.bind_eq_some_iff.mp hat
  cases below with
  | folder entries => exact ⟨entries, hbelow⟩
  | file content =>
    cases more with
    | nil => cases hmore
    | cons name more => cases hmore

end Entry

namespace FileTree

/-! ## Steps -/

variable (path : Path) (entries : List (String × Entry)) (names : List String)

/-- At the root, two dots lead nowhere else. -/
theorem follow_up_root :
    follow path [] (.folder entries) (".." :: names) = follow path [] (.folder entries) names := by
  rw [follow]
  rfl

/-- Two dots lead to the folder above. -/
theorem follow_up (parent : Entry) (above : List Entry) :
    follow path (parent :: above) (.folder entries) (".." :: names)
      = follow path above parent names := by
  rw [follow]
  rfl

/-- Any other name leads to the entry of the name. -/
theorem follow_down {name : String} (hname : name ≠ "..") (above : List Entry) :
    follow path above (.folder entries) (name :: names)
      = match entries.lookup name with
        | some entry => follow path (.folder entries :: above) entry names
        | none => .error (.notFound path) := by
  rw [follow.eq_def]
  refine (if_neg fun heq => hname (beq_iff_eq.mp heq)).trans ?_
  cases entries.lookup name <;> rfl

/-! ## Where one is -/

/-- **Where one is in a tree**: the names that lead there, the last one first,
the folders passed on the way, the nearest first, and what is there. -/
inductive Reached (root : Entry) : List String → List Entry → Entry → Prop where
  | start : Reached root [] [] root
  | down {kept : List String} {above : List Entry} {entries : List (String × Entry)}
      {name : String} {entry : Entry} (parent : Reached root kept above (.folder entries))
      (found : entries.lookup name = some entry) :
      Reached root (name :: kept) (.folder entries :: above) entry

variable {path entries names}
variable {root : Entry} {kept : List String} {above : List Entry} {entry : Entry}

/-- The names lead there. -/
theorem Reached.at?_eq (h : Reached root kept above entry) :
    root.at? kept.reverse = some entry := by
  induction h with
  | start => rfl
  | down _ found ih => rw [List.reverse_cons, Entry.at?_append_singleton ih, found]

/-- **Where a path has led, it can be followed further**, and it has led to its
place. -/
theorem Reached.follow {reached : Entry} (h : Reached root kept above entry)
    (hfollow : FileTree.follow path above entry names = .ok reached) :
    ∃ above', Reached root (Path.collapse kept names).reverse above' reached ∧
      ∀ path' more, FileTree.follow path' above entry (names ++ more)
        = FileTree.follow path' above' reached more := by
  induction names generalizing kept above entry with
  | nil =>
    rw [FileTree.follow] at hfollow
    cases hfollow
    rw [Path.collapse, List.reverse_reverse]
    exact ⟨above, h, fun _ _ => rfl⟩
  | cons name names ih =>
    cases entry with
    | file content => cases hfollow
    | folder entries =>
      by_cases hname : name = ".."
      · subst hname
        rw [Path.collapse_up]
        cases h with
        | start =>
          rw [follow_up_root] at hfollow
          obtain ⟨above', hreached, hmore⟩ := ih .start hfollow
          refine ⟨above', hreached, fun path' more => ?_⟩
          rw [List.cons_append, follow_up_root]
          exact hmore path' more
        | down parent found =>
          rw [follow_up] at hfollow
          obtain ⟨above', hreached, hmore⟩ := ih parent hfollow
          refine ⟨above', hreached, fun path' more => ?_⟩
          rw [List.cons_append, follow_up]
          exact hmore path' more
      · rw [Path.collapse_down hname]
        rw [follow_down path entries names hname] at hfollow
        cases hlookup : entries.lookup name with
        | none =>
          rw [hlookup] at hfollow
          cases hfollow
        | some below =>
          rw [hlookup] at hfollow
          obtain ⟨above', hreached, hmore⟩ := ih (.down h hlookup) hfollow
          refine ⟨above', hreached, fun path' more => ?_⟩
          rw [List.cons_append, follow_down path' entries _ hname, hlookup]
          exact hmore path' more

/-- A front of a list is empty, or starts with its first item. -/
theorem forall_prefix_cons {P : List String → Prop} {name : String} :
    (∀ front, front <+: name :: names → P front) ↔
      P [] ∧ ∀ front, front <+: names → P (name :: front) := by
  constructor
  · exact fun hall => ⟨hall [] List.nil_prefix, fun front hfront =>
      hall (name :: front) (List.cons_prefix_cons.mpr ⟨rfl, hfront⟩)⟩
  · rintro ⟨hnil, hcons⟩ front hfront
    cases front with
    | nil => exact hnil
    | cons first front =>
      obtain ⟨rfl, hlater⟩ := List.cons_prefix_cons.mp hfront
      exact hcons front hlater

/-- **A path leads to a folder exactly if there is a folder in the place of each
of its fronts.** -/
theorem Reached.follow_folder_iff (h : Reached root kept above entry) (path : Path)
    (names : List String) :
    (∃ entries, FileTree.follow path above entry names = .ok (.folder entries)) ↔
      ∀ front, front <+: names → root.HasFolder (Path.collapse kept front) := by
  induction names generalizing kept above entry with
  | nil => simp [Path.collapse, Entry.HasFolder, h.at?_eq, FileTree.follow]
  | cons name names ih =>
    rw [forall_prefix_cons, Path.collapse, Entry.HasFolder, h.at?_eq]
    cases entry with
    | file content => simp [FileTree.follow]
    | folder entries =>
      have hhere : ∃ entries', some (Entry.folder entries) = some (.folder entries') := ⟨_, rfl⟩
      rw [and_iff_right hhere]
      by_cases hname : name = ".."
      · subst hname
        simp only [Path.collapse_up]
        cases h with
        | start =>
          rw [follow_up_root]
          exact ih .start
        | down parent found =>
          rw [follow_up]
          exact ih parent
      · simp only [Path.collapse_down hname]
        rw [follow_down path entries names hname]
        cases hlookup : entries.lookup name with
        | some below => exact ih (.down h hlookup)
        | none =>
          -- the front that ends in the name has nothing in its place
          constructor
          · rintro ⟨_, ⟨⟩⟩
          · intro hall
            obtain ⟨_, hat⟩ := hall [] List.nil_prefix
            rw [Path.collapse, List.reverse_cons, Entry.at?_append_singleton h.at?_eq,
              hlookup] at hat
            cases hat

/-! ## The places of paths -/

/-- The names that a path starts from. -/
def base (files : FileTree) (path : Path) : List String :=
  match path.root with
  | .relative => files.workingDirectory
  | _ => []

/-- The names of the place of a path. -/
def place (files : FileTree) (path : Path) : List String :=
  (path.resolve files.workingDirectory).names

/-- **What is in the place of a path.** -/
def standing? (files : FileTree) (path : Path) : Option Entry :=
  files.root.at? (files.place path)

variable {files : FileTree}

theorem entry_eq (files : FileTree) (path : Path) :
    files.entry path = FileTree.follow path [] files.root (files.base path ++ path.names) := by
  unfold entry base
  cases path.root <;> rfl

theorem place_eq (files : FileTree) (path : Path) :
    files.place path = Path.collapse [] (files.base path ++ path.names) := by
  unfold place base Path.resolve
  cases path.root <;> rfl

/-- The place of a name below a path. -/
theorem place_join (files : FileTree) (path : Path) {name : String} (h : name ≠ "..") :
    files.place (path.join [name]) = files.place path ++ [name] := by
  rw [place_eq, place_eq, ← Path.collapse_append_singleton h, List.append_assoc]
  rfl

/-- A folder is there if a folder is what the path leads to. -/
theorem isFolder_iff_exists :
    files.isFolder path = true ↔ ∃ entries, files.entry path = .ok (.folder entries) := by
  unfold isFolder
  split
  · rename_i entries hentry
    exact ⟨fun _ => ⟨entries, hentry⟩, fun _ => rfl⟩
  · rename_i hother
    exact ⟨fun h => (Bool.false_ne_true h).elim, fun ⟨entries, h⟩ => (hother entries h).elim⟩

/-- **There is a folder exactly if every front of the path has a folder in its
place.** -/
theorem isFolder_iff :
    files.isFolder path = true ↔ ∀ front, front <+: files.base path ++ path.names →
      files.root.HasFolder (Path.collapse [] front) := by
  rw [isFolder_iff_exists, entry_eq]
  exact Reached.start.follow_folder_iff path _

/-- Where a path leads, it can be followed further. -/
theorem exists_reached (h : files.entry path = .ok entry) :
    ∃ above, Reached files.root (files.place path).reverse above entry ∧
      ∀ more, files.entry (path.join more) = FileTree.follow (path.join more) above entry more := by
  rw [entry_eq] at h
  obtain ⟨above, hreached, hmore⟩ := Reached.start.follow h
  rw [← place_eq] at hreached
  refine ⟨above, hreached, fun more => ?_⟩
  rw [entry_eq, ← hmore, List.append_assoc]
  rfl

/-- **What a path leads to is in its place.** -/
theorem standing?_of_entry (h : files.entry path = .ok entry) :
    files.standing? path = some entry := by
  obtain ⟨above, hreached, -⟩ := exists_reached h
  rw [standing?, ← hreached.at?_eq, List.reverse_reverse]

/-- A folder is in the place of a path that leads to one. -/
theorem hasFolder_of_isFolder (h : files.isFolder path = true) :
    files.root.HasFolder (files.place path) := by
  obtain ⟨entries, hentry⟩ := isFolder_iff_exists.mp h
  exact ⟨entries, standing?_of_entry hentry⟩

/-- From a folder, two dots lead to a folder. -/
theorem isFolder_join_up (h : files.isFolder path = true) :
    files.isFolder (path.join [".."]) = true := by
  obtain ⟨entries, hentry⟩ := isFolder_iff_exists.mp h
  obtain ⟨above, hreached, hmore⟩ := exists_reached hentry
  rw [isFolder_iff_exists, hmore]
  generalize (files.place path).reverse = kept, files.root = root at hreached
  cases hreached with
  | start =>
    rw [follow_up_root]
    exact ⟨entries, rfl⟩
  | down parent found =>
    rw [follow_up]
    exact ⟨_, rfl⟩

/-- **From a folder, any other name leads to what is in its place.** -/
theorem entry_join (h : files.isFolder path = true) {name : String} (hname : name ≠ "..") :
    files.entry (path.join [name])
      = match files.standing? (path.join [name]) with
        | some entry => .ok entry
        | none => .error (.notFound (path.join [name])) := by
  obtain ⟨entries, hentry⟩ := isFolder_iff_exists.mp h
  obtain ⟨above, hreached, hmore⟩ := exists_reached hentry
  have hstanding : files.standing? (path.join [name]) = entries.lookup name := by
    rw [standing?, place_join files path hname]
    exact Entry.at?_append_singleton (standing?_of_entry hentry) name
  rw [hmore, follow_down _ _ _ hname, hstanding]
  cases entries.lookup name <;> rfl

/-- What lies behind a path that leads further is a folder. -/
theorem exists_folder_of_follow {name : String} {reached : Entry}
    (h : FileTree.follow path above entry (names ++ [name]) = .ok reached) :
    ∃ entries, FileTree.follow path above entry names = .ok (.folder entries) := by
  induction names generalizing above entry with
  | nil =>
    cases entry with
    | file content => cases h
    | folder entries => exact ⟨entries, rfl⟩
  | cons first names ih =>
    cases entry with
    | file content => cases h
    | folder entries =>
      by_cases hname : first = ".."
      · subst hname
        cases above with
        | nil =>
          rw [List.cons_append, follow_up_root] at h
          rw [follow_up_root]
          exact ih h
        | cons parent above =>
          rw [List.cons_append, follow_up] at h
          rw [follow_up]
          exact ih h
      · rw [List.cons_append, follow_down _ _ _ hname] at h
        rw [follow_down _ _ _ hname]
        cases hlookup : entries.lookup first with
        | none =>
          rw [hlookup] at h
          cases h
        | some below =>
          rw [hlookup] at h
          exact ih h

/-- **What is there is in a folder.** -/
theorem isFolder_of_entry_join {name : String} {reached : Entry}
    (h : files.entry (path.join [name]) = .ok reached) :
    files.isFolder path = true := by
  have hnames : files.base (path.join [name]) ++ (path.join [name]).names
      = (files.base path ++ path.names) ++ [name] := (List.append_assoc _ _ _).symm
  rw [entry_eq, hnames] at h
  obtain ⟨entries, hfollow⟩ := exists_folder_of_follow h
  -- where a path leads does not depend on how it is called
  obtain ⟨above, -, hmore⟩ := Reached.start.follow hfollow
  have hpath := hmore path []
  rw [List.append_nil] at hpath
  rw [isFolder_iff_exists, entry_eq, hpath]
  exact ⟨entries, rfl⟩

/-- Below a folder there is a folder if there is one in the place. -/
theorem isFolder_join_iff (h : files.isFolder path = true) (name : String) :
    files.isFolder (path.join [name]) = true ↔
      files.root.HasFolder (files.place (path.join [name])) := by
  refine ⟨hasFolder_of_isFolder, ?_⟩
  rintro ⟨entries, hat⟩
  by_cases hname : name = ".."
  · rw [hname]
    exact isFolder_join_up h
  · have hentry := entry_join h hname
    rw [show files.standing? (path.join [name]) = _ from hat] at hentry
    exact isFolder_iff_exists.mpr ⟨entries, hentry⟩

end FileTree

end SourceLens
