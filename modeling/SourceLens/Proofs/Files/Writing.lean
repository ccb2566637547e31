import SourceLens.Proofs.Except
import SourceLens.Proofs.Files.Places

/-!
# Writing a file

Putting an entry into a folder of a tree changes what is in its place and below
it, and nothing else, except that the folders on the way have another entry
(`Entry.at?_put_cases`). So every folder is still there for the paths that pass
it, and the path of the file leads to what has been written
(`FileTree.entry_of_write`).

A file can be written exactly if its path goes through folders, or through
nothing where a folder can be made, and if no folder is in its place, nor is one
made there on the way (`FileTree.HasPlaceFor`).
-/

namespace SourceLens

namespace Entry

/-- The name that is set has the entry. -/
theorem lookup_set (entries : List (String × Entry)) (name other : String) (entry : Entry) :
    (set entries name entry).lookup other
      = if other = name then some entry else entries.lookup other :=
  SourceLens.lookup_set

/-- **What is put is there.** -/
theorem at?_put (entry : Entry) (names : List String) (new : Entry) :
    (entry.put names new).at? names = some new := by
  induction names generalizing entry with
  | nil => rfl
  | cons name names ih =>
    cases entry <;> rw [put, at?, entry?, lookup_set, if_pos rfl] <;> exact ih _

/-- **What putting an entry into a folder changes**: all that is in its place
and below, and what the folders on the way hold. -/
theorem at?_put_cases {entry : Entry} {front : List String} (h : entry.HasFolder front)
    (name : String) (new : Entry) (names : List String) :
    (∃ rest, names = front ++ name :: rest ∧
      (entry.put (front ++ [name]) new).at? names = new.at? rest) ∨
    (entry.HasFolder names ∧ (entry.put (front ++ [name]) new).HasFolder names) ∨
    (entry.put (front ++ [name]) new).at? names = entry.at? names := by
  obtain ⟨inside, hat⟩ := h
  induction front generalizing entry names with
  | nil =>
    cases hat
    cases names with
    | nil => exact .inr (.inl ⟨⟨_, rfl⟩, _, rfl⟩)
    | cons first names =>
      rw [List.nil_append, put, put, at?, at?, entry?, entry?, lookup_set]
      by_cases hfirst : first = name
      · rw [if_pos hfirst, hfirst]
        exact .inl ⟨names, rfl, rfl⟩
      · rw [if_neg hfirst]
        exact .inr (.inr rfl)
  | cons next front ih =>
    cases entry with
    | file content => cases hat
    | folder entries =>
      obtain ⟨below, hlookup, hbelow⟩ := Option.bind_eq_some_iff.mp hat
      cases names with
      | nil => exact .inr (.inl ⟨⟨_, rfl⟩, _, rfl⟩)
      | cons first names =>
        have hput : ((folder entries).put (next :: front ++ [name]) new).at? (first :: names)
            = if first = next then (below.put (front ++ [name]) new).at? names
              else (folder entries).at? (first :: names) := by
          rw [List.cons_append, put, at?, entry?, lookup_set,
            show entries.lookup next = some below from hlookup]
          split
          · rfl
          · rfl
        by_cases hfirst : first = next
        · subst hfirst
          have hhere : (folder entries).at? (first :: names) = below.at? names := by
            rw [at?, hlookup]
            rfl
          rw [if_pos rfl] at hput
          unfold HasFolder
          rw [hput, hhere]
          obtain ⟨rest, rfl, hnew⟩ | hfolders | hsame := ih names hbelow
          · exact .inl ⟨rest, rfl, hnew⟩
          · exact .inr (.inl hfolders)
          · exact .inr (.inr hsame)
        · rw [if_neg hfirst] at hput
          exact .inr (.inr hput)

/-- An empty folder holds nothing but itself. -/
theorem at?_emptyFolder {names : List String} {entry : Entry}
    (h : (folder []).at? names = some entry) : names = [] ∧ entry = .folder [] := by
  cases names with
  | nil =>
    cases h
    exact ⟨rfl, rfl⟩
  | cons name names => cases h

end Entry

namespace FileTree

variable {files after : FileTree} {there path : Path} {name : String}

/-! ## One entry -/

/-- What putting something below a path changes. -/
theorem at?_put_join_cases (h : files.isFolder there = true) (hname : name ≠ "..") (new : Entry)
    (names : List String) :
    (∃ rest, names = files.place (there.join [name]) ++ rest ∧
      (files.put (there.join [name]) new).root.at? names = new.at? rest) ∨
    (files.root.HasFolder names ∧ (files.put (there.join [name]) new).root.HasFolder names) ∨
    (files.put (there.join [name]) new).root.at? names = files.root.at? names := by
  have hfolder := hasFolder_of_isFolder h
  have hput : (files.put (there.join [name]) new).root
      = files.root.put (files.place there ++ [name]) new := by
    rw [← place_join files there hname]
    rfl
  rw [hput, place_join files there hname]
  obtain ⟨rest, hnames, hnew⟩ | hother := Entry.at?_put_cases hfolder name new names
  · exact .inl ⟨rest, by rw [hnames, List.append_assoc]; rfl, hnew⟩
  · exact .inr hother

/-- **What is put below a folder is what the path leads to**, unless a folder was
there. -/
theorem entry_put_join (h : files.isFolder there = true) (hname : name ≠ "..")
    (hplace : files.isFolder (there.join [name]) = false) (new : Entry) :
    (files.put (there.join [name]) new).entry (there.join [name]) = .ok new := by
  have hstanding : (files.put (there.join [name]) new).standing? (there.join [name]) = some new :=
    Entry.at?_put files.root _ new
  have hthere : (files.put (there.join [name]) new).isFolder there = true := by
    -- the folders on the way are not in the place, or there would be one in it
    rw [isFolder_iff] at h ⊢
    intro front hfront
    obtain ⟨rest, hnames, -⟩ | hfolders | hsame :=
      at?_put_join_cases (isFolder_iff.mpr h) hname new (Path.collapse [] front)
    · have hfolder := h front hfront
      rw [hnames] at hfolder
      rw [(isFolder_join_iff (isFolder_iff.mpr h) name).mpr hfolder.of_append] at hplace
      cases hplace
    · exact hfolders.2
    · obtain ⟨entries, hat⟩ := h front hfront
      exact ⟨entries, hsame.trans hat⟩
  rw [entry_join hthere hname, hstanding]

/-! ## The folders on the way -/

theorem makeFolder_keeps (files : FileTree) (path : Path) :
    (files.makeFolder path).workingDirectory = files.workingDirectory ∧
      (files.makeFolder path).refusals = files.refusals := by
  unfold makeFolder
  split
  · exact ⟨rfl, rfl⟩
  · exact ⟨rfl, rfl⟩

theorem place_makeFolder (files : FileTree) (path other : Path) :
    (files.makeFolder path).place other = files.place other := by
  rw [place, (makeFolder_keeps files path).1, place]

/-- Below a folder there is something, or a name with nothing in its place. -/
theorem exists_or_standing?_eq_none (h : files.isFolder there = true) (name : String) :
    (∃ entry, files.entry (there.join [name]) = .ok entry) ∨
      name ≠ ".." ∧ files.exists? (there.join [name]) = false ∧
        files.standing? (there.join [name]) = none := by
  by_cases hname : name = ".."
  · obtain ⟨entries, hentry⟩ := isFolder_iff_exists.mp (isFolder_join_up h)
    rw [hname]
    exact .inl ⟨_, hentry⟩
  · have hentry := entry_join h hname
    cases hstanding : files.standing? (there.join [name]) with
    | some entry =>
      rw [hstanding] at hentry
      exact .inl ⟨entry, hentry⟩
    | none =>
      rw [hstanding] at hentry
      refine .inr ⟨hname, ?_, rfl⟩
      rw [exists?, hentry]
      rfl

/-- **A folder can be made below another** if no file is in its place. -/
theorem isFolder_makeFolder_iff (h : files.isFolder there = true) (name : String) :
    (files.makeFolder (there.join [name])).isFolder (there.join [name]) = true ↔
      ∀ content, files.standing? (there.join [name]) ≠ some (.file content) := by
  obtain ⟨entry, hentry⟩ | ⟨hname, hexists, hstanding⟩ := exists_or_standing?_eq_none h name
  · have hexists : files.exists? (there.join [name]) = true := by
      rw [exists?, hentry]
      rfl
    rw [makeFolder, if_pos hexists, isFolder_iff_exists, hentry, standing?_of_entry hentry]
    cases entry <;> simp
  · have hplace : files.isFolder (there.join [name]) = false := by
      rw [← Bool.not_eq_true, isFolder_iff_exists]
      rintro ⟨entries, hentry⟩
      rw [exists?, hentry] at hexists
      cases hexists
    rw [makeFolder, hexists, if_neg Bool.false_ne_true, isFolder_iff_exists, hstanding,
      entry_put_join h hname hplace]
    simp

/-- **Making a folder moves no file**, and makes no other folder. -/
theorem makeFolder_adds (h : files.isFolder there = true) (name : String) (names : List String) :
    (∀ content, (files.makeFolder (there.join [name])).root.at? names = some (.file content) ↔
      files.root.at? names = some (.file content)) ∧
    ((files.makeFolder (there.join [name])).isFolder (there.join [name]) = true →
      ((files.makeFolder (there.join [name])).root.HasFolder names ↔
        files.root.HasFolder names ∨ names = files.place (there.join [name]))) := by
  obtain ⟨entry, hentry⟩ | ⟨hname, hexists, hstanding⟩ := exists_or_standing?_eq_none h name
  · -- nothing is made, and the folder has been there
    have hmade : files.makeFolder (there.join [name]) = files := by
      rw [makeFolder, exists?, hentry]
      rfl
    rw [hmade]
    refine ⟨fun _ => Iff.rfl, fun hfolder => ⟨.inl, ?_⟩⟩
    rintro (hnames | rfl)
    · exact hnames
    · exact hasFolder_of_isFolder hfolder
  · have hmade : files.makeFolder (there.join [name])
        = files.put (there.join [name]) (.folder []) := by
      rw [makeFolder, hexists]
      rfl
    have hput : (files.put (there.join [name]) (.folder [])).root.HasFolder
        (files.place (there.join [name])) := ⟨[], Entry.at?_put files.root _ _⟩
    rw [hmade]
    obtain ⟨rest, rfl, hnew⟩ | ⟨hbefore, hafter⟩ | hsame :=
      at?_put_join_cases h hname (.folder []) names
    · -- there was nothing in the place or below, and there is an empty folder now
      have hnone : files.root.at? (files.place (there.join [name]) ++ rest) = none := by
        rw [Entry.at?_append, show files.root.at? _ = none from hstanding]
        rfl
      rw [hnone, hnew]
      refine ⟨fun content => ⟨fun hfile => ?_, fun hfile => nomatch hfile⟩, fun _ => ⟨?_, ?_⟩⟩
      · cases (Entry.at?_emptyFolder hfile).2
      · rintro ⟨entries, hat⟩
        rw [hnew] at hat
        rw [(Entry.at?_emptyFolder hat).1, List.append_nil]
        exact .inr rfl
      · rintro (⟨entries, hat⟩ | hnames)
        · rw [hnone] at hat
          cases hat
        · rw [hnames]
          exact hput
    · refine ⟨fun content => ?_, fun _ => ⟨fun _ => .inl hbefore, fun _ => hafter⟩⟩
      obtain ⟨entries, hat⟩ := hbefore
      obtain ⟨entries', hat'⟩ := hafter
      rw [hat, hat']
      simp
    · refine ⟨fun content => by rw [hsame], fun _ => ⟨fun hfolder => ?_, ?_⟩⟩
      · exact .inl (by rwa [Entry.HasFolder, hsame] at hfolder)
      · rintro (hfolder | rfl)
        · rwa [Entry.HasFolder, hsame]
        · exact hput

/-- The folders are there when they have been made. -/
theorem isFolder_of_makeFolders {names : List String}
    (h : files.makeFolders there names = .ok after) : after.isFolder (there.join names) = true := by
  induction names generalizing files there with
  | nil =>
    rw [makeFolders] at h
    split at h
    · rename_i hfolder
      cases h
      rw [← hfolder, Path.join_nil]
    · cases h
  | cons name names ih =>
    rw [makeFolders] at h
    split at h
    · rw [← ih h, Path.join_join]
      rfl
    · cases h

/-- Making folders gives and takes no permissions, and leads nowhere else. -/
theorem makeFolders_keeps {names : List String} (h : files.makeFolders there names = .ok after) :
    after.workingDirectory = files.workingDirectory ∧ after.refusals = files.refusals := by
  induction names generalizing files there with
  | nil =>
    rw [makeFolders] at h
    split at h
    · cases h
      exact ⟨rfl, rfl⟩
    · cases h
  | cons name names ih =>
    rw [makeFolders] at h
    split at h
    · obtain ⟨hworking, hrefusals⟩ := ih h
      rw [hworking, hrefusals]
      exact makeFolder_keeps files _
    · cases h

/-- **What a file that has been written leads to.** -/
theorem entry_of_write {content : ByteArray} (h : files.write path content = .ok after) :
    after.entry path = .ok (.file content) ∧ after.refusals = files.refusals := by
  obtain ⟨made, hmade, hwrite⟩ := bind_eq_ok.mp h
  split at hwrite
  · cases hwrite
  · rename_i hplace
    cases hwrite
    rw [Bool.not_eq_true] at hplace
    have hthere : made.isFolder path.parent = true := isFolder_of_makeFolders hmade
    refine ⟨?_, (makeFolders_keeps hmade).2⟩
    obtain hparent | ⟨name, hjoin⟩ := path.eq_join_parent
    · rw [hparent, hplace] at hthere
      cases hthere
    · rw [hjoin] at hplace ⊢
      by_cases hname : name = ".."
      · rw [hname, isFolder_join_up hthere] at hplace
        cases hplace
      · exact entry_put_join hthere hname hplace _

/-! ## When a file can be written -/

/-- **Folders can be made below a folder exactly if no file is in the place of
one of them.** -/
theorem exists_makeFolders_iff {names : List String} :
    (∃ after, files.makeFolders there names = .ok after) ↔
      files.isFolder there = true ∧ ∀ front, front <+: names → ∀ content,
        files.standing? (there.join front) ≠ some (.file content) := by
  induction names generalizing files there with
  | nil =>
    rw [makeFolders]
    split
    · rename_i hfolder
      obtain ⟨entries, hentry⟩ := isFolder_iff_exists.mp hfolder
      simp [hfolder, Path.join_nil, standing?_of_entry hentry]
    · rename_i hfolder
      simp [hfolder]
  | cons name names ih =>
    rw [makeFolders]
    split
    · rename_i hfolder
      obtain ⟨entries, hentry⟩ := isFolder_iff_exists.mp hfolder
      have hhere : ∀ content, files.standing? (there.join []) ≠ some (.file content) := by
        simp [Path.join_nil, standing?_of_entry hentry]
      have hjoin : ∀ front, (there.join [name]).join front = there.join (name :: front) :=
        fun front => Path.join_join there [name] front
      rw [ih, isFolder_makeFolder_iff hfolder, forall_prefix_cons, and_iff_right hfolder,
        and_iff_right hhere]
      simp only [standing?, place_makeFolder, hjoin, ne_eq, (makeFolder_adds hfolder name _).1]
      exact ⟨And.right, fun hall => ⟨hall [] List.nil_prefix, hall⟩⟩
    · rename_i hfolder
      simp [hfolder]

/-- **The folders that are there afterwards** are those that were, and those on
the way. -/
theorem hasFolder_makeFolders_iff {names : List String}
    (h : files.makeFolders there names = .ok after) (other : List String) :
    after.root.HasFolder other ↔ files.root.HasFolder other ∨
      ∃ front, front <+: names ∧ other = files.place (there.join front) := by
  induction names generalizing files there with
  | nil =>
    rw [makeFolders] at h
    split at h
    · rename_i hfolder
      have hthere := hasFolder_of_isFolder hfolder
      cases h
      constructor
      · exact .inl
      · rintro (hother | ⟨front, hfront, rfl⟩)
        · exact hother
        · rw [List.prefix_nil.mp hfront, Path.join_nil]
          exact hthere
    · cases h
  | cons name names ih =>
    rw [makeFolders] at h
    split at h
    · rename_i hfolder
      have hnext : (files.makeFolder (there.join [name])).isFolder (there.join [name]) = true :=
        (exists_makeFolders_iff.mp ⟨after, h⟩).1
      have hthere := hasFolder_of_isFolder hfolder
      have hjoin : ∀ front, (there.join [name]).join front = there.join (name :: front) :=
        fun front => Path.join_join there [name] front
      rw [ih h, (makeFolder_adds hfolder name other).2 hnext]
      simp only [place_makeFolder, hjoin]
      constructor
      · rintro ((hother | rfl) | ⟨front, hfront, rfl⟩)
        · exact .inl hother
        · exact .inr ⟨[name], List.cons_prefix_cons.mpr ⟨rfl, List.nil_prefix⟩, rfl⟩
        · exact .inr ⟨name :: front, List.cons_prefix_cons.mpr ⟨rfl, hfront⟩, rfl⟩
      · rintro (hother | ⟨front, hfront, rfl⟩)
        · exact .inl (.inl hother)
        · cases front with
          | nil =>
            rw [Path.join_nil]
            exact .inl (.inl hthere)
          | cons first front =>
            obtain ⟨rfl, hlater⟩ := List.cons_prefix_cons.mp hfront
            exact .inr ⟨front, hlater, rfl⟩
    · cases h

/-- When the folders on the way to a path have been made, there is a folder in
its place if there was one, or if it is one of them. -/
theorem isFolder_makeFolders_iff
    (h : files.makeFolders { path with names := [] } path.parent.names = .ok after) :
    after.isFolder path = true ↔ files.root.HasFolder (files.place path) ∨
      ∃ front, front <+: path.names.dropLast ∧
        files.place path = files.place { path with names := front } := by
  have hplace : after.place path = files.place path := by
    rw [place, (makeFolders_keeps h).1, place]
  have hthere : after.isFolder path.parent = true := isFolder_of_makeFolders h
  refine Iff.trans ?_ (hasFolder_makeFolders_iff h (files.place path))
  rw [← hplace]
  obtain hparent | ⟨name, hjoin⟩ := path.eq_join_parent
  · rw [hparent] at hthere
    exact ⟨fun _ => hasFolder_of_isFolder hthere, fun _ => hthere⟩
  · rw [hjoin]
    exact isFolder_join_iff hthere name

/-- **There is a place for a file**: its path starts from a folder and passes no
file, and no folder is in its place, neither now nor when those on the way have
been made. -/
structure HasPlaceFor (files : FileTree) (path : Path) : Prop where
  start : files.isFolder { path with names := [] } = true
  passes : ∀ front, front <+: path.names.dropLast → ∀ content,
    files.standing? { path with names := front } ≠ some (.file content)
  free : ¬ files.root.HasFolder (files.place path)
  apart : ∀ front, front <+: path.names.dropLast →
    files.place path ≠ files.place { path with names := front }

/-- **A file can be written exactly if there is a place for it.** -/
theorem exists_write_iff {content : ByteArray} :
    (∃ after, files.write path content = .ok after) ↔ files.HasPlaceFor path := by
  constructor
  · rintro ⟨after, hwrite⟩
    obtain ⟨made, hmade, hput⟩ := bind_eq_ok.mp hwrite
    obtain ⟨hstart, hpasses⟩ := exists_makeFolders_iff.mp ⟨made, hmade⟩
    split at hput
    · cases hput
    · rename_i hfolder
      rw [isFolder_makeFolders_iff hmade, not_or, not_exists] at hfolder
      exact ⟨hstart, hpasses, hfolder.1, fun front hfront heq => hfolder.2 front ⟨hfront, heq⟩⟩
  · rintro ⟨hstart, hpasses, hfree, hapart⟩
    obtain ⟨made, hmade⟩ : ∃ made,
        files.makeFolders { path with names := [] } path.parent.names = .ok made :=
      exists_makeFolders_iff.mpr ⟨hstart, hpasses⟩
    have hfolder : ¬ made.isFolder path = true := by
      rw [isFolder_makeFolders_iff hmade]
      rintro (hhas | ⟨front, hfront, heq⟩)
      · exact hfree hhas
      · exact hapart front hfront heq
    refine ⟨made.put path (.file content), ?_⟩
    rw [write, hmade]
    show (if made.isFolder path then _ else _) = _
    rw [if_neg hfolder]
    rfl

/-- **Where there is a folder, there is a place for a file in it**, unless it is
the place of a folder. -/
theorem hasPlaceFor_of_isFolder (h : files.isFolder path.parent = true)
    (hfree : ¬ files.root.HasFolder (files.place path)) : files.HasPlaceFor path := by
  have hfolders : ∀ front, front <+: path.names.dropLast →
      files.root.HasFolder (files.place { path with names := front }) := by
    intro front hfront
    rw [place_eq]
    exact isFolder_iff.mp h _ ((List.prefix_append_right_inj _).mpr hfront)
  refine ⟨?_, ?_, hfree, ?_⟩
  · rw [isFolder_iff] at h ⊢
    intro front hfront
    refine h front (hfront.trans ?_)
    exact (List.prefix_append_right_inj _).mpr List.nil_prefix
  · intro front hfront content hfile
    obtain ⟨entries, hat⟩ := hfolders front hfront
    rw [standing?, hat] at hfile
    cases hfile
  · intro front hfront heq
    exact hfree (heq ▸ hfolders front hfront)

/-- **There is a place for a file where one is.** -/
theorem hasPlaceFor_of_entry {content : ByteArray}
    (h : files.entry (there.join [name]) = .ok (.file content)) :
    files.HasPlaceFor (there.join [name]) := by
  refine hasPlaceFor_of_isFolder ?_ ?_
  · rw [Path.parent_join]
    exact isFolder_of_entry_join h
  · rintro ⟨entries, hat⟩
    have hfile := standing?_of_entry h
    rw [standing?, hat] at hfile
    cases hfile

end FileTree

end SourceLens
