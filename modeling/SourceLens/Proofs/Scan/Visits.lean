import Mathlib
import SourceLens.Proofs.Files.Below
import SourceLens.Proofs.Function.Headers
import SourceLens.Proofs.Scan.Builtin

/-!
# Scanning a whole tree

A scan that nobody cancels is determined by the tree, path by path. The paths
that it visits are those that its walk comes to, that no pattern selects a part
of, and that are files or cannot be asked whether they are
(`Scanner.IsVisited`); they are visited in the order of their parts, each once.
The event of a path is told by a list of questions in a fixed order
(`Scanner.expected`). What the scan gives – functions, skipped files, count and
warnings – is put together from the events in the order of the paths
(`Scanner.scan_eq_expected`).

Nothing that is refused of a file takes part in whether there is a result. What
is refused of folders does: behind a folder that it is not permitted to list, the
scan finds nothing, and reports nothing; and a walk that is barred leaves it
without a result (`Scanner.not_forall_scan_eq_expected`).
-/

namespace SourceLens

/-- The size of a file in octets. -/
def FileTree.octets (files : FileTree) (path : Path) : Nat :=
  match files.entry path with
  | .ok (.file content) => content.size
  | _ => 0

namespace Scanner

variable {scanner : Scanner}

/-- **A scan visits a path**: there is a folder at the root, and the walk from
there comes to the path; no pattern selects any of its names below the root; and
it is a file or cannot be asked whether it is one. -/
def IsVisited (scanner : Scanner) (path : Path) : Prop :=
  scanner.files.leadsToFolder scanner.config.root = .ok true ∧
  ∃ names below, path = scanner.config.root.join names ∧
    scanner.files.WalksTo scanner.config.root names below ∧
    (∀ name ∈ names, ∀ pattern ∈ scanner.config.skipPatterns, globMatches pattern name = false) ∧
    (scanner.files.isFile path = .ok true ∨ ∃ problem, scanner.files.isFile path = .error problem)

/-- **The event of a path** that is visited: unreadable if it cannot be asked
whether it is a file; nothing if it is in no known language; unreadable if its
size cannot be asked for; too large, if it is larger than what is asked for;
unreadable if it cannot be read; and else the functions of the file. -/
def expected (scanner : Scanner) (path : Path) : FileEvent :=
  let language := detectLanguage path.name
  let skipped (reason : String) : FileEvent := ⟨path, language, [], some ⟨path, reason⟩⟩
  match scanner.files.isFile path with
  | .error problem => skipped ("unreadable: " ++ problem.message)
  | .ok _ =>
    if language = none then ⟨path, none, [], none⟩
    else
      match scanner.files.refusals.measuring path with
      | some cause => skipped ("unreadable: " ++ FileError.message ⟨cause, path⟩)
      | none =>
        if scanner.config.largestFile < scanner.files.octets path then skipped "file too large"
        else
          match scanner.files.readText path with
          | .error problem => skipped ("unreadable: " ++ problem.message)
          | .ok _ =>
            ⟨path, language, ((scanner.registry.extractFile scanner.files path
              (some scanner.projectName)).1.toOption).getD [], none⟩

/-! ## The visits -/

/-- The visit of a path, with the problem of asking for it. -/
def visitAt (scanner : Scanner) (path : Path) : Visit :=
  ⟨path, match scanner.files.isFile path with
    | .error problem => some problem
    | .ok _ => none⟩

/-- What is visited is a file, or cannot be asked whether it is one. -/
theorem visitOf?_eq_some {names : List String} {v : Visit} :
    scanner.visitOf? names = some v ↔ v = scanner.visitAt (scanner.config.root.join names) ∧
      (scanner.files.isFile (scanner.config.root.join names) = .ok true ∨
        ∃ problem, scanner.files.isFile (scanner.config.root.join names) = .error problem) := by
  unfold visitOf? visitAt
  dsimp only
  obtain problem | isFile := scanner.files.isFile (scanner.config.root.join names)
  · rw [Option.some_inj]
    exact ⟨fun h => ⟨h.symm, Or.inr ⟨problem, rfl⟩⟩, fun h => h.1.symm⟩
  · cases isFile with
    | true =>
      rw [Option.some_inj]
      exact ⟨fun h => ⟨h.symm, Or.inl rfl⟩, fun h => h.1.symm⟩
    | false =>
      constructor
      · intro h
        cases h
      · rintro ⟨-, h | ⟨_, h⟩⟩
        · cases h
        · cases h

/-- No pattern selects any of the names that are kept. -/
theorem not_skips_iff {names : List String} : (!scanner.config.skips names) = true ↔
    ∀ name ∈ names, ∀ pattern ∈ scanner.config.skipPatterns, globMatches pattern name = false := by
  simp [ScanConfig.skips]

/-- Where the walk goes through, names that it comes to are visited unless they
are passed over. -/
theorem visits_eq_ok {visits : List Visit} (h : scanner.visits = .ok visits) :
    ∃ listed, scanner.files.walk scanner.config.root = .ok listed ∧
      visits = (listed.filter (!scanner.config.skips ·)).filterMap scanner.visitOf? := by
  obtain ⟨listed, hlisted, rfl⟩ := map_eq_ok.mp h
  exact ⟨listed, hlisted, rfl⟩

/-- A visit is the visit of its path. -/
theorem eq_visitAt_of_mem {visits : List Visit} (h : scanner.visits = .ok visits) {v : Visit}
    (hv : v ∈ visits) : v = scanner.visitAt v.path ∧ scanner.IsVisited v.path := by
  obtain ⟨listed, hlisted, rfl⟩ := visits_eq_ok h
  obtain ⟨names, hnames, hvisit⟩ := List.mem_filterMap.mp hv
  obtain ⟨hbelow, hkept⟩ := List.mem_filter.mp hnames
  obtain ⟨hroot, below, hwalks⟩ := ((FileTree.walk_eq_ok hlisted).2 names).mp hbelow
  obtain ⟨rfl, hfile⟩ := visitOf?_eq_some.mp hvisit
  exact ⟨rfl, hroot, names, below, rfl, hwalks, not_skips_iff.mp hkept, hfile⟩

/-- What is to be visited has a visit. -/
theorem mem_visits_of_isVisited {visits : List Visit} (h : scanner.visits = .ok visits)
    {path : Path} (hpath : scanner.IsVisited path) : scanner.visitAt path ∈ visits := by
  obtain ⟨hroot, names, below, rfl, hwalks, hskip, hfile⟩ := hpath
  obtain ⟨listed, hlisted, rfl⟩ := visits_eq_ok h
  refine List.mem_filterMap.mpr ⟨names, ?_, visitOf?_eq_some.mpr ⟨rfl, hfile⟩⟩
  have hmem := ((FileTree.walk_eq_ok hlisted).2 names).mpr ⟨hroot, below, hwalks⟩
  exact List.mem_filter.mpr ⟨hmem, not_skips_iff.mpr hskip⟩

/-- Two lists with the same beginning are in the order of what follows. -/
theorem append_lt_append {beginning a b : List String} (h : a < b) :
    beginning ++ a < beginning ++ b := by
  induction beginning with
  | nil => exact h
  | cons name beginning ih => exact List.cons_lt_cons_iff.mpr (Or.inr ⟨rfl, ih⟩)

/-- The parts of paths below a root are in the order of the names. -/
theorem parts_join_lt (root : Path) {a b : List String} (h : a < b) :
    (root.join a).parts < (root.join b).parts := by
  have hnames : root.names ++ a < root.names ++ b := append_lt_append h
  unfold Path.parts Path.join
  cases root.root with
  | relative => exact hnames
  | absolute | doubleSlash => exact List.cons_lt_cons_iff.mpr (Or.inr ⟨rfl, hnames⟩)

/-- **The paths are visited in the order of their parts**, each once. -/
theorem pairwise_visits {visits : List Visit} (h : scanner.visits = .ok visits) :
    (visits.map (·.path.parts)).Pairwise (· < ·) := by
  obtain ⟨listed, hlisted, rfl⟩ := visits_eq_ok h
  rw [List.pairwise_map]
  refine List.pairwise_filterMap.mpr ?_
  -- leaving names out and putting the root in front keeps the order
  refine ((FileTree.walk_eq_ok hlisted).1.filter _).imp ?_
  intro a b hlt v hv w hw
  obtain ⟨rfl, -⟩ := visitOf?_eq_some.mp hv
  obtain ⟨rfl, -⟩ := visitOf?_eq_some.mp hw
  exact parts_join_lt _ hlt

/-! ## The events -/

/-- A path that is visited and can be asked leads to a file. -/
theorem exists_entry_of_isFile {files : FileTree} {path : Path} (h : files.isFile path = .ok true) :
    ∃ content, files.entry path = .ok (.file content) := by
  obtain ⟨-, entry, hentry, hfile⟩ := FileTree.ask_eq_true_iff.mp h
  cases entry with
  | file content => exact ⟨content, hentry⟩
  | folder entries => cases hfile

/-- **The event of a visit is the one expected of its path.** -/
theorem eventOf_visitAt {path : Path} (h : scanner.IsVisited path) :
    scanner.eventOf (scanner.visitAt path) = scanner.expected path := by
  obtain ⟨-, _, _, -, -, -, hfile⟩ := h
  unfold eventOf obstacleOf? visitAt expected
  obtain hfile | ⟨problem, hfile⟩ := hfile
  · obtain ⟨content, hentry⟩ := exists_entry_of_isFile hfile
    have hsize : scanner.files.size path = match scanner.files.refusals.measuring path with
        | some cause => .error ⟨cause, path⟩
        | none => .ok (scanner.files.octets path) := by
      unfold FileTree.size FileTree.access FileTree.octets
      rw [hentry]
      cases scanner.files.refusals.measuring path <;> rfl
    rw [hfile]
    dsimp only
    unfold obstacle?
    cases hlanguage : detectLanguage path.name with
    | none =>
      dsimp only
      rw [if_pos rfl]
      unfold extracted Registry.extractFile
      rw [hlanguage]
      rfl
    | some language =>
      dsimp only
      rw [if_neg (Option.some_ne_none language), hsize]
      cases scanner.files.refusals.measuring path with
      | some cause => rfl
      | none =>
        dsimp only
        by_cases hlarge : scanner.config.largestFile < (scanner.files.octets path : Int)
        · rw [if_pos hlarge, if_pos hlarge]
        · rw [if_neg hlarge, if_neg hlarge]
          cases scanner.files.readText path with
          | error problem => rfl
          | ok text => rfl
  · rw [hfile]
    rfl

/-- The events of all visits are those expected of their paths. -/
theorem map_eventOf_visits {visits : List Visit} (h : scanner.visits = .ok visits) :
    visits.map scanner.eventOf = (visits.map (·.path)).map scanner.expected := by
  rw [List.map_map]
  refine List.map_congr_left fun v hv => ?_
  obtain ⟨hvisit, hvisited⟩ := eq_visitAt_of_mem h hv
  rw [hvisit]
  exact eventOf_visitAt hvisited

/-! ## The scan -/

/-- **A scan that nobody cancels gives what is expected of some paths.** The paths
are exactly those to visit, in the order of their parts, each once; functions and
skipped files are those of the events in that order; every path counts; and the
warnings are one for each skipped file. -/
structure GivesExpected (scanner : Scanner) (paths : List Path) : Prop where
  sorted : (paths.map (·.parts)).Pairwise (· < ·)
  visited : ∀ path, path ∈ paths ↔ scanner.IsVisited path
  events : (scanner.scan none).events = paths.map scanner.expected
  result : (scanner.scan none).result = .ok {
    root := scanner.config.root
    functions := paths.flatMap fun path => (scanner.expected path).functions
    skipped := paths.filterMap fun path => (scanner.expected path).skipped
    filesScanned := paths.length
    cancelled := false }
  warnings : (scanner.scan none).notices.filter (·.level.isWarning)
    = (paths.filterMap fun path => (scanner.expected path).skipped).map
      (fun s => Notice.skipping s.path s.reason)

/-- **What a scan gives is told by its paths**, if its walk is not barred and
extraction is quiet at those that are files. Where the walk is barred, the scan
fails without an event, with the error that the walk ends in. A file in no known
language is never looked into. -/
theorem scan_eq_expected {scanner : Scanner}
    (hquiet : ∀ path, scanner.IsVisited path → scanner.files.isFile path = .ok true →
      scanner.QuietAt path) :
    (¬ scanner.files.IsBarred scanner.config.root → ∃ paths, scanner.GivesExpected paths) ∧
    (scanner.files.IsBarred scanner.config.root → ∃ error,
      scanner.files.walk scanner.config.root = .error error ∧
      scanner.scan none = ⟨.error (.walk error), [], [.scanning scanner.config.root]⟩) ∧
    ∀ path, detectLanguage path.name = none → ∀ files : FileTree,
      Scanner.scanFile { scanner with files } path = scanner.scanFile path := by
  refine ⟨fun hopen => ?_, fun hbarred => ?_, fun path hlanguage files => ?_⟩
  · obtain ⟨visits, hvisits⟩ := exists_visits_iff.mpr hopen
    have hfiles : ∀ v ∈ visits, v.problem = none → scanner.QuietAt v.path := by
      intro v hv hproblem
      obtain ⟨hvisit, hvisited⟩ := eq_visitAt_of_mem hvisits hv
      refine hquiet v.path hvisited ?_
      obtain ⟨-, _, _, -, -, -, hfile | ⟨problem, hfile⟩⟩ := id hvisited
      · exact hfile
      · rw [hvisit, visitAt, hfile] at hproblem
        cases hproblem
    obtain ⟨hevents, hresult, hwarnings⟩ := scan_eq none hvisits hfiles
    rw [delivered, map_eventOf_visits hvisits] at hevents hresult hwarnings
    refine ⟨visits.map (·.path), ?_, ?_, hevents, ?_, ?_⟩
    · rw [List.map_map]
      exact pairwise_visits hvisits
    · intro path
      constructor
      · intro hpath
        obtain ⟨v, hv, rfl⟩ := List.mem_map.mp hpath
        exact (eq_visitAt_of_mem hvisits hv).2
      · intro hvisited
        exact List.mem_map.mpr ⟨_, mem_visits_of_isVisited hvisits hvisited, rfl⟩
    · rw [hresult, ScanResult.ofEvents, List.flatMap_map, List.filterMap_map, List.length_map]
      rfl
    · rw [hwarnings, warningsOf, List.filterMap_map]
      rfl
  · obtain ⟨error, hvisits, hscan⟩ := scan_of_isBarred hbarred
    exact ⟨error, visits_eq_error_iff.mp hvisits, (hscan none).2⟩
  · unfold scanFile
    rw [hlanguage]

/-- A folder with a file in Python and one that a pattern selects. -/
def smallProject : Scanner where
  files := ⟨.folder [("p", .folder [("b.py", .file ⟨#[0x64]⟩), ("a.log", .file ⟨#[]⟩)])],
    [], .empty⟩
  config := { root := ⟨.relative, ["p"]⟩, skipPatterns := ["*.log"] }
  registry := .builtin

theorem isVisited_smallProject : smallProject.IsVisited ⟨.relative, ["p", "b.py"]⟩ := by
  refine ⟨rfl, ["b.py"], _, rfl, ⟨List.cons_ne_nil _ _, ⟨_, rfl, rfl⟩, fun _ _ _ => rfl⟩, ?_,
    Or.inl rfl⟩
  intro name hname pattern hpattern
  cases List.mem_singleton.mp hname
  cases List.mem_singleton.mp hpattern
  cbv

/-- The file in Python has its event. -/
theorem expected_mem_smallProject :
    ∃ paths : List Path, (⟨.relative, ["p", "b.py"]⟩ : Path) ∈ paths ∧
      (smallProject.scan none).events = paths.map smallProject.expected := by
  obtain ⟨hopen, -⟩ := @scan_eq_expected smallProject fun path _ _ =>
    quietAt_of_opensBlocks Registry.opensBlocks_builtin path
  obtain ⟨paths, hpaths⟩ := hopen (FileTree.not_isBarred rfl fun _ => rfl)
  exact ⟨paths, (hpaths.visited _).mpr isVisited_smallProject, hpaths.events⟩

/-- **Not every scan gives what is expected**, although extraction is quiet. -/
theorem not_forall_scan_eq_expected : ¬ ∀ scanner : Scanner,
    (∀ path, scanner.IsVisited path → scanner.files.isFile path = .ok true →
      scanner.QuietAt path) →
    ∃ paths, scanner.GivesExpected paths := by
  intro h
  obtain ⟨paths, hpaths⟩ := h overlong fun path _ _ =>
    quietAt_of_opensBlocks Registry.opensBlocks_builtin path
  exact result_overlong none _ hpaths.result

end Scanner

end SourceLens
