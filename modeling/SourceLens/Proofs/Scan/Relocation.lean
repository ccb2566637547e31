import Mathlib
import SourceLens.Proofs.Except
import SourceLens.Proofs.Files.Places
import SourceLens.Proofs.Scan.Cancelling
import SourceLens.Proofs.Scan.Visits

/-!
# A project in another place

A scan asks its root for nothing but what is below it. So the same project can
lie anywhere – in the working directory, in a folder that a pattern selects, at
the end of a path with double dots – and a scan finds the same in it, in the
same order (`Scanner.scan_relocated`). What it finds is told without the root
(`Finding`); the root comes in where a path is shown (`Finding.event`).

Two scanners have one project (`Scanner.SameProject`) if their trees are alike
below the roots and the same is refused of what the same names lead to. What is
refused above and beside the roots does not count. The walks of the two are
barred together; and if they are not, they see the same names below their roots,
whatever order their folders list them in, since the list is sorted. At each name
they do the same (`Scanner.SameVisit`), and so along the list, as far as the scan
goes.

The list ascends by the first name that differs. Whatever lies between two paths
below a folder is below it as well (`prefix_of_between`), so a scan never leaves
a folder to come back to it, even where a name of a file sorts between the name
of a folder and the paths in it, as the string `a-b` does between `a` and
`a/c`.
-/

namespace SourceLens

/-! ## Blocks -/

section Blocks

variable {α : Type} {P : α → Prop} {R : α → α → Prop}

/-- **The items with a property form one block** of a list: they stand next to
each other. -/
def InOneBlock (P : α → Prop) (items : List α) : Prop :=
  ∃ before block after, items = before ++ (block ++ after) ∧ (∀ item ∈ block, P item) ∧
    (∀ item ∈ before, ¬ P item) ∧ (∀ item ∈ after, ¬ P item)

/-- Behind an item of a block, the block goes on and ends. -/
theorem exists_block_behind (hbetween : ∀ a b c, R a b → R b c → P a → P c → P b) {first : α}
    (hfirst : P first) {items : List α} (h : (first :: items).Pairwise R) :
    ∃ block after, items = block ++ after ∧ (∀ item ∈ block, P item) ∧
      ∀ item ∈ after, ¬ P item := by
  induction items generalizing first with
  | nil => exact ⟨[], [], rfl, by simp, by simp⟩
  | cons second items ih =>
    obtain ⟨hbehind, hlater⟩ := List.pairwise_cons.mp h
    by_cases hsecond : P second
    · obtain ⟨block, after, rfl, hblock, hafter⟩ := ih hsecond hlater
      exact ⟨second :: block, after, rfl, List.forall_mem_cons.mpr ⟨hsecond, hblock⟩, hafter⟩
    · refine ⟨[], second :: items, rfl, by simp, List.forall_mem_cons.mpr ⟨hsecond, ?_⟩⟩
      -- the second item would be in the block with a later one
      intro item hitem hP
      exact hsecond (hbetween first second item (hbehind second List.mem_cons_self)
        ((List.pairwise_cons.mp hlater).1 item hitem) hfirst hP)

/-- **Items in order form a block** if what is between two of them belongs to
it. -/
theorem inOneBlock_of_pairwise (hbetween : ∀ a b c, R a b → R b c → P a → P c → P b)
    {items : List α} (h : items.Pairwise R) : InOneBlock P items := by
  induction items with
  | nil => exact ⟨[], [], [], rfl, by simp, by simp, by simp⟩
  | cons first items ih =>
    by_cases hfirst : P first
    · obtain ⟨block, after, rfl, hblock, hafter⟩ := exists_block_behind hbetween hfirst h
      exact ⟨[], first :: block, after, rfl, List.forall_mem_cons.mpr ⟨hfirst, hblock⟩, by simp,
        hafter⟩
    · obtain ⟨before, block, after, rfl, hblock, hbefore, hafter⟩ := ih h.of_cons
      exact ⟨first :: before, block, after, rfl, hblock,
        List.forall_mem_cons.mpr ⟨hfirst, hbefore⟩, hafter⟩

end Blocks

/-- **What is between two lists with one front has this front.** -/
theorem prefix_of_between {front a b c : List String} (hab : a < b) (hbc : b < c)
    (ha : front <+: a) (hc : front <+: c) : front <+: b := by
  induction front generalizing a b c with
  | nil => exact List.nil_prefix
  | cons name front ih =>
    obtain ⟨a', rfl⟩ := ha
    obtain ⟨c', rfl⟩ := hc
    cases b with
    | nil => cases hab
    | cons first b =>
      rw [List.cons_append, List.cons_lt_cons_iff] at hab hbc
      obtain hlt | ⟨rfl, hab⟩ := hab
      · obtain hgt | ⟨rfl, -⟩ := hbc
        · exact absurd hgt (lt_asymm hlt)
        · exact absurd hlt (lt_irrefl _)
      · obtain hlt | ⟨-, hbc⟩ := hbc
        · exact absurd hlt (lt_irrefl _)
        · exact List.cons_prefix_cons.mpr ⟨rfl, ih hab hbc (List.prefix_append _ _)
            (List.prefix_append _ _)⟩

/-! ## Paths below a root -/

namespace Path

/-- **A path is below a folder**, or is the folder: its parts go on from those
of the folder. -/
def IsBelow (folder path : Path) : Prop :=
  folder.parts <+: path.parts

/-- What the string of a path below a root starts with. -/
def front (root : Path) : String :=
  if root.names.isEmpty then root.root.text
  else root.root.text ++ ("/".intercalate root.names ++ "/")

/-- Below a root, a path is called by the names below the root. -/
theorem name_join (root : Path) {names : List String} (h : names ≠ []) :
    (root.join names).name = names.getLastD "" := by
  unfold name join
  rw [List.getLastD_eq_getLast?, List.getLastD_eq_getLast?, List.getLast?_append_of_ne_nil _ h]

theorem intercalate_append (separator : String) {first second : List String} (hfirst : first ≠ [])
    (hsecond : second ≠ []) : separator.intercalate (first ++ second)
      = separator.intercalate first ++ separator ++ separator.intercalate second := by
  induction first with
  | nil => exact absurd rfl hfirst
  | cons name first ih =>
    cases first with
    | nil =>
      obtain ⟨other, second, rfl⟩ := List.exists_cons_of_ne_nil hsecond
      rw [List.cons_append, List.nil_append, String.intercalate_cons_cons,
        String.intercalate_singleton]
    | cons other first =>
      have hlater := ih (List.cons_ne_nil _ _)
      rw [List.cons_append] at hlater
      rw [List.cons_append, List.cons_append, String.intercalate_cons_cons, hlater,
        String.intercalate_cons_cons]
      simp only [String.append_assoc]

/-- **The string of a path below a root** is the root in front of the names with
slashes between them. -/
theorem text_join (root : Path) {names : List String} (h : names ≠ []) :
    (root.join names).text = root.front ++ "/".intercalate names := by
  have hnames : (root.join names).names.isEmpty = false := by
    simp [join, h]
  unfold text front
  rw [hnames, Bool.and_false, if_neg Bool.false_ne_true]
  unfold join
  dsimp only
  split
  · rename_i hroot
    rw [List.isEmpty_iff.mp hroot, List.nil_append]
  · rename_i hroot
    rw [intercalate_append "/" (mt List.isEmpty_iff.mpr hroot) h]
    simp only [String.append_assoc]

end Path

/-! ## Trees that are alike -/

namespace Entry

/-- The content, if it is a file. -/
def content? : Entry → Option ByteArray
  | .file content => some content
  | .folder _ => none

/-- **Two entries are alike**: the same names lead on from them, to files of one
content or to folders. The order in which folders list their entries does not
count. -/
def Alike (a b : Entry) : Prop :=
  ∀ names, (a.at? names).map content? = (b.at? names).map content?

/-- **Names lead down**: nothing is called by the two dots that lead to the
folder above. No file system has such an entry. -/
def LeadsDown (entry : Entry) : Prop :=
  ∀ names below, entry.at? names = some below → ".." ∉ names

variable {a b : Entry} {names : List String}

/-- Where the one leads, the other leads to the same. -/
theorem Alike.exists_at? (h : a.Alike b) {below : Entry} (ha : a.at? names = some below) :
    ∃ below', b.at? names = some below' ∧ below.content? = below'.content? := by
  have hcontent := h names
  rw [ha, Option.map_some] at hcontent
  obtain ⟨below', hb, heq⟩ := Option.map_eq_some_iff.mp hcontent.symm
  exact ⟨below', hb, heq.symm⟩

theorem Alike.symm (h : a.Alike b) : b.Alike a :=
  fun names => (h names).symm

theorem Alike.leadsDown (h : a.Alike b) (hdown : a.LeadsDown) : b.LeadsDown := by
  intro names below hat
  obtain ⟨below', hat', -⟩ := h.symm.exists_at? hat
  exact hdown names below' hat'

/-- Something is a file if it has a content. -/
theorem isFile_eq (entry : Entry) : entry.isFile = entry.content?.isSome := by
  cases entry <;> rfl

/-- On the way to something, something is there. -/
theorem exists_at?_of_isPrefix {below : Entry} (h : a.at? names = some below)
    {front : List String} (hfront : front <+: names) : ∃ passed, a.at? front = some passed := by
  obtain ⟨rest, rfl⟩ := hfront
  rw [at?_append] at h
  obtain ⟨passed, hpassed, -⟩ := Option.bind_eq_some_iff.mp h
  exact ⟨passed, hpassed⟩

/-- Folders with the same entries are alike. -/
theorem alike_of_lookup {entries entries' : List (String × Entry)}
    (h : ∀ name, entries.lookup name = entries'.lookup name) :
    (folder entries).Alike (folder entries') := by
  intro names
  cases names with
  | nil => rfl
  | cons name names => rw [at?, at?, entry?, entry?, h]

end Entry

namespace FileTree

variable {files : FileTree} {root : Path} {entry : Entry} {names : List String}

/-- Names that lead down are followed to where they lead. -/
theorem follow_of_at? {path : Path} {above : List Entry} {below : Entry} (hup : ".." ∉ names)
    (h : entry.at? names = some below) : follow path above entry names = .ok below := by
  induction names generalizing above entry with
  | nil =>
    cases h
    rfl
  | cons name names ih =>
    rw [List.mem_cons, not_or] at hup
    rw [Entry.at?] at h
    obtain ⟨next, hnext, hat⟩ := Option.bind_eq_some_iff.mp h
    cases entry with
    | file content => cases hnext
    | folder entries =>
      rw [follow_down path entries names (Ne.symm hup.1), show entries.lookup name = _ from hnext]
      exact ih hup.2 hat

/-- **Below a root, names lead where they lead from its entry.** -/
theorem entry_join_of_at? (hroot : files.entry root = .ok entry) (hdown : entry.LeadsDown)
    {below : Entry} (h : entry.at? names = some below) :
    files.entry (root.join names) = .ok below := by
  obtain ⟨above, -, hmore⟩ := exists_reached hroot
  rw [hmore]
  exact follow_of_at? (hdown names below h) h

end FileTree

/-! ## Findings -/

/-- Why a file is skipped: access is refused, or it is too large. -/
inductive Obstacle where
  | refused (cause : SystemError)
  | tooLarge
  deriving DecidableEq, Repr

/-- The reason that is shown for a path. -/
def Obstacle.reason (path : Path) : Obstacle → String
  | .refused cause => Scanner.unreadable ⟨cause, path⟩
  | .tooLarge => "file too large"

/-- **What a scan finds in a file**, told without the root: the names that lead
to the file, its language, its functions as they would be found from the root,
and what keeps it from being processed. -/
structure Finding where
  names : List String
  language : Option String
  functions : List ExtractedFunction
  obstacle : Option Obstacle
  deriving DecidableEq, Repr

namespace Finding

/-- **The event of a finding** below a root. The root shows in the paths: of the
file, of its functions, and of what is skipped. -/
def event (root : Path) (finding : Finding) : FileEvent where
  path := root.join finding.names
  language := finding.language
  functions := finding.functions.map fun f => { f with source := root.join finding.names }
  skipped := finding.obstacle.map fun obstacle =>
    ⟨root.join finding.names, obstacle.reason (root.join finding.names)⟩

end Finding

/-- The functions of a text are those found from the root, with another
source. -/
theorem Registry.extract_join (registry : Registry) (text : Text) (language : Option String)
    {project : String} (hproject : project ≠ "") (root : Path) {names : List String}
    (hnames : names ≠ []) :
    (registry.extract text language (.of (root.join names) (some project))).1
      = (registry.extract text language (.of ⟨.relative, names⟩ (some project))).1.map
          (List.map fun f => { f with source := root.join names }) := by
  have hname : (root.join names).name = (⟨.relative, names⟩ : Path).name :=
    Path.name_join root hnames
  have hfile (path : Path) : SourceFile.of path (some project) = ⟨path, project⟩ := by
    unfold SourceFile.of
    dsimp only
    rw [String.isEmpty_eq_false_iff.mpr hproject, if_neg Bool.false_ne_true]
  rw [hfile, hfile]
  unfold extract Rule.functionsIn
  cases registry.get? language with
  | none => rfl
  | some rule =>
    dsimp only
    cases rule.functions with
    | none => rfl
    | some functions =>
      dsimp only
      cases Function.find functions.style functions.header text with
      | error failure => rfl
      | ok found => simp [Except.map, hname]

namespace Scanner

/-! ## One file -/

/-- **What a scan finds in a file of some content**, told without the root. -/
def findingAt (scanner : Scanner) (names : List String) (content : ByteArray) :
    Except NoOpeningBrace Finding :=
  let path := scanner.config.root.join names
  match detectLanguage (names.getLastD "") with
  | none => .ok ⟨names, none, [], none⟩
  | some language =>
    match scanner.files.refusals.measuring path with
    | some cause => .ok ⟨names, some language, [], some (.refused cause)⟩
    | none =>
      if scanner.config.largestFile < content.size then
        .ok ⟨names, some language, [], some .tooLarge⟩
      else
        match scanner.files.refusals.reading path with
        | some cause => .ok ⟨names, some language, [], some (.refused cause)⟩
        | none =>
          (scanner.registry.extract (.ofOctets content) (some language)
            (.of ⟨.relative, names⟩ (some scanner.projectName))).1.map fun functions =>
              ⟨names, some language, functions, none⟩

variable {scanner here there : Scanner} {names : List String}

theorem names_of_findingAt {content : ByteArray} {finding : Finding}
    (h : scanner.findingAt names content = .ok finding) : finding.names = names := by
  unfold findingAt at h
  dsimp only at h
  split at h
  · cases h
    rfl
  · split at h
    · cases h
      rfl
    · split at h
      · cases h
        rfl
      · split at h
        · cases h
          rfl
        · obtain ⟨functions, -, rfl⟩ := map_eq_ok.mp h
          rfl

/-- A project has a name. -/
theorem projectName_ne_empty (scanner : Scanner) : scanner.projectName ≠ "" := by
  have hfolder : ∀ folder : String, (if folder.isEmpty then "project" else folder) ≠ "" := by
    intro folder
    split
    · decide
    · rename_i hfolder
      exact fun heq => hfolder (heq ▸ rfl)
  unfold projectName ScanConfig.resolvedName
  dsimp only
  split
  · rename_i name _
    split
    · exact hfolder _
    · rename_i hname
      exact fun heq => hname (heq ▸ rfl)
  · exact hfolder _

/-- A project is called as it is asked to be, wherever it lies. -/
theorem projectName_of_explicit {name : String} (h : scanner.config.projectName = some name)
    (hname : name ≠ "") : scanner.projectName = name := by
  unfold projectName ScanConfig.resolvedName
  rw [h]
  exact if_neg (mt String.isEmpty_iff.mp hname)

/-- The event of a file that is skipped is that of a finding. -/
theorem skip_join (root : Path) (hnames : names ≠ []) (obstacle : Obstacle) :
    (skip (root.join names) (obstacle.reason (root.join names))).1
      = Finding.event root ⟨names, detectLanguage (names.getLastD ""), [], some obstacle⟩ := by
  unfold skip Finding.event
  rw [Path.name_join root hnames]
  dsimp only
  rw [List.map_nil, Option.map_some]

/-- **A file is scanned without regard to the root**, but for the paths that
are shown. -/
theorem scanFile_join (hnames : names ≠ []) {content : ByteArray}
    (h : scanner.files.entry (scanner.config.root.join names) = .ok (.file content)) :
    (scanner.scanFile (scanner.config.root.join names)).1
      = (scanner.findingAt names content).map (·.event scanner.config.root) := by
  have hname := Path.name_join scanner.config.root hnames
  unfold scanFile findingAt
  rw [hname]
  cases hlanguage : detectLanguage (names.getLastD "") with
  | none => rfl
  | some language =>
    have hskip := skip_join scanner.config.root hnames
    rw [hlanguage] at hskip
    unfold FileTree.size FileTree.readText FileTree.readOctets FileTree.access
    rw [h]
    dsimp only
    cases scanner.files.refusals.measuring (scanner.config.root.join names) with
    | some cause => exact congrArg Except.ok (hskip (.refused cause))
    | none =>
      dsimp only [Except.map, Entry.size]
      by_cases hlarge : scanner.config.largestFile < (content.size : Int)
      · rw [if_pos hlarge, if_pos hlarge]
        exact congrArg Except.ok (hskip .tooLarge)
      · rw [if_neg hlarge, if_neg hlarge]
        cases scanner.files.refusals.reading (scanner.config.root.join names) with
        | some cause => exact congrArg Except.ok (hskip (.refused cause))
        | none =>
          dsimp only
          rw [scanner.registry.extract_join _ _ scanner.projectName_ne_empty _ hnames]
          generalize (scanner.registry.extract (.ofOctets content) (some language)
            (.of ⟨.relative, names⟩ (some scanner.projectName))).1 = found
          cases found <;> rfl

/-! ## One project -/

/-- **The same is refused** of what some names lead to from two roots. -/
structure SameRefusals (here there : Scanner) (names : List String) : Prop where
  asking : here.files.refusals.asking (here.config.root.join names)
    = there.files.refusals.asking (there.config.root.join names)
  measuring : here.files.refusals.measuring (here.config.root.join names)
    = there.files.refusals.measuring (there.config.root.join names)
  reading : here.files.refusals.reading (here.config.root.join names)
    = there.files.refusals.reading (there.config.root.join names)
  listing : here.files.refusals.listing (here.config.root.join names)
    = there.files.refusals.listing (there.config.root.join names)

/-- **Two scanners have one project**: their roots lead to trees that are alike,
in which the same is refused, path by path, and they ask for the same. -/
structure SameProject (here there : Scanner) : Prop where
  tree : ∃ entry entry', here.files.entry here.config.root = .ok entry ∧
    there.files.entry there.config.root = .ok entry' ∧ entry.Alike entry' ∧ entry.LeadsDown
  entering : here.files.refusals.entering here.config.root
    = there.files.refusals.entering there.config.root
  refusals : ∀ entry names below, here.files.entry here.config.root = .ok entry →
    entry.at? names = some below → here.SameRefusals there names
  skipPatterns : here.config.skipPatterns = there.config.skipPatterns
  largestFile : here.config.largestFile = there.config.largestFile
  registry : here.registry = there.registry
  projectName : here.projectName = there.projectName

/-- Names that lead to something are visited if asking for it is refused, and not
since nothing is there, or if they lead to a file. -/
theorem visitOf?_join {below : Entry}
    (h : scanner.files.entry (scanner.config.root.join names) = .ok below) :
    scanner.visitOf? names
      = match scanner.files.refusals.asking (scanner.config.root.join names) with
        | some cause =>
          if cause.meansAbsence then none
          else some ⟨scanner.config.root.join names, some ⟨cause, scanner.config.root.join names⟩⟩
        | none => below.content?.map fun _ => ⟨scanner.config.root.join names, none⟩ := by
  unfold visitOf? FileTree.isFile FileTree.ask FileTree.access
  dsimp only
  rw [h]
  cases scanner.files.refusals.asking (scanner.config.root.join names) with
  | none => cases below <;> rfl
  | some cause =>
    dsimp only
    cases cause.meansAbsence <;> rfl

/-- What asking is refused for has the event of a finding. -/
theorem visit_refused (hnames : names ≠ []) (cause : SystemError) :
    (scanner.visit ⟨scanner.config.root.join names,
        some ⟨cause, scanner.config.root.join names⟩⟩).1
      = .ok (Finding.event scanner.config.root
          ⟨names, detectLanguage (names.getLastD ""), [], some (.refused cause)⟩) :=
  congrArg Except.ok (skip_join scanner.config.root hnames (.refused cause))

/-- A file that is visited has the event of what is found in it. -/
theorem visit_file (hnames : names ≠ []) {content : ByteArray}
    (h : scanner.files.entry (scanner.config.root.join names) = .ok (.file content)) :
    (scanner.visit ⟨scanner.config.root.join names, none⟩).1
      = (scanner.findingAt names content).map (·.event scanner.config.root) := by
  rw [← scanFile_join hnames h]
  rfl

/-- **Two visits of some names are the same**, but for the root: they are of the
path below it, and either fail in the same way or have the event of one
finding. -/
structure SameVisit (here there : Scanner) (names : List String) (v w : Visit) : Prop where
  path : v.path = here.config.root.join names ∧ w.path = there.config.root.join names
  outcome : ∃ outcome : Except NoOpeningBrace Finding,
    (∀ finding, outcome = .ok finding → finding.names = names) ∧
    (here.visit v).1 = outcome.map (·.event here.config.root) ∧
    (there.visit w).1 = outcome.map (·.event there.config.root)

namespace SameProject

/-- What is found in a file does not depend on where the project lies. -/
theorem findingAt_eq (h : here.SameProject there) (hrefusals : here.SameRefusals there names)
    (content : ByteArray) : here.findingAt names content = there.findingAt names content := by
  unfold findingAt
  dsimp only
  rw [hrefusals.measuring, hrefusals.reading, h.largestFile, h.registry, h.projectName]

/-- One project is one project from either side. -/
theorem symm (h : here.SameProject there) : there.SameProject here where
  tree := by
    obtain ⟨entry, entry', hentry, hentry', halike, hdown⟩ := h.tree
    exact ⟨entry', entry, hentry', hentry, halike.symm, halike.leadsDown hdown⟩
  entering := h.entering.symm
  refusals := by
    intro root names below hroot hat
    obtain ⟨entry, _, hentry, hentry', halike, -⟩ := h.tree
    cases hentry'.symm.trans hroot
    obtain ⟨_, hat', -⟩ := halike.symm.exists_at? hat
    have hsame := h.refusals entry names _ hentry hat'
    exact ⟨hsame.asking.symm, hsame.measuring.symm, hsame.reading.symm, hsame.listing.symm⟩
  skipPatterns := h.skipPatterns.symm
  largestFile := h.largestFile.symm
  registry := h.registry.symm
  projectName := h.projectName.symm

/-- Where the walk from the one root comes, the walk from the other comes to the
same. -/
theorem exists_walksTo (h : here.SameProject there) {below : Entry}
    (hwalks : here.files.WalksTo here.config.root names below) :
    ∃ below', there.files.WalksTo there.config.root names below' ∧
      below.content? = below'.content? := by
  obtain ⟨entry, entry', hentry, hentry', halike, -⟩ := h.tree
  obtain ⟨hne, ⟨_, hroot, hat⟩, hlisting⟩ := hwalks
  cases hentry.symm.trans hroot
  obtain ⟨below', hat', hcontent⟩ := halike.exists_at? hat
  refine ⟨below', ⟨hne, ⟨entry', hentry', hat'⟩, fun front hfront hother => ?_⟩, hcontent⟩
  obtain ⟨passed, hpassed⟩ := Entry.exists_at?_of_isPrefix hat hfront
  rw [← (h.refusals entry front passed hentry hpassed).listing]
  exact hlisting front hfront hother

theorem leadsToFolder (h : here.SameProject there)
    (hfolder : here.files.leadsToFolder here.config.root = .ok true) :
    there.files.leadsToFolder there.config.root = .ok true := by
  obtain ⟨hentering, root, hroot, hkind⟩ := FileTree.ask_eq_true_iff.mp hfolder
  obtain ⟨_, entry', hentry, hentry', halike, -⟩ := h.tree
  cases hentry.symm.trans hroot
  have hcontent : root.content? = entry'.content? := Option.some.inj (halike [])
  refine FileTree.ask_eq_true_iff.mpr ⟨h.entering ▸ hentering, entry', hentry', ?_⟩
  rw [Entry.isFile_eq, ← hcontent, ← Entry.isFile_eq]
  exact hkind

/-- What bars the one walk bars the other. -/
theorem isBarred (h : here.SameProject there) (hbarred : here.files.IsBarred here.config.root) :
    there.files.IsBarred there.config.root := by
  obtain ⟨cause, hcause, hpresent⟩ | ⟨hfolder, _, cause, hplace, hlisting, hdenial⟩ := hbarred
  · exact Or.inl ⟨cause, h.entering ▸ hcause, hpresent⟩
  · refine Or.inr ⟨h.leadsToFolder hfolder, ?_⟩
    obtain rfl | ⟨names, entries, hwalks, rfl⟩ := hplace
    · obtain ⟨entry, _, hentry, -⟩ := h.tree
      have hsame := (h.refusals entry [] entry hentry rfl).listing
      rw [Path.join_nil, Path.join_nil] at hsame
      exact ⟨_, cause, Or.inl rfl, hsame ▸ hlisting, hdenial⟩
    · obtain ⟨below, hwalks', hcontent⟩ := h.exists_walksTo hwalks
      obtain ⟨-, ⟨entry, hentry, hat⟩, -⟩ := hwalks
      have hsame := (h.refusals entry names _ hentry hat).listing
      cases below with
      | file content => cases hcontent
      | folder entries' =>
        exact ⟨_, cause, Or.inr ⟨names, entries', hwalks', rfl⟩, hsame ▸ hlisting, hdenial⟩

/-- **Walks that go through list the same names** in the same order. -/
theorem walk_eq (h : here.SameProject there) {listed listed' : List (List String)}
    (hwalk : here.files.walk here.config.root = .ok listed)
    (hwalk' : there.files.walk there.config.root = .ok listed') : listed = listed' := by
  obtain ⟨hordered, hlisted⟩ := FileTree.walk_eq_ok hwalk
  obtain ⟨hordered', hlisted'⟩ := FileTree.walk_eq_ok hwalk'
  refine hordered.eq_of_mem_iff hordered' fun names => ?_
  rw [hlisted, hlisted']
  constructor
  · rintro ⟨hfolder, below, hwalks⟩
    obtain ⟨below', hwalks', -⟩ := h.exists_walksTo hwalks
    exact ⟨h.leadsToFolder hfolder, below', hwalks'⟩
  · rintro ⟨hfolder, below, hwalks⟩
    obtain ⟨below', hwalks', -⟩ := h.symm.exists_walksTo hwalks
    exact ⟨h.symm.leadsToFolder hfolder, below', hwalks'⟩

/-- The same names are passed over. -/
theorem skips_eq (h : here.SameProject there) (names : List String) :
    here.config.skips names = there.config.skips names := by
  unfold ScanConfig.skips
  rw [h.skipPatterns]

/-- **Names that a walk comes to are visited in the same way** from both roots, or
from none. -/
theorem visitOf?_cases (h : here.SameProject there) {below : Entry}
    (hwalks : here.files.WalksTo here.config.root names below) :
    (here.visitOf? names = none ∧ there.visitOf? names = none) ∨
      ∃ v w, here.visitOf? names = some v ∧ there.visitOf? names = some w ∧
        here.SameVisit there names v w := by
  obtain ⟨entry, entry', hroot, hroot', halike, hdown⟩ := h.tree
  obtain ⟨hne, ⟨_, hentry, hat⟩, -⟩ := hwalks
  cases hroot.symm.trans hentry
  obtain ⟨below', hat', hcontent⟩ := halike.exists_at? hat
  have hrefusals := h.refusals entry names below hroot hat
  have hbelow := FileTree.entry_join_of_at? hroot hdown hat
  have hbelow' := FileTree.entry_join_of_at? hroot' (halike.leadsDown hdown) hat'
  rw [visitOf?_join hbelow, visitOf?_join hbelow', ← hrefusals.asking, ← hcontent]
  cases here.files.refusals.asking (here.config.root.join names) with
  | some cause =>
    dsimp only
    split
    · exact Or.inl ⟨rfl, rfl⟩
    · refine Or.inr ⟨_, _, rfl, rfl, ⟨rfl, rfl⟩, .ok _, ?_, visit_refused hne cause,
        visit_refused hne cause⟩
      rintro _ ⟨⟩
      rfl
  | none =>
    cases below with
    | folder entries => exact Or.inl ⟨rfl, rfl⟩
    | file content =>
      cases below' with
      | folder entries => cases hcontent
      | file content' =>
        cases hcontent
        have hthere := visit_file hne hbelow'
        rw [← h.findingAt_eq hrefusals] at hthere
        exact Or.inr ⟨_, _, rfl, rfl, ⟨rfl, rfl⟩, here.findingAt names content,
          fun _ => names_of_findingAt, visit_file hne hbelow, hthere⟩

end SameProject

/-! ## The visits -/

/-- **Visits are the same, one by one**, with the names that they are of. -/
inductive SameVisits (here there : Scanner) : List (List String) → List Visit → List Visit → Prop
  | nil : SameVisits here there [] [] []
  | cons {names : List String} {v w : Visit} {places : List (List String)} {vs ws : List Visit}
      (visit : here.SameVisit there names v w) (later : SameVisits here there places vs ws) :
      SameVisits here there (names :: places) (v :: vs) (w :: ws)

variable {places : List (List String)} {vs ws : List Visit}

/-- Names that are listed are visited in the same way, one after the other. -/
theorem SameProject.exists_sameVisits_of_listed (h : here.SameProject there)
    {listed : List (List String)}
    (hlisted : ∀ names ∈ listed, ∃ below,
      here.files.WalksTo here.config.root names below) :
    ∃ places, places.Sublist listed ∧ here.SameVisits there places
      (listed.filterMap here.visitOf?) (listed.filterMap there.visitOf?) := by
  induction listed with
  | nil => exact ⟨[], List.Sublist.refl _, .nil⟩
  | cons names listed ih =>
    obtain ⟨places, hplaces, hsame⟩ := ih fun other hother =>
      hlisted other (List.mem_cons_of_mem names hother)
    obtain ⟨below, hwalks⟩ := hlisted names List.mem_cons_self
    obtain ⟨hv, hw⟩ | ⟨v, w, hv, hw, hvisit⟩ := h.visitOf?_cases hwalks
    · rw [List.filterMap_cons_none hv, List.filterMap_cons_none hw]
      exact ⟨places, hplaces.cons names, hsame⟩
    · rw [List.filterMap_cons_some hv, List.filterMap_cons_some hw]
      exact ⟨names :: places, hplaces.cons_cons names, .cons hvisit hsame⟩

/-- **Some of the names that are listed are visited**, and the visits are the
same. -/
theorem SameProject.exists_sameVisits (h : here.SameProject there)
    (hopen : ¬ here.files.IsBarred here.config.root) :
    ∃ listed places vs ws, here.files.walk here.config.root = .ok listed ∧
      here.visits = .ok vs ∧ there.visits = .ok ws ∧ places.Sublist listed ∧
      here.SameVisits there places vs ws := by
  obtain ⟨vs, hvs⟩ := exists_visits_iff.mpr hopen
  obtain ⟨ws, hws⟩ := exists_visits_iff.mpr (mt h.symm.isBarred hopen)
  obtain ⟨listed, hlisted, rfl⟩ := visits_eq_ok hvs
  obtain ⟨listed', hlisted', rfl⟩ := visits_eq_ok hws
  cases h.walk_eq hlisted hlisted'
  rw [← funext h.skips_eq] at hws
  obtain ⟨places, hplaces, hsame⟩ := h.exists_sameVisits_of_listed fun names hnames =>
    (((FileTree.walk_eq_ok hlisted).2 names).mp (List.mem_of_mem_filter hnames)).2
  exact ⟨listed, places, _, _, hlisted, hvs, hws, hplaces.trans List.filter_sublist, hsame⟩

/-- The same visits are of the same names below the roots. -/
theorem SameVisits.map_path (h : here.SameVisits there places vs ws) :
    vs.map (·.path) = places.map here.config.root.join ∧
      ws.map (·.path) = places.map there.config.root.join := by
  induction h with
  | nil => exact ⟨rfl, rfl⟩
  | cons visit _ ih =>
    rw [List.map_cons, List.map_cons, List.map_cons, List.map_cons, ih.1, ih.2, visit.path.1,
      visit.path.2]
    exact ⟨rfl, rfl⟩

/-! ## The scan -/

/-- **The same visits have the same course**: the events of the same findings,
which come from the first so many of the visits, and the same end. -/
theorem SameVisits.exists_findings (h : here.SameVisits there places vs ws)
    (cancel : CancelAfter) (delivered : Nat) :
    ∃ findings : List Finding, findings.map (·.names) <+: places ∧
      (here.courseFrom cancel delivered vs).events
        = findings.map (·.event here.config.root) ∧
      (there.courseFrom cancel delivered ws).events
        = findings.map (·.event there.config.root) ∧
      (here.courseFrom cancel delivered vs).failure
        = (there.courseFrom cancel delivered ws).failure := by
  induction h generalizing delivered with
  | nil => exact ⟨[], List.prefix_rfl, rfl, rfl, rfl⟩
  | @cons names v w places vs ws visit later ih =>
    cases hrequested : requested cancel delivered with
    | true =>
      unfold courseFrom
      rw [hrequested]
      exact ⟨[], List.nil_prefix, rfl, rfl, rfl⟩
    | false =>
      obtain ⟨outcome, hnames, hv, hw⟩ := visit.outcome
      cases outcome with
      | error failure =>
        rw [courseFrom_cons_of_error hrequested hv, courseFrom_cons_of_error hrequested hw]
        exact ⟨[], List.nil_prefix, rfl, rfl, rfl⟩
      | ok finding =>
        obtain ⟨findings, hplaces, hhere, hthere, hfailure⟩ := ih (delivered + 1)
        rw [courseFrom_cons_of_ok hrequested hv, courseFrom_cons_of_ok hrequested hw]
        refine ⟨finding :: findings, ?_, congrArg (_ :: ·) hhere, congrArg (_ :: ·) hthere,
          hfailure⟩
        rw [List.map_cons, hnames finding rfl]
        exact List.cons_prefix_cons.mpr ⟨rfl, hplaces⟩

/-- **How a scan ends**: stopped by a failure, or with the answer whether
cancelling has been requested by then. -/
def ending (scanner : Scanner) (cancel : CancelAfter) : Except ScanFailure Bool :=
  match (scanner.course cancel).failure with
  | some failure => .error failure
  | none => .ok (requested cancel (scanner.course cancel).events.length)

/-- The result of a scan is told by its events and its end. -/
theorem result_scan (scanner : Scanner) (cancel : CancelAfter) :
    (scanner.scan cancel).result
      = (scanner.ending cancel).map
        (ScanResult.ofEvents scanner.config.root (scanner.scan cancel).events) := by
  unfold scan ending
  dsimp only
  cases (scanner.course cancel).failure <;> rfl

/-- The events of findings in order form a block below any folder. -/
theorem inOneBlock_events (root folder : Path) {findings : List Finding}
    (h : (findings.map (·.names)).Pairwise (· < ·)) :
    InOneBlock (fun event => folder.IsBelow event.path) (findings.map (·.event root)) := by
  have hordered : (findings.map (·.event root)).Pairwise
      fun a b => a.path.parts < b.path.parts := by
    rw [List.pairwise_map] at h ⊢
    exact h.imp fun hlt => parts_join_lt root hlt
  refine inOneBlock_of_pairwise ?_ hordered
  exact fun _ _ _ => prefix_of_between

/-- **A scan does not depend on where the project lies.** Let two scanners have
one project, whatever their roots are called, and whatever is above and beside
them. Then the walks of both are barred, and neither has an event or a result, or
none is. If not, both visit the paths of the same names in the same order; both
deliver the events of the same findings, which come from the first so many of
the visits; and both end in the same way, with the result of these events
unless looking for functions fails. Events differ in the root of the paths that
they show, which is in front of the names. In both, the events of the files
below any folder form one block. -/
theorem scan_relocated (h : here.SameProject there) (cancel : CancelAfter) :
    (here.files.IsBarred here.config.root ↔ there.files.IsBarred there.config.root) ∧
    (here.files.IsBarred here.config.root → ∃ error error',
      here.files.walk here.config.root = .error error ∧
      there.files.walk there.config.root = .error error' ∧
      here.scan cancel = ⟨.error (.walk error), [], [.scanning here.config.root]⟩ ∧
      there.scan cancel = ⟨.error (.walk error'), [], [.scanning there.config.root]⟩) ∧
    (¬ here.files.IsBarred here.config.root →
      ∃ (vs ws : List Visit) (places : List (List String)) (findings : List Finding)
        (ending : Except ScanFailure Bool),
        here.visits = .ok vs ∧ vs.map (·.path) = places.map here.config.root.join ∧
        there.visits = .ok ws ∧ ws.map (·.path) = places.map there.config.root.join ∧
        findings.map (·.names) <+: places ∧
        (here.scan cancel).events = findings.map (·.event here.config.root) ∧
        (there.scan cancel).events = findings.map (·.event there.config.root) ∧
        (here.scan cancel).result = ending.map
          (.ofEvents here.config.root (findings.map (·.event here.config.root))) ∧
        (there.scan cancel).result = ending.map
          (.ofEvents there.config.root (findings.map (·.event there.config.root))) ∧
        ∀ names ∈ places, ∀ root : Path,
          (root.join names).text = root.front ++ "/".intercalate names) ∧
    ∀ folder : Path,
      InOneBlock (fun event => folder.IsBelow event.path) (here.scan cancel).events ∧
      InOneBlock (fun event => folder.IsBelow event.path) (there.scan cancel).events := by
  by_cases hbarred : here.files.IsBarred here.config.root
  · have hbarred' := h.isBarred hbarred
    obtain ⟨error, hvisits, hscan⟩ := scan_of_isBarred hbarred
    obtain ⟨error', hvisits', hscan'⟩ := scan_of_isBarred hbarred'
    refine ⟨iff_of_true hbarred hbarred', fun _ => ⟨error, error', visits_eq_error_iff.mp hvisits,
      visits_eq_error_iff.mp hvisits', (hscan cancel).2, (hscan' cancel).2⟩,
      fun hopen => absurd hbarred hopen, fun folder => ?_⟩
    rw [(hscan cancel).2, (hscan' cancel).2]
    exact ⟨@inOneBlock_events here.config.root folder [] List.Pairwise.nil,
      @inOneBlock_events there.config.root folder [] List.Pairwise.nil⟩
  · obtain ⟨listed, places, vs, ws, hwalk, hvs, hws, hlisted, hvisits⟩ :=
      h.exists_sameVisits hbarred
    obtain ⟨hpaths, hpaths'⟩ := hvisits.map_path
    obtain ⟨findings, hplaces, hhere, hthere, hfailure⟩ := hvisits.exists_findings cancel 0
    rw [← course_of_visits hvs] at hhere hfailure
    rw [← course_of_visits hws] at hthere hfailure
    have hevents : (here.scan cancel).events = findings.map (·.event here.config.root) :=
      (events_scan cancel).trans hhere
    have hevents' : (there.scan cancel).events = findings.map (·.event there.config.root) :=
      (events_scan cancel).trans hthere
    have hending : here.ending cancel = there.ending cancel := by
      unfold ending
      rw [hfailure, hhere, hthere, List.length_map, List.length_map]
    obtain ⟨hascends, hmem⟩ := FileTree.walk_eq_ok hwalk
    have hordered : (findings.map (·.names)).Pairwise (· < ·) :=
      (hascends.sublist hlisted).sublist hplaces.sublist
    refine ⟨iff_of_false hbarred (mt h.symm.isBarred hbarred), fun hno => absurd hno hbarred,
      fun _ => ⟨vs, ws, places, findings, here.ending cancel, hvs, hpaths, hws, hpaths', hplaces,
        hevents, hevents', ?_, ?_, fun names hnames root => ?_⟩, fun folder => ?_⟩
    · rw [here.result_scan, hevents]
    · rw [there.result_scan, hevents', hending]
    · obtain ⟨-, -, hne, -⟩ := (hmem names).mp (hlisted.subset hnames)
      exact root.text_join hne
    · rw [hevents, hevents']
      exact ⟨inOneBlock_events _ _ hordered, inOneBlock_events _ _ hordered⟩

/-- A folder with a file, and a file whose name sorts between the name of the
folder and the path in it. -/
def smallFolder : List (String × Entry) :=
  [("a", .folder [("c.py", .file ⟨#[0x64]⟩)]), ("a-b.py", .file ⟨#[]⟩)]

/-- The folder as the working directory, with a file in it that cannot be read. -/
def smallHere : Scanner where
  files := ⟨.folder smallFolder, [],
    { Refusals.empty with
      reading := fun path => if path = ⟨.relative, ["a", "c.py"]⟩ then some .denied else none }⟩
  config := { root := ⟨.relative, []⟩, projectName := some "p", skipPatterns := ["d"] }
  registry := .builtin

/-- The folder in a place that a pattern selects, listed the other way round,
with a root that leads up and down. -/
def smallThere : Scanner where
  files := ⟨.folder [("e", .folder []), ("d", .folder smallFolder.reverse)], ["e"],
    { Refusals.empty with
      reading := fun path =>
        if path = ⟨.absolute, ["e", "..", "d", "a", "c.py"]⟩ then some .denied else none }⟩
  config := {
    root := ⟨.absolute, ["e", "..", "d"]⟩, projectName := some "p", skipPatterns := ["d"] }
  registry := .builtin

theorem leadsDown_smallFolder : (Entry.folder smallFolder).LeadsDown := by
  intro names below hat
  have hwalk : ∀ listed ∈ (Entry.folder smallFolder).descendants, ".." ∉ listed.1 := by
    simp [smallFolder, Entry.descendants, Entry.descendantsOf]
  by_cases hne : names = []
  · rw [hne]
    exact List.not_mem_nil
  · exact hwalk (names, below) ((Entry.mem_descendants _ _ _).mpr ⟨hne, hat⟩)

theorem sameProject_small : smallHere.SameProject smallThere where
  tree := by
    refine ⟨_, _, rfl, rfl, Entry.alike_of_lookup fun name => ?_, leadsDown_smallFolder⟩
    have hreverse : smallFolder.reverse
        = [("a-b.py", .file ⟨#[]⟩), ("a", .folder [("c.py", .file ⟨#[0x64]⟩)])] := rfl
    rw [hreverse, smallFolder]
    obtain rfl | hfolder := eq_or_ne name "a"
    · rfl
    · rw [lookup_cons_of_ne hfolder]
      obtain rfl | hfile := eq_or_ne name "a-b.py"
      · rfl
      · rw [lookup_cons_of_ne hfile, lookup_cons_of_ne hfile, lookup_cons_of_ne hfolder]
  entering := rfl
  refusals := by
    intro _ names _ _ _
    refine ⟨rfl, rfl, ?_, rfl⟩
    simp [smallHere, smallThere, Path.join]
  skipPatterns := rfl
  largestFile := rfl
  registry := rfl
  projectName := (projectName_of_explicit rfl (by decide)).trans
    (projectName_of_explicit rfl (by decide)).symm

/-- The folder in both places. -/
theorem small_relocated :
    smallHere.SameProject smallThere ∧ ∃ findings : List Finding,
      (smallHere.scan none).events = findings.map (·.event ⟨.relative, []⟩) ∧
      (smallThere.scan none).events = findings.map (·.event ⟨.absolute, ["e", "..", "d"]⟩) ∧
      InOneBlock (fun event => Path.IsBelow ⟨.relative, ["a"]⟩ event.path)
        (smallHere.scan none).events := by
  obtain ⟨-, -, hopen, hblock⟩ := scan_relocated sameProject_small none
  obtain ⟨_, _, _, findings, _, -, -, -, -, -, hhere, hthere, -⟩ :=
    hopen (FileTree.not_isBarred rfl fun _ => rfl)
  exact ⟨sameProject_small, findings, hhere, hthere, (hblock ⟨.relative, ["a"]⟩).1⟩

end Scanner

end SourceLens
