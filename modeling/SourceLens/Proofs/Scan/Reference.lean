import Mathlib.Data.List.Basic
import Mathlib.Tactic.Common
import SourceLens.Function.File
import SourceLens.Proofs.Except
import SourceLens.Proofs.Files.Below
import SourceLens.Scan.Scanner

/-!
# What a scan amounts to

A scan threads a count, a flag and what it has found through its visits, and
can be stopped by a failure. Without one it amounts to something simpler: every
visit has an event that depends on this visit alone (`Scanner.eventOf`), the
events delivered are those of the visits before the request to cancel, in
order, and every file that is skipped is reported in one warning.

What keeps a file from being processed is its **obstacle**: a problem with
asking for it, measuring or reading it, or its size. An obstacle shows in the
event as a skipped file and in no other way.

All this is about the visits, which the walk has to find first. A walk that is
barred gives a scan without an event and without a result, whether or not
cancelling has been requested (`Scanner.scan_of_isBarred`).
-/

namespace SourceLens

namespace Scanner

variable {scanner : Scanner}

/-- **What keeps a file from being processed**, if anything does. A file in no
known language has no obstacle, since nothing is tried. -/
def obstacle? (scanner : Scanner) (path : Path) : Option String :=
  match detectLanguage path.name with
  | none => none
  | some _ =>
    match scanner.files.size path with
    | .error problem => some (unreadable problem)
    | .ok size =>
      if scanner.config.largestFile < size then some "file too large"
      else
        match scanner.files.readText path with
        | .error problem => some (unreadable problem)
        | .ok _ => none

/-- What keeps a visit from its file: it could not be asked for, or has an
obstacle. -/
def obstacleOf? (scanner : Scanner) (v : Visit) : Option String :=
  match v.problem with
  | some problem => some (unreadable problem)
  | none => scanner.obstacle? v.path

/-- The functions of a file, and what there is to report. -/
def extracted (scanner : Scanner) (path : Path) :
    Except ExtractionError (List ExtractedFunction) × List Notice :=
  scanner.registry.extractFile scanner.files path (some scanner.projectName)

/-- **The event of a visit**: a skipped file if there is an obstacle, else the
functions of the file. -/
def eventOf (scanner : Scanner) (v : Visit) : FileEvent :=
  match scanner.obstacleOf? v with
  | some reason => ⟨v.path, detectLanguage v.path.name, [], some ⟨v.path, reason⟩⟩
  | none =>
    ⟨v.path, detectLanguage v.path.name, ((scanner.extracted v.path).1.toOption).getD [], none⟩

/-- **Extraction is quiet at a path**: if there is a text to look at, looking
for its functions does not fail. -/
def QuietAt (scanner : Scanner) (path : Path) : Prop :=
  ∀ cause, (scanner.extracted path).1 ≠ .error (.noOpeningBrace cause)

/-- The warnings of skipped files, one for each. -/
def warningsOf (events : List FileEvent) : List Notice :=
  (events.filterMap (·.skipped)).map fun s => .skipping s.path s.reason

theorem warningsOf_append (events later : List FileEvent) :
    warningsOf (events ++ later) = warningsOf events ++ warningsOf later := by
  rw [warningsOf, List.filterMap_append, List.map_append]
  rfl

/-! ## One file -/

/-- Extraction reports nothing that matters. -/
theorem extract_notices (registry : Registry) (text : Text) (language : Option String)
    (file : SourceFile) :
    (registry.extract text language file).2.filter (·.level.isWarning) = [] := by
  unfold Registry.extract
  cases registry.get? language <;> rfl

/-- A file with an obstacle is skipped, in one warning. -/
theorem scanFile_of_obstacle {path : Path} {reason : String}
    (h : scanner.obstacle? path = some reason) :
    scanner.scanFile path
      = (.ok ⟨path, detectLanguage path.name, [], some ⟨path, reason⟩⟩,
          [.skipping path reason]) := by
  unfold obstacle? at h
  unfold scanFile
  cases hlanguage : detectLanguage path.name with
  | none =>
    rw [hlanguage] at h
    cases h
  | some language =>
    rw [hlanguage] at h
    dsimp only [skip] at h ⊢
    rw [hlanguage]
    cases hsize : scanner.files.size path with
    | error problem =>
      rw [hsize] at h
      cases h
      rfl
    | ok size =>
      rw [hsize] at h
      dsimp only at h ⊢
      split at h
      · rename_i hlarge
        cases h
        rw [if_pos hlarge]
      · rename_i hlarge
        rw [if_neg hlarge]
        cases htext : scanner.files.readText path with
        | error problem =>
          rw [htext] at h
          cases h
          rfl
        | ok text =>
          rw [htext] at h
          cases h

/-- **A file without an obstacle has its functions**, if extraction is
quiet. -/
theorem scanFile_of_quiet {path : Path} (hnone : scanner.obstacle? path = none)
    (hquiet : scanner.QuietAt path) :
    ∃ functions notices, (scanner.extracted path).1 = .ok functions ∧
      scanner.scanFile path = (.ok ⟨path, detectLanguage path.name, functions, none⟩, notices) ∧
      notices.filter (·.level.isWarning) = [] := by
  unfold obstacle? at hnone
  unfold QuietAt extracted Registry.extractFile at hquiet
  unfold scanFile extracted Registry.extractFile
  cases hlanguage : detectLanguage path.name with
  | none => exact ⟨[], [], rfl, rfl, rfl⟩
  | some language =>
    rw [hlanguage] at hnone hquiet
    dsimp only at hnone hquiet ⊢
    cases hsize : scanner.files.size path with
    | error problem =>
      rw [hsize] at hnone
      cases hnone
    | ok size =>
      rw [hsize] at hnone
      dsimp only at hnone ⊢
      split at hnone
      · cases hnone
      · rename_i hlarge
        rw [if_neg hlarge]
        cases htext : scanner.files.readText path with
        | error problem =>
          rw [htext] at hnone
          cases hnone
        | ok text =>
          rw [htext] at hquiet
          dsimp only at hquiet ⊢
          have hnotices := extract_notices scanner.registry text (some language)
            (.of path (some scanner.projectName))
          generalize scanner.registry.extract text (some language)
            (.of path (some scanner.projectName)) = found at hquiet hnotices ⊢
          obtain ⟨functions | cause, notices⟩ := found
          · exact absurd rfl (hquiet _)
          · exact ⟨_, notices, rfl, rfl, hnotices⟩

/-! ## One visit -/

/-- **A visit gives its event**, and one warning if the file is skipped. -/
theorem visit_eq {v : Visit} (hquiet : v.problem = none → scanner.QuietAt v.path) :
    ∃ notices, scanner.visit v = (.ok (scanner.eventOf v), notices) ∧
      notices.filter (·.level.isWarning) = warningsOf [scanner.eventOf v] := by
  unfold visit eventOf obstacleOf?
  cases hproblem : v.problem with
  | some problem => exact ⟨_, rfl, rfl⟩
  | none =>
    dsimp only
    cases hobstacle : scanner.obstacle? v.path with
    | some reason => exact ⟨_, scanFile_of_obstacle hobstacle, rfl⟩
    | none =>
      obtain ⟨functions, notices, hfunctions, hscan, hnotices⟩ :=
        scanFile_of_quiet hobstacle (hquiet hproblem)
      rw [hfunctions]
      exact ⟨notices, hscan, hnotices⟩

/-! ## The course -/

/-- The visits that come before a request to cancel, after some events. -/
def delivered (cancel : CancelAfter) (before : Nat) (visits : List Visit) : List Visit :=
  match cancel with
  | none => visits
  | some count => visits.take (count - before)

/-- **The course of quiet visits**: nothing stops it but a request to cancel,
and the events are those of the visits before. -/
theorem courseFrom_eq (cancel : CancelAfter) (before : Nat) {visits : List Visit}
    (hquiet : ∀ v ∈ visits, v.problem = none → scanner.QuietAt v.path) :
    (scanner.courseFrom cancel before visits).failure = none ∧
      (scanner.courseFrom cancel before visits).events
        = (delivered cancel before visits).map scanner.eventOf ∧
      (scanner.courseFrom cancel before visits).notices.filter (·.level.isWarning)
        = warningsOf ((delivered cancel before visits).map scanner.eventOf) := by
  induction visits generalizing before with
  | nil => cases cancel <;> simp [courseFrom, delivered, warningsOf]
  | cons v visits ih =>
    unfold courseFrom
    split
    · -- cancelling has been requested, so no visit is left
      rename_i hrequested
      cases cancel with
      | none => cases hrequested
      | some count =>
        have hle : count ≤ before := of_decide_eq_true hrequested
        rw [delivered, Nat.sub_eq_zero_of_le hle]
        exact ⟨rfl, rfl, rfl⟩
    · rename_i hrequested
      have hcons : delivered cancel before (v :: visits)
          = v :: delivered cancel (before + 1) visits := by
        cases cancel with
        | none => rfl
        | some count =>
          have hlt : before < count := by
            rw [requested, decide_eq_true_eq] at hrequested
            omega
          rw [delivered, show count - before = count - (before + 1) + 1 by omega]
          rfl
      -- the event of this visit comes first, and one more has been delivered after it
      obtain ⟨notices, hvisit, hnotices⟩ := visit_eq (hquiet v List.mem_cons_self)
      obtain ⟨hfailure, hevents, hlater⟩ :=
        ih (before + 1) fun v hv => hquiet v (List.mem_cons_of_mem _ hv)
      rw [hvisit, hcons]
      dsimp only
      refine ⟨hfailure, by rw [hevents, List.map_cons], ?_⟩
      rw [List.filter_append, hnotices, hlater]
      exact (warningsOf_append _ _).symm

/-! ## The walk -/

theorem visits_eq_error_iff {error : FileError} :
    scanner.visits = .error error ↔ scanner.files.walk scanner.config.root = .error error :=
  map_eq_error

/-- The visits are found just if the walk is not barred. -/
theorem exists_visits_iff :
    (∃ visits, scanner.visits = .ok visits) ↔ ¬ scanner.files.IsBarred scanner.config.root := by
  rw [← FileTree.exists_walk_eq_error_iff]
  simp only [← visits_eq_error_iff]
  cases scanner.visits <;> simp

/-- With the visits found, the scan makes them. -/
theorem course_of_visits {visits : List Visit} (h : scanner.visits = .ok visits)
    (cancel : CancelAfter) : scanner.course cancel = scanner.courseFrom cancel 0 visits := by
  rw [course, h]

/-- Where the walk fails, the scan fails with it. -/
theorem course_of_error {error : FileError} (h : scanner.visits = .error error)
    (cancel : CancelAfter) : scanner.course cancel = ⟨[], [], false, some (.walk error)⟩ := by
  rw [course, h]

/-- **A scan whose walk is barred fails** before its first event, in one way for
all requests to cancel. All that it has reported is that it was started. -/
theorem scan_of_isBarred (h : scanner.files.IsBarred scanner.config.root) :
    ∃ error, scanner.visits = .error error ∧ ∀ cancel,
      scanner.course cancel = ⟨[], [], false, some (.walk error)⟩ ∧
      scanner.scan cancel
        = ⟨.error (.walk error), [], [.scanning scanner.config.root]⟩ := by
  cases hvisits : scanner.visits with
  | ok visits => exact absurd h (exists_visits_iff.mp ⟨visits, hvisits⟩)
  | error error =>
    refine ⟨error, rfl, fun cancel => ?_⟩
    have hcourse := course_of_error hvisits cancel
    refine ⟨hcourse, ?_⟩
    unfold scan
    rw [hcourse]

/-- A scanner in the built-in languages with a root that has a name of 300 octets,
where the system allows 255. -/
def overlong : Scanner where
  files := ⟨.folder [], [], { Refusals.empty with
    entering := fun path =>
      if path.names.any (255 < ·.utf8ByteSize) then some .nameTooLong else none }⟩
  config := { root := ⟨.relative, [String.ofList (List.replicate 300 'a')]⟩ }
  registry := .builtin

theorem isBarred_overlong : overlong.files.IsBarred overlong.config.root := by
  have hlong : overlong.config.root.names.any (255 < ·.utf8ByteSize) = true := by decide +kernel
  refine Or.inl ⟨.nameTooLong, ?_, rfl⟩
  -- from here on it does not matter which name it is
  generalize overlong.config.root = root at hlong ⊢
  exact if_pos hlong

/-- Its scan has no result, whenever cancelling is requested. -/
theorem result_overlong (cancel : CancelAfter) (result : ScanResult) :
    (overlong.scan cancel).result ≠ .ok result := by
  obtain ⟨error, -, hscan⟩ := scan_of_isBarred isBarred_overlong
  rw [(hscan cancel).2]
  exact fun heq => nomatch heq

/-- **A scan of quiet visits** gives a result: that of the events of the visits
before a request to cancel. Its warnings are those of the skipped files. -/
theorem scan_eq (cancel : CancelAfter) {visits : List Visit} (hvisits : scanner.visits = .ok visits)
    (hquiet : ∀ v ∈ visits, v.problem = none → scanner.QuietAt v.path) :
    (scanner.scan cancel).events = (delivered cancel 0 visits).map scanner.eventOf ∧
      (scanner.scan cancel).result = .ok (.ofEvents scanner.config.root
        ((delivered cancel 0 visits).map scanner.eventOf)
        (requested cancel (delivered cancel 0 visits).length)) ∧
      (scanner.scan cancel).notices.filter (·.level.isWarning)
        = warningsOf ((delivered cancel 0 visits).map scanner.eventOf) := by
  obtain ⟨hfailure, hevents, hnotices⟩ := courseFrom_eq cancel 0 hquiet
  unfold scan
  rw [course_of_visits hvisits]
  dsimp only
  rw [hfailure, hevents, List.length_map]
  refine ⟨rfl, rfl, ?_⟩
  rw [List.filter_append, List.filter_cons_of_neg Bool.false_ne_true, hnotices,
    List.filter_cons_of_neg Bool.false_ne_true, List.filter_nil, List.append_nil]

end Scanner

end SourceLens
