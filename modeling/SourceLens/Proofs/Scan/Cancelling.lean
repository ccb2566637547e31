import Mathlib
import SourceLens.Proofs.Scan.Reference

/-!
# Cancelling a scan

A request to cancel is looked at before each visit, so a scan that is cancelled
after some number of events is the scan of as many visits and no more
(`Scanner.courseFrom_some`): the visits behind them are not made, whatever they
would have given.

What some visits give is told by how far they succeed. Either all of them have
an event (`Scanner.Delivers`), or there is a first one that fails and stops the
scan (`Scanner.exists_delivers`), and in both cases the course is known. So
cancelling cuts the whole scan to a prefix of its events (`Scanner.scan_cut`),
for every tree, every configuration and every set of languages, those among
them in which looking for functions fails.

The request is looked at too late for one failure. The walk to the visits comes
before the first look, so a scan whose walk is barred fails even if cancelling
has been requested before its start (`Scanner.not_forall_exists_result_cut`).
-/

namespace SourceLens

namespace Scanner

variable {scanner other : Scanner} {visits : List Visit} {events : List FileEvent}

/-- **The course of some visits** that nobody cancels. -/
def courseOf (scanner : Scanner) (visits : List Visit) : Course :=
  scanner.courseFrom none 0 visits

/-- What some visits have to report. -/
def noticesOf (scanner : Scanner) (visits : List Visit) : List Notice :=
  visits.flatMap fun v => (scanner.visit v).2

/-- **Some visits deliver some events**: each of them has its event. -/
def Delivers (scanner : Scanner) (visits : List Visit) (events : List FileEvent) : Prop :=
  List.Forall₂ (fun v event => (scanner.visit v).1 = .ok event) visits events

/-! ## Visit by visit -/

/-- A course with an event in front of it. -/
def Course.cons (event : FileEvent) (notices : List Notice) (course : Course) : Course :=
  ⟨event :: course.events, notices ++ course.notices, course.cut, course.failure⟩

/-- A visit that has an event delivers it before those of the others. -/
theorem courseFrom_cons_of_ok {cancel : CancelAfter} {delivered : Nat}
    (hgoes : requested cancel delivered = false) {v : Visit} {event : FileEvent}
    (h : (scanner.visit v).1 = .ok event) (visits : List Visit) :
    scanner.courseFrom cancel delivered (v :: visits)
      = (scanner.courseFrom cancel (delivered + 1) visits).cons event (scanner.visit v).2 := by
  rw [courseFrom, hgoes, if_neg Bool.false_ne_true]
  generalize scanner.visit v = outcome at h ⊢
  obtain ⟨_, notices⟩ := outcome
  cases h
  rfl

/-- A visit that fails stops the scan. -/
theorem courseFrom_cons_of_error {cancel : CancelAfter} {delivered : Nat}
    (hgoes : requested cancel delivered = false) {v : Visit} {failure : NoOpeningBrace}
    (h : (scanner.visit v).1 = .error failure) (visits : List Visit) :
    scanner.courseFrom cancel delivered (v :: visits)
      = ⟨[], (scanner.visit v).2, false, some (.functions failure)⟩ := by
  rw [courseFrom, hgoes, if_neg Bool.false_ne_true]
  generalize scanner.visit v = outcome at h ⊢
  obtain ⟨_, notices⟩ := outcome
  cases h
  rfl

/-- Without a request to cancel, what has been delivered before does not
count. -/
theorem courseFrom_none (delivered : Nat) (visits : List Visit) :
    scanner.courseFrom none delivered visits = scanner.courseOf visits := by
  unfold courseOf
  induction visits generalizing delivered with
  | nil => rfl
  | cons v visits ih =>
    rw [courseFrom, courseFrom, ih (delivered + 1), ih (0 + 1)]
    rfl

theorem courseOf_cons_of_ok {v : Visit} {event : FileEvent} (h : (scanner.visit v).1 = .ok event)
    (visits : List Visit) :
    scanner.courseOf (v :: visits) = (scanner.courseOf visits).cons event (scanner.visit v).2 := by
  rw [courseOf, courseFrom_cons_of_ok rfl h, courseFrom_none]

theorem courseOf_cons_of_error {v : Visit} {failure : NoOpeningBrace}
    (h : (scanner.visit v).1 = .error failure) (visits : List Visit) :
    scanner.courseOf (v :: visits) = ⟨[], (scanner.visit v).2, false, some (.functions failure)⟩ :=
  courseFrom_cons_of_error rfl h visits

/-- Visits that all have events deliver them, and nothing stops them. -/
theorem courseOf_of_delivers (h : scanner.Delivers visits events) :
    scanner.courseOf visits = ⟨events, scanner.noticesOf visits, false, none⟩ := by
  induction h with
  | nil => rfl
  | cons hvisit _ ih =>
    rw [courseOf_cons_of_ok hvisit, ih]
    rfl

/-- Behind the first visit that fails nothing is visited. -/
theorem courseOf_append_of_error (h : scanner.Delivers visits events) {v : Visit}
    {failure : NoOpeningBrace} (hfailure : (scanner.visit v).1 = .error failure)
    (rest : List Visit) :
    scanner.courseOf (visits ++ v :: rest)
      = ⟨events, scanner.noticesOf (visits ++ [v]), false, some (.functions failure)⟩ := by
  induction h with
  | nil =>
    rw [List.nil_append, courseOf_cons_of_error hfailure, List.nil_append, noticesOf,
      List.flatMap_singleton]
  | cons hvisit _ ih =>
    rw [List.cons_append, courseOf_cons_of_ok hvisit, ih]
    rfl

/-- **Either all visits have events, or there is a first one that fails.** -/
theorem exists_delivers (scanner : Scanner) (visits : List Visit) :
    (∃ events, scanner.Delivers visits events) ∨
      ∃ before v after events failure, visits = before ++ v :: after ∧
        scanner.Delivers before events ∧ (scanner.visit v).1 = .error failure := by
  induction visits with
  | nil => exact Or.inl ⟨[], .nil⟩
  | cons v visits ih =>
    cases hvisit : (scanner.visit v).1 with
    | error failure => exact Or.inr ⟨[], v, visits, [], failure, rfl, .nil, hvisit⟩
    | ok event =>
      obtain ⟨events, hevents⟩ | ⟨before, w, after, events, failure, rfl, hevents, hfailure⟩ := ih
      · exact Or.inl ⟨event :: events, .cons hvisit hevents⟩
      · exact Or.inr ⟨v :: before, w, after, event :: events, failure, rfl,
          .cons hvisit hevents, hfailure⟩

/-! ## Cutting -/

/-- The course of the visits that are made when there are more of them: unless
it has been stopped before, it ends with the request to cancel. -/
def Course.cutAt (root : Path) (course : Course) : Course :=
  if course.failure.isSome then course
  else { course with notices := course.notices ++ [.scanCancelled root], cut := true }

/-- An event in front changes nothing about the end of a course. -/
theorem Course.cutAt_cons (root : Path) (event : FileEvent) (notices : List Notice)
    (course : Course) : (course.cons event notices).cutAt root
      = (course.cutAt root).cons event notices := by
  unfold cutAt cons
  dsimp only
  split
  · rfl
  · rw [List.append_assoc]

/-- **A scan that is cancelled makes the visits before the request** and no
others. The induction is on the visits, of which `room` are still made. -/
theorem courseFrom_some (delivered room : Nat) (visits : List Visit) :
    scanner.courseFrom (some (delivered + room)) delivered visits
      = if room < visits.length then
          (scanner.courseOf (visits.take room)).cutAt scanner.config.root
        else scanner.courseOf visits := by
  induction visits generalizing delivered room with
  | nil => rfl
  | cons v visits ih =>
    cases room with
    | zero =>
      have hrequested : requested (some (delivered + 0)) delivered = true :=
        decide_eq_true (Nat.le_refl delivered)
      have hleft : 0 < (v :: visits).length := Nat.zero_lt_succ visits.length
      rw [courseFrom, hrequested, if_pos rfl, if_pos hleft]
      rfl
    | succ room =>
      have hcount : delivered + (room + 1) = delivered + 1 + room := by omega
      have hgoes : requested (some (delivered + 1 + room)) delivered = false :=
        decide_eq_false (by omega)
      rw [hcount, List.take_succ_cons]
      cases hvisit : (scanner.visit v).1 with
      | error failure =>
        rw [courseFrom_cons_of_error hgoes hvisit, courseOf_cons_of_error hvisit,
          courseOf_cons_of_error hvisit]
        exact (ite_self _).symm
      | ok event =>
        have hleft : room + 1 < (v :: visits).length ↔ room < visits.length := Nat.succ_lt_succ_iff
        rw [courseFrom_cons_of_ok hgoes hvisit, ih (delivered + 1) room,
          courseOf_cons_of_ok hvisit, courseOf_cons_of_ok hvisit, Course.cutAt_cons]
        by_cases hroom : room < visits.length
        · rw [if_pos hroom, if_pos (hleft.mpr hroom)]
        · rw [if_neg hroom, if_neg fun h => hroom (hleft.mp h)]

/-- **Some of the visits deliver the first events**, as long as there are so
many. -/
theorem courseOf_take_of_le {room : Nat} (h : room ≤ (scanner.courseOf visits).events.length) :
    scanner.courseOf (visits.take room)
      = ⟨(scanner.courseOf visits).events.take room, scanner.noticesOf (visits.take room), false,
          none⟩ := by
  obtain ⟨events, hevents⟩ | ⟨before, v, after, events, failure, rfl, hevents, hfailure⟩ :=
    scanner.exists_delivers visits
  · rw [courseOf_of_delivers hevents]
    exact courseOf_of_delivers (List.forall₂_take room hevents)
  · -- the visits that are made come before the one that fails
    rw [courseOf_append_of_error hevents hfailure] at h ⊢
    rw [List.take_append_of_le_length (hevents.length_eq ▸ h)]
    exact courseOf_of_delivers (List.forall₂_take room hevents)

/-- With more visits than there are events all of them are made, or one fails
before. -/
theorem courseOf_take_of_lt {room : Nat} (h : (scanner.courseOf visits).events.length < room) :
    scanner.courseOf (visits.take room) = scanner.courseOf visits ∧
      (room < visits.length → (scanner.courseOf visits).failure.isSome) := by
  obtain ⟨events, hevents⟩ | ⟨before, v, after, events, failure, rfl, hevents, hfailure⟩ :=
    scanner.exists_delivers visits
  · rw [courseOf_of_delivers hevents] at h
    have hlength : visits.length < room := hevents.length_eq ▸ h
    rw [List.take_of_length_le (Nat.le_of_lt hlength)]
    exact ⟨rfl, fun hlt => absurd hlt (Nat.lt_asymm hlength)⟩
  · rw [courseOf_append_of_error hevents hfailure] at h ⊢
    have hlength : before.length < room := hevents.length_eq ▸ h
    obtain ⟨more, hroom⟩ := Nat.exists_eq_add_of_lt hlength
    have htake : (before ++ v :: after).take room = before ++ v :: after.take more := by
      rw [hroom, Nat.add_assoc, List.take_length_add_append, List.take_succ_cons]
    rw [htake]
    exact ⟨courseOf_append_of_error hevents hfailure _, fun _ => rfl⟩

/-- The scan that nobody cancels makes all visits. -/
theorem course_none (h : scanner.visits = .ok visits) :
    scanner.course none = scanner.courseOf visits :=
  course_of_visits h none

/-- The scan that is cancelled after some number of events, by its visits. -/
theorem course_some (h : scanner.visits = .ok visits) (count : Nat) :
    scanner.course (some count)
      = if count < visits.length then
          (scanner.courseOf (visits.take count)).cutAt scanner.config.root
        else scanner.courseOf visits := by
  have hcourse := scanner.courseFrom_some 0 count visits
  rw [Nat.zero_add] at hcourse
  rw [course_of_visits h, hcourse]

/-- **A request that comes in time** leaves the events before it. -/
theorem course_some_of_le (h : scanner.visits = .ok visits) {count : Nat}
    (hle : count ≤ (scanner.course none).events.length) :
    scanner.course (some count)
      = ⟨(scanner.course none).events.take count,
          scanner.noticesOf (visits.take count)
            ++ (if count < visits.length then [.scanCancelled scanner.config.root] else []),
          decide (count < visits.length), none⟩ := by
  rw [course_none h] at hle ⊢
  have htake := courseOf_take_of_le hle
  rw [course_some h]
  by_cases hleft : count < visits.length
  · rw [if_pos hleft, if_pos hleft, htake, decide_eq_true hleft]
    rfl
  · rw [List.take_of_length_le (Nat.not_lt.mp hleft)] at htake
    rw [if_neg hleft, if_neg hleft, decide_eq_false hleft, List.append_nil,
      List.take_of_length_le (Nat.not_lt.mp hleft)]
    exact htake

/-- A request that comes too late changes nothing, and neither does one for a
scan that has no visits. -/
theorem course_some_of_lt {count : Nat} (h : (scanner.course none).events.length < count) :
    scanner.course (some count) = scanner.course none := by
  cases hvisits : scanner.visits with
  | error error => rw [course_of_error hvisits, course_of_error hvisits]
  | ok visits =>
    rw [course_none hvisits] at h ⊢
    obtain ⟨htake, hfails⟩ := courseOf_take_of_lt h
    rw [course_some hvisits]
    split
    · rename_i hleft
      rw [htake, Course.cutAt, if_pos (hfails hleft)]
    · rfl

/-! ## Files that are not looked at -/

/-- **Two scanners see a file alike**: it has one size and one text for both,
and they find the same functions in a text of its. -/
structure SeesAlike (scanner other : Scanner) (path : Path) : Prop where
  size : other.files.size path = scanner.files.size path
  text : other.files.readText path = scanner.files.readText path
  functions : ∀ text language,
    other.registry.extract text language (.of path (some scanner.projectName))
      = scanner.registry.extract text language (.of path (some scanner.projectName))

/-- A visit depends on nothing but its file. -/
theorem visit_congr (hconfig : other.config = scanner.config)
    (hname : other.projectName = scanner.projectName) {v : Visit}
    (h : scanner.SeesAlike other v.path) : other.visit v = scanner.visit v := by
  unfold visit scanFile
  cases v.problem with
  | some problem => rfl
  | none =>
    simp only [h.size, h.text, hconfig, hname, h.functions]

/-- The course of visits that are alike is the same. -/
theorem courseOf_congr (h : ∀ v ∈ visits, other.visit v = scanner.visit v) :
    other.courseOf visits = scanner.courseOf visits := by
  induction visits with
  | nil => rfl
  | cons v visits ih =>
    have hhead := h v List.mem_cons_self
    have htail := ih fun w hw => h w (List.mem_cons_of_mem _ hw)
    cases hvisit : (scanner.visit v).1 with
    | error failure =>
      have hother : (other.visit v).1 = .error failure := by rw [hhead, hvisit]
      rw [courseOf_cons_of_error hvisit, courseOf_cons_of_error hother, hhead]
    | ok event =>
      have hother : (other.visit v).1 = .ok event := by rw [hhead, hvisit]
      rw [courseOf_cons_of_ok hvisit, courseOf_cons_of_ok hother, hhead, htail]

/-- **A scan that is cancelled depends on the files before the request alone.** -/
theorem course_some_congr {count : Nat} (hconfig : other.config = scanner.config)
    (hvisits : other.visits = scanner.visits)
    (h : ∀ visits, scanner.visits = .ok visits → ∀ v ∈ visits.take count,
      other.visit v = scanner.visit v) :
    other.course (some count) = scanner.course (some count) := by
  cases hscanner : scanner.visits with
  | error error => rw [course_of_error hscanner, course_of_error (hvisits.trans hscanner)]
  | ok visits =>
    have hmade := h visits hscanner
    rw [course_some hscanner, course_some (hvisits.trans hscanner), hconfig, courseOf_congr hmade]
    split
    · rfl
    · -- every visit is made
      rename_i hleft
      rw [List.take_of_length_le (Nat.not_lt.mp hleft)] at hmade
      exact courseOf_congr hmade

/-! ## The whole scan -/

theorem events_scan (cancel : CancelAfter) :
    (scanner.scan cancel).events = (scanner.course cancel).events := by
  unfold scan
  dsimp only
  split <;> rfl

/-- A scan is told by its course. -/
theorem scan_congr {cancel later : CancelAfter} (hconfig : other.config = scanner.config)
    (hcourse : other.course cancel = scanner.course later)
    (hrequested : requested cancel (other.course cancel).events.length
      = requested later (other.course cancel).events.length) :
    other.scan cancel = scanner.scan later := by
  unfold scan
  dsimp only
  rw [hconfig, hcourse]
  rw [hcourse] at hrequested
  rw [hrequested]

/-- **Cancelling cuts a scan to a prefix.** A scan that is cancelled once some
number of events has been delivered delivers exactly the first so many events
of the whole scan. If its walk is not barred and there are so many, it is not
stopped by a failure; its result is that of these events, and it has reported
what these visits have to report and that it was cancelled, if visits were left.
If there are fewer, it is the whole scan. What it gives does not depend on the
visits after the request: whatever sizes, texts and functions their files have,
it is the same. If the walk is barred, the scan has no events, and no request
changes that it fails, not even one that comes before the start. -/
theorem scan_cut (scanner : Scanner) (count : Nat) :
    (scanner.course (some count)).events = (scanner.course none).events.take count ∧
    (scanner.scan (some count)).events = (scanner.scan none).events.take count ∧
    (¬ scanner.files.IsBarred scanner.config.root →
      count ≤ (scanner.course none).events.length → ∃ visits, scanner.visits = .ok visits ∧
      (scanner.course (some count)).failure = none ∧
      (scanner.course (some count)).notices
        = scanner.noticesOf (visits.take count)
          ++ (if count < visits.length then [.scanCancelled scanner.config.root] else []) ∧
      ∃ result, (scanner.scan (some count)).result = .ok result ∧
        result.root = scanner.config.root ∧
        result.functions
          = ((scanner.course none).events.take count).flatMap (·.functions) ∧
        result.skipped = ((scanner.course none).events.take count).filterMap (·.skipped) ∧
        result.filesScanned = ((scanner.course none).events.take count).length) ∧
    ((scanner.course none).events.length < count →
      scanner.course (some count) = scanner.course none ∧
      scanner.scan (some count) = scanner.scan none) ∧
    (scanner.files.IsBarred scanner.config.root → ∃ error,
      scanner.files.walk scanner.config.root = .error error ∧
      scanner.course none = ⟨[], [], false, some (.walk error)⟩ ∧
      scanner.course (some count) = scanner.course none ∧
      scanner.scan (some count) = scanner.scan none) ∧
    ∀ other : Scanner, other.config = scanner.config → other.projectName = scanner.projectName →
      other.visits = scanner.visits →
      (∀ visits, scanner.visits = .ok visits → ∀ v ∈ visits.take count,
        scanner.SeesAlike other v.path) →
      other.course (some count) = scanner.course (some count) ∧
      other.scan (some count) = scanner.scan (some count) := by
  have hevents : (scanner.course (some count)).events
      = (scanner.course none).events.take count := by
    obtain hlt | hle := Nat.lt_or_ge (scanner.course none).events.length count
    · rw [course_some_of_lt hlt, List.take_of_length_le (Nat.le_of_lt hlt)]
    · cases hvisits : scanner.visits with
      | ok visits => rw [course_some_of_le hvisits hle]
      | error error =>
        rw [course_of_error hvisits, course_of_error hvisits]
        exact List.take_nil.symm
  refine ⟨hevents, ?_, fun hopen hle => ?_, fun hlt => ?_, fun hbarred => ?_,
    fun other hconfig hname hvisits halike => ?_⟩
  · rw [events_scan, events_scan, hevents]
  · obtain ⟨visits, hvisits⟩ := exists_visits_iff.mpr hopen
    have hcourse := course_some_of_le hvisits hle
    refine ⟨visits, hvisits, by rw [hcourse], by rw [hcourse], ?_⟩
    unfold scan
    dsimp only
    rw [hcourse]
    exact ⟨_, rfl, rfl, rfl, rfl, rfl⟩
  · have hcourse := course_some_of_lt hlt
    refine ⟨hcourse, scan_congr rfl hcourse ?_⟩
    rw [hcourse]
    exact decide_eq_false (Nat.not_le.mpr hlt)
  · obtain ⟨error, hvisits, hscan⟩ := scan_of_isBarred hbarred
    exact ⟨error, visits_eq_error_iff.mp hvisits, (hscan none).1,
      (hscan (some count)).1.trans (hscan none).1.symm,
      (hscan (some count)).2.trans (hscan none).2.symm⟩
  · have hcourse := course_some_congr hconfig hvisits fun visits hscanner v hv =>
      visit_congr hconfig hname (halike visits hscanner v hv)
    exact ⟨hcourse, scan_congr hconfig hcourse rfl⟩

/-- A file in no known language, and one in a language whose headers open no
block. -/
def stumbling : Scanner where
  files := ⟨.folder [("p", .folder [("a", .file ⟨#[]⟩), ("b.java", .file ⟨#[0x66]⟩)])],
    [], .empty⟩
  config := { root := ⟨.relative, ["p"]⟩, skipPatterns := [] }
  registry := .ofNonempty [.ofCategories "java" [] ".java" []
    (some ⟨.brace, .group 1 none (Pattern.only 'f')⟩)] (List.cons_ne_nil _ _)

/-- The first file is passed over. -/
theorem visit_stumbling_first : (stumbling.visit ⟨⟨.relative, ["p", "a"]⟩, none⟩).1
    = .ok ⟨⟨.relative, ["p", "a"]⟩, none, [], none⟩ := by
  have hlanguage : detectLanguage (Path.name ⟨.relative, ["p", "a"]⟩) = none := by cbv
  unfold visit scanFile
  dsimp only
  rw [hlanguage]

/-- The second file has a header that ends in another character than a
brace. -/
theorem visit_stumbling_second :
    (stumbling.visit ⟨⟨.relative, ["p", "b.java"]⟩, none⟩).1 = .error ⟨0⟩ := by
  have hlanguage : detectLanguage (Path.name ⟨.relative, ["p", "b.java"]⟩) = some "java" := by
    cbv
  have hsize : stumbling.files.size ⟨.relative, ["p", "b.java"]⟩ = .ok 1 := rfl
  have hfits : ¬ ((1 : Nat) : Int) > stumbling.config.largestFile := by decide
  have htext : stumbling.files.readText ⟨.relative, ["p", "b.java"]⟩ = .ok #['f'] := by cbv
  have hfound (file : SourceFile) :
      (stumbling.registry.extract #['f'] (some "java") file).1 = .error ⟨0⟩ := by cbv
  unfold visit scanFile
  dsimp only
  rw [hlanguage, hsize]
  dsimp only
  rw [if_neg hfits, htext]
  dsimp only
  rw [hfound]
  rfl

theorem visits_stumbling : stumbling.visits = .ok ([⟨⟨.relative, ["p", "a"]⟩, none⟩] ++
    ⟨⟨.relative, ["p", "b.java"]⟩, none⟩ :: []) := by
  cbv

/-- The course of the two files. -/
theorem course_stumbling : ∃ notices, stumbling.course none
    = ⟨[⟨⟨.relative, ["p", "a"]⟩, none, [], none⟩], notices, false,
        some (.functions ⟨0⟩)⟩ := by
  rw [course_none visits_stumbling]
  exact ⟨_, courseOf_append_of_error (.cons visit_stumbling_first .nil) visit_stumbling_second []⟩

/-- The whole scan fails at the second file, and the one that is cancelled
before it does not. -/
theorem stumbling_cut :
    1 ≤ (stumbling.course none).events.length ∧
      (stumbling.course none).failure = some (.functions ⟨0⟩) ∧
      (stumbling.course (some 1)).failure = none ∧
      ∃ result, (stumbling.scan (some 1)).result = .ok result ∧ result.filesScanned = 1 := by
  obtain ⟨notices, hcourse⟩ := course_stumbling
  have hle : 1 ≤ (stumbling.course none).events.length := by
    rw [hcourse]
    exact Nat.le_refl 1
  have hopen := exists_visits_iff.mp ⟨_, visits_stumbling⟩
  obtain ⟨_, -, hfailure, -, result, hresult, -, -, -, hcount⟩ :=
    (scan_cut stumbling 1).2.2.1 hopen hle
  refine ⟨hle, by rw [hcourse], hfailure, result, hresult, ?_⟩
  rw [hcount, hcourse]
  rfl

/-- **Not every request to cancel leaves a result**: a scan whose walk is barred
has none, even if cancelling is requested before its start. -/
theorem not_forall_exists_result_cut : ¬ ∀ (scanner : Scanner) (count : Nat),
    count ≤ (scanner.course none).events.length →
      ∃ result, (scanner.scan (some count)).result = .ok result ∧
        result.functions = ((scanner.course none).events.take count).flatMap (·.functions) ∧
        result.skipped = ((scanner.course none).events.take count).filterMap (·.skipped) ∧
        result.filesScanned = ((scanner.course none).events.take count).length := by
  intro h
  obtain ⟨result, hresult, -⟩ := h overlong 0 (Nat.zero_le _)
  exact result_overlong (some 0) result hresult

end Scanner

end SourceLens
