import SourceLens.Proofs.Scan.Lifecycle

/-!
# Results that count as cancelled

Two places ask on their own whether a scan has been cancelled: the walk, before
each visit, and the result, at the end. They answer alike except at one moment.
A request that comes right after the last event finds no visit left, so that the
walk is whole and does not report that it was cancelled, while the result counts
as cancelled since the request was there before the end
(`Scanner.cancelled_iff`).

A walk that nothing has stopped is one of two kinds (`Scanner.course_cases`): it
was cut, with visits left, or it is whole. What the visits themselves report is
never that the scan was cancelled (`Scanner.scanCancelled_notMem_noticesOf`), so
that this notice tells the two apart.
-/

namespace SourceLens

namespace Scanner

variable {scanner : Scanner} {cancel : CancelAfter} {visits : List Visit}

/-! ## What the walk reports -/

/-- Looking for functions does not report that a scan was cancelled. -/
theorem scanCancelled_notMem_extract (registry : Registry) (text : Text)
    (language : Option String) (file : SourceFile) (root : Path) :
    .scanCancelled root ∉ (registry.extract text language file).2 := by
  unfold Registry.extract
  cases registry.get? language with
  | none => exact fun h => nomatch List.mem_singleton.mp h
  | some rule => exact List.not_mem_nil

/-- A visit does not report that a scan was cancelled. -/
theorem scanCancelled_notMem_visit (v : Visit) (root : Path) :
    .scanCancelled root ∉ (scanner.visit v).2 := by
  have hskip (path : Path) (reason : String) :
      .scanCancelled root ∉ [Notice.skipping path reason] :=
    fun h => nomatch List.mem_singleton.mp h
  unfold visit scanFile
  split
  · exact hskip _ _
  · dsimp only
    split
    · exact List.not_mem_nil
    · split
      · exact hskip _ _
      · split
        · exact hskip _ _
        · split
          · exact hskip _ _
          · exact scanCancelled_notMem_extract _ _ _ _ _

theorem scanCancelled_notMem_noticesOf (visits : List Visit) (root : Path) :
    .scanCancelled root ∉ scanner.noticesOf visits := by
  intro h
  obtain ⟨v, -, hv⟩ := List.mem_flatMap.mp h
  exact scanCancelled_notMem_visit v root hv

/-! ## The two kinds of walks -/

/-- Visits that nothing stops have an event each. -/
theorem courseOf_of_failure_eq_none {visits : List Visit}
    (h : (scanner.courseOf visits).failure = none) :
    ∃ events, events.length = visits.length ∧
      scanner.courseOf visits = ⟨events, scanner.noticesOf visits, false, none⟩ := by
  obtain ⟨events, hevents⟩ | ⟨before, v, after, events, failure, rfl, hevents, hfailure⟩ :=
    scanner.exists_delivers visits
  · exact ⟨events, hevents.length_eq.symm, courseOf_of_delivers hevents⟩
  · rw [courseOf_append_of_error hevents hfailure] at h
    cases h

/-- A scan that nothing has stopped has found its visits. -/
theorem exists_visits_of_failure_eq_none (h : (scanner.course cancel).failure = none) :
    ∃ visits, scanner.visits = .ok visits := by
  cases hvisits : scanner.visits with
  | ok visits => exact ⟨visits, rfl⟩
  | error error =>
    rw [course_of_error hvisits] at h
    cases h

/-- **A scan that nothing has stopped** was cut by a request to cancel, right
after as many events as it was made for, or it is whole, and a request has not
come before its end. -/
theorem course_cases (hvisits : scanner.visits = .ok visits)
    (h : (scanner.course cancel).failure = none) :
    (∃ count events, cancel = some count ∧ count < visits.length ∧
      events.length = count ∧ scanner.course cancel
        = ⟨events, scanner.noticesOf (visits.take count)
            ++ [.scanCancelled scanner.config.root], true, none⟩) ∨
    (∃ events, (∀ count, cancel = some count → visits.length ≤ count) ∧
      events.length = visits.length ∧
      scanner.course cancel = ⟨events, scanner.noticesOf visits, false, none⟩) := by
  have hwhole (hcourse : scanner.course cancel = scanner.courseOf visits)
      (hlate : ∀ count, cancel = some count → visits.length ≤ count) :
      ∃ events, (∀ count, cancel = some count → visits.length ≤ count) ∧
        events.length = visits.length ∧
        scanner.course cancel = ⟨events, scanner.noticesOf visits, false, none⟩ := by
    rw [hcourse] at h ⊢
    obtain ⟨events, hlength, heq⟩ := courseOf_of_failure_eq_none h
    exact ⟨events, hlate, hlength, heq⟩
  cases cancel with
  | none => exact Or.inr (hwhole (course_none hvisits) fun count hcount => nomatch hcount)
  | some count =>
    have hcourse := course_some hvisits count
    split at hcourse
    · rename_i hleft
      refine Or.inl ?_
      rw [hcourse] at h ⊢
      unfold Course.cutAt at h ⊢
      split at h
      · -- a visit before the request has stopped the scan
        rename_i hfails
        rw [h] at hfails
        cases hfails
      · obtain ⟨events, hlength, heq⟩ := courseOf_of_failure_eq_none h
        rw [List.length_take_of_le hleft.le] at hlength
        refine ⟨count, events, rfl, hleft, hlength, ?_⟩
        rw [heq]
        rfl
    · rename_i hleft
      exact Or.inr (hwhole hcourse fun other hother =>
        Option.some.inj hother ▸ Nat.not_lt.mp hleft)

/-! ## The result -/

/-- Around the walk, a scan does not report that it was cancelled. -/
theorem scanCancelled_mem_notices_iff :
    .scanCancelled scanner.config.root ∈ (scanner.scan cancel).notices ↔
      .scanCancelled scanner.config.root ∈ (scanner.course cancel).notices := by
  unfold scan
  dsimp only
  cases (scanner.course cancel).failure with
  | some failure => simp
  | none => simp

/-- The status of a run that gives a result. -/
theorem Report.status_of_result {report : Report} {result : ScanResult}
    (h : report.result = .ok result) :
    report.status = if result.cancelled then .cancelled else .done := by
  rw [status, h]

/-- When all visits have been made, cancelling has been requested just if the
request came right after the last of them. -/
theorem requested_whole_iff {total : Nat} (h : ∀ count, cancel = some count → total ≤ count) :
    requested cancel total = true ↔ cancel = some total := by
  cases cancel with
  | none => exact iff_of_false Bool.false_ne_true nofun
  | some count =>
    rw [requested, decide_eq_true_iff, Option.some.injEq]
    exact ⟨fun hle => hle.antisymm (h count rfl), fun heq => heq.le⟩

/-- Cancelling has been requested by the end of a scan that nothing has stopped, if
visits are left or the request came right after the last of them. -/
theorem requested_iff_left (hvisits : scanner.visits = .ok visits)
    (h : (scanner.course cancel).failure = none) :
    requested cancel (scanner.course cancel).events.length = true ↔
      (scanner.course cancel).events.length < visits.length ∨ cancel = some visits.length := by
  obtain ⟨count, events, rfl, hlt, rfl, hcourse⟩ | ⟨events, hlate, hlength, hcourse⟩ :=
    course_cases hvisits h
  · rw [hcourse]
    exact ⟨fun _ => Or.inl hlt, fun _ => decide_eq_true (Nat.le_refl _)⟩
  · rw [hcourse, hlength, or_iff_right (Nat.lt_irrefl _)]
    exact requested_whole_iff hlate

/-- **Visits are left just if the walk was cut**, and just then it has reported that it
was cancelled, right after the events it was made for. -/
theorem cut_iff_left (hvisits : scanner.visits = .ok visits)
    (h : (scanner.course cancel).failure = none) :
    ((scanner.course cancel).cut = true ↔
        (scanner.course cancel).events.length < visits.length) ∧
      (.scanCancelled scanner.config.root ∈ (scanner.course cancel).notices ↔
        (scanner.course cancel).events.length < visits.length) ∧
      ((scanner.course cancel).events.length < visits.length →
        cancel = some (scanner.course cancel).events.length) := by
  obtain ⟨count, events, rfl, hlt, rfl, hcourse⟩ | ⟨events, -, hlength, hcourse⟩ :=
    course_cases hvisits h
  · rw [hcourse]
    exact ⟨iff_of_true rfl hlt,
      iff_of_true (List.mem_append_right _ List.mem_cons_self) hlt, fun _ => rfl⟩
  · rw [hcourse]
    have hnone : ¬ events.length < visits.length := by rw [hlength]; exact lt_irrefl _
    exact ⟨iff_of_false Bool.false_ne_true hnone,
      iff_of_false (scanCancelled_notMem_noticesOf _ _) hnone, fun hlt => absurd hlt hnone⟩

/-- **A result counts as cancelled** if visits were left because of the request
to cancel, or if the request came right after the last event, and in no other
case. Visits are left just if the walk was cut, and just then it has been
reported that the scan was cancelled; the request then came right after the
events that were delivered. The worker of a task shows the same: the scan ends
as cancelled in these two cases, and as done in all others. -/
theorem cancelled_iff (scanner : Scanner) (cancel : CancelAfter)
    (h : (scanner.course cancel).failure = none) :
    ∃ visits result, scanner.visits = .ok visits ∧
      let left := visits.drop (scanner.course cancel).events.length
      let report := scanner.scan cancel
      report.result = .ok result ∧
      (result.cancelled = true ↔ left ≠ [] ∨ cancel = some visits.length) ∧
      ((scanner.course cancel).cut = true ↔ left ≠ []) ∧
      (.scanCancelled scanner.config.root ∈ report.notices ↔ left ≠ []) ∧
      (left ≠ [] → cancel = some result.filesScanned) ∧
      (Progress.initial.steps report.workerSteps).status
        = if left ≠ [] ∨ cancel = some visits.length then .cancelled else .done := by
  obtain ⟨visits, hvisits⟩ := exists_visits_of_failure_eq_none h
  obtain ⟨result, hresult⟩ : ∃ result, (scanner.scan cancel).result = .ok result :=
    ⟨_, result_eq_ok_iff.mpr ⟨h, rfl⟩⟩
  refine ⟨visits, result, hvisits, ?_⟩
  intro left report
  obtain ⟨-, hparts⟩ := result_eq_ok_iff.mp hresult
  rw [events_scan] at hparts
  have hleft : left ≠ [] ↔ (scanner.course cancel).events.length < visits.length := by
    rw [ne_eq, List.drop_eq_nil_iff, Nat.not_le]
  have hcancelled : result.cancelled = true ↔ left ≠ [] ∨ cancel = some visits.length := by
    rw [hleft, ← requested_iff_left hvisits h, hparts]
    rfl
  have hstatus : (Progress.initial.steps report.workerSteps).status = report.status := by
    rw [Report.steps_workerSteps]
    rfl
  obtain ⟨hcut, hnotice, hcount⟩ := cut_iff_left hvisits h
  refine ⟨hresult, hcancelled, hcut.trans hleft.symm,
    (scanCancelled_mem_notices_iff.trans hnotice).trans hleft.symm, fun hne => ?_, ?_⟩
  · rw [hcount (hleft.mp hne), hparts]
    rfl
  · rw [hstatus, Report.status_of_result hresult]
    exact if_congr hcancelled rfl rfl

/-- A folder with one file, in no known language. -/
def singleFile : Scanner where
  files := ⟨.folder [("p", .folder [("a", .file ⟨#[]⟩)])], [], .empty⟩
  config := { root := ⟨.relative, ["p"]⟩, skipPatterns := [] }
  registry := .ofNonempty [Builtin.Sql.rule] (List.cons_ne_nil _ _)

theorem visits_singleFile : singleFile.visits = .ok [⟨⟨.relative, ["p", "a"]⟩, none⟩] := by
  cbv

/-- Its file is visited before the request, which comes right after. -/
theorem course_singleFile : singleFile.course (some 1)
    = ⟨[⟨⟨.relative, ["p", "a"]⟩, none, [], none⟩], [], false, none⟩ := by
  have hlanguage : detectLanguage (Path.name ⟨.relative, ["p", "a"]⟩) = none := by cbv
  rw [course_of_visits visits_singleFile]
  unfold courseFrom visit scanFile
  dsimp only
  rw [hlanguage]
  rfl

/-- A scan that is cancelled during its last file leaves nothing, and its result
counts as cancelled. -/
theorem singleFile_cancelled :
    (singleFile.course (some 1)).failure = none ∧
      ∃ visits result, singleFile.visits = .ok visits ∧
        visits.drop (singleFile.course (some 1)).events.length = [] ∧
        (singleFile.scan (some 1)).result = .ok result ∧ result.cancelled = true := by
  have hnone : (singleFile.course (some 1)).failure = none := by rw [course_singleFile]
  obtain ⟨visits, result, hvisits, hresult, hcancelled, -⟩ :=
    cancelled_iff singleFile (some 1) hnone
  cases visits_singleFile.symm.trans hvisits
  refine ⟨hnone, _, result, hvisits, by rw [course_singleFile]; rfl, hresult, ?_⟩
  exact hcancelled.mpr (Or.inr rfl)

/-- **A result can count as cancelled though every file was visited.** -/
theorem not_forall_cancelled_iff_left :
    ¬ ∀ (scanner : Scanner) (cancel : CancelAfter) (visits : List Visit) (result : ScanResult),
      scanner.visits = .ok visits → (scanner.scan cancel).result = .ok result →
        (result.cancelled = true ↔
          visits.drop (scanner.course cancel).events.length ≠ []) := by
  intro h
  have hresult : (singleFile.scan (some 1)).result = .ok ⟨⟨.relative, ["p"]⟩, [], [], 1, true⟩ := by
    unfold scan
    rw [course_singleFile]
    rfl
  have hleft := (h singleFile (some 1) _ _ visits_singleFile hresult).mp rfl
  rw [course_singleFile] at hleft
  exact hleft rfl

end Scanner

end SourceLens
