import SourceLens.Proofs.Scan.Cancelling
import SourceLens.Scan.Session

/-!
# The life of a task

A task that is waiting knows no more than whether it was cancelled, and a task
that has ended shows the one run that it was started for. So there are two kinds
of states (`ScanTask.waiting`, `ScanTask.ended`), and an operation leads from a
state to one of these: starting leads from the first kind to the second, and
nothing leads back. What an operation does is one lemma for each kind of state,
and what any number of operations does follows from it by induction
(`ScanTask.performAll_waiting`, `ScanTask.performAll_ended`).

What the owner of a task sees at any time is told by that
(`ScanTask.performAll_lifecycle`): nothing before the start; after it the
events of the run and how it ended, whatever is done with the task.
-/

namespace SourceLens

/-! ## Progress -/

/-- Events are counted, and what they have found is appended. -/
theorem Progress.steps_events (progress : Progress) (events : List FileEvent) :
    progress.steps (events.map .event)
      = { progress with
          filesDone := progress.filesDone + events.length
          functions := progress.functions ++ events.flatMap (·.functions)
          skipped := progress.skipped ++ events.filterMap (·.skipped) } := by
  unfold steps
  induction events generalizing progress with
  | nil =>
    rw [List.flatMap_nil, List.filterMap_nil, List.append_nil, List.append_nil]
    rfl
  | cons event events ih =>
    have hskipped : (event :: events).filterMap (·.skipped)
        = event.skipped.toList ++ events.filterMap (·.skipped) := by
      rw [List.filterMap_cons]
      cases event.skipped <;> rfl
    rw [List.map_cons, List.foldl_cons, ih, List.flatMap_cons, hskipped, ← List.append_assoc,
      ← List.append_assoc, List.length_cons, Nat.add_comm events.length 1, ← Nat.add_assoc]
    rfl

namespace Scanner.Report

/-- The status that a run ends with. -/
def status (report : Report) : TaskStatus :=
  match report.result with
  | .ok result => if result.cancelled then .cancelled else .done
  | .error _ => .failed

/-- The message of what has stopped a run. -/
def error? (report : Report) : Option String :=
  match report.result with
  | .ok _ => none
  | .error failure => some failure.message

/-- **The progress of a run that has ended**: the number of its events, what
they have found, and how it ended. -/
def progress (report : Report) : Progress where
  status := report.status
  filesDone := report.events.length
  functions := report.events.flatMap (·.functions)
  skipped := report.events.filterMap (·.skipped)
  error := report.error?

/-- The steps of the worker lead to the progress of its run. -/
theorem steps_workerSteps (report : Report) :
    Progress.initial.steps report.workerSteps = report.progress := by
  have hsteps (first second : List WorkerStep) (start : Progress) :
      start.steps (first ++ second) = (start.steps first).steps second := List.foldl_append
  unfold workerSteps progress status error?
  rw [hsteps]
  -- the first step sets the status, and the events follow
  show ((Progress.initial.step (.status .running)).steps (report.events.map .event)).steps _ = _
  rw [Progress.steps_events, show Progress.initial.step (.status .running)
    = ⟨.running, 0, [], [], none⟩ from rfl]
  dsimp only
  rw [Nat.zero_add, List.nil_append, List.nil_append]
  cases report.result <;> rfl

variable {report : Report}

/-- A run has failed just if something has stopped it. -/
theorem status_eq_failed_iff :
    report.status = .failed ↔ ∃ failure, report.result = .error failure := by
  unfold status
  cases report.result with
  | error failure => exact ⟨fun _ => ⟨failure, rfl⟩, fun _ => rfl⟩
  | ok result =>
    refine ⟨fun h => ?_, fun ⟨_, h⟩ => (nomatch h)⟩
    dsimp only at h
    split at h <;> cases h

/-- There is a message just if a run has failed. -/
theorem error?_ne_none_iff : report.error? ≠ none ↔ report.status = .failed := by
  rw [status_eq_failed_iff]
  unfold error?
  cases report.result with
  | error failure => exact ⟨fun _ => ⟨failure, rfl⟩, fun _ => Option.some_ne_none _⟩
  | ok result => exact ⟨fun h => absurd rfl h, fun ⟨_, h⟩ => (nomatch h)⟩

/-- A run has ended in one of three ways. -/
theorem status_mem (report : Report) : report.status ∈ [.done, .cancelled, .failed] := by
  unfold status
  cases report.result with
  | error failure => exact List.mem_cons_of_mem _ (List.mem_cons_of_mem _ List.mem_cons_self)
  | ok result =>
    dsimp only
    split
    · exact List.mem_cons_of_mem _ List.mem_cons_self
    · exact List.mem_cons_self

end Scanner.Report

/-! ## How a run ends -/

namespace Scanner

variable {scanner : Scanner} {cancel : CancelAfter}

/-- A run that gives a result was not stopped, and it is the result of its
events. -/
theorem result_eq_ok_iff {result : ScanResult} :
    (scanner.scan cancel).result = .ok result ↔ (scanner.course cancel).failure = none ∧
      result = .ofEvents scanner.config.root (scanner.scan cancel).events
        (requested cancel (scanner.scan cancel).events.length) := by
  rw [events_scan]
  unfold scan
  dsimp only
  cases (scanner.course cancel).failure with
  | none => exact ⟨fun h => ⟨rfl, (Except.ok.inj h).symm⟩, fun h => h.2 ▸ rfl⟩
  | some failure => exact ⟨fun h => (nomatch h), fun h => (nomatch h.1)⟩

/-- A run fails with what has stopped it. -/
theorem result_eq_error_iff {failure : ScanFailure} :
    (scanner.scan cancel).result = .error failure ↔
      (scanner.course cancel).failure = some failure := by
  unfold scan
  dsimp only
  cases (scanner.course cancel).failure with
  | none => exact ⟨fun h => (nomatch h), fun h => (nomatch h)⟩
  | some cause =>
    exact ⟨fun h => congrArg some (Except.error.inj h), fun h => Option.some.inj h ▸ rfl⟩

/-- **What has stopped a run, and what came before**: the walk, before any event;
or a file in which looking for functions fails, the first one of them, after the
events of the files before. -/
def StopsAt (scanner : Scanner) (events : List FileEvent) : ScanFailure → Prop
  | .walk error => scanner.files.walk scanner.config.root = .error error ∧ events = []
  | .functions cause => ∃ files v rest, scanner.visits = .ok (files ++ v :: rest) ∧
    scanner.Delivers files events ∧ (scanner.visit v).1 = .error cause

/-- **A run that nobody cancels is stopped** by the walk, or at the first file that
fails. -/
theorem stopsAt_of_result_eq_error {failure : ScanFailure}
    (h : (scanner.scan none).result = .error failure) :
    scanner.StopsAt (scanner.scan none).events failure := by
  have hfailure := result_eq_error_iff.mp h
  rw [events_scan]
  cases hvisits : scanner.visits with
  | error error =>
    rw [course_of_error hvisits] at hfailure ⊢
    cases hfailure
    exact ⟨visits_eq_error_iff.mp hvisits, rfl⟩
  | ok visits =>
    rw [course_none hvisits] at hfailure ⊢
    obtain ⟨events, hevents⟩ | ⟨before, v, after, events, cause, rfl, hevents, hcause⟩ :=
      scanner.exists_delivers visits
    · rw [courseOf_of_delivers hevents] at hfailure
      cases hfailure
    · rw [courseOf_append_of_error hevents hcause] at hfailure ⊢
      cases hfailure
      exact ⟨before, v, after, hvisits, hevents, hcause⟩

/-- **A run that is cancelled before it starts** gives a result, without events,
unless its walk is barred. -/
theorem scan_some_zero {visits : List Visit} (h : scanner.visits = .ok visits) :
    (scanner.scan (some 0)).result = .ok (.ofEvents scanner.config.root [] true) := by
  have hcourse := course_some_of_le h (Nat.zero_le (scanner.course none).events.length)
  refine result_eq_ok_iff.mpr ⟨by rw [hcourse], ?_⟩
  rw [events_scan, hcourse]
  rfl

end Scanner

/-! ## The states of a task -/

namespace ScanTask

open TaskOperation

variable {id : String} {scanner : Scanner} {streaming : Bool}

/-- **A task that is waiting** to be started. -/
def waiting (id : String) (scanner : Scanner) (streaming cancelled : Bool) : ScanTask :=
  { create id scanner streaming with cancelled }

/-- The run of a task that is started, and may have been cancelled before. -/
def runOf (scanner : Scanner) (cancelled : Bool) : Scanner.Report :=
  scanner.scan (if cancelled then some 0 else none)

/-- **A task that has ended**: it shows its run, and a streaming one holds the
events until they are taken. -/
def ended (id : String) (scanner : Scanner) (streaming : Bool) (run : Scanner.Report)
    (cancelled taken : Bool) : ScanTask where
  id
  scanner
  streaming
  cancelled
  outcome := some run.result
  progress := run.progress
  queue := if streaming && !taken then run.events.map some ++ [none] else []

theorem create_eq_waiting : create id scanner streaming = waiting id scanner streaming false := rfl

/-- Starting leads to the end of the run. -/
theorem perform_start_waiting (cancelled : Bool) :
    (waiting id scanner streaming cancelled).perform .start
      = ended id scanner streaming (runOf scanner cancelled) cancelled false := by
  show { waiting id scanner streaming cancelled with
    outcome := some (runOf scanner cancelled).result
    progress := Progress.initial.steps (runOf scanner cancelled).workerSteps
    queue := if streaming then [] ++ (runOf scanner cancelled).events.map some ++ [none]
      else [] } = _
  rw [Scanner.Report.steps_workerSteps]
  cases streaming <;> rfl

/-- Any other operation on a task that is waiting leaves it waiting. -/
theorem perform_waiting (cancelled : Bool) {operation : TaskOperation} (h : operation ≠ .start) :
    (waiting id scanner streaming cancelled).perform operation
      = waiting id scanner streaming (cancelled || TaskOperation.cancel == operation) := by
  cases operation with
  | start => exact absurd rfl h
  | results => cases streaming <;> cases cancelled <;> rfl
  | cancel => cases cancelled <;> rfl
  | _ => cases cancelled <;> rfl

/-- The events that are queued are taken up to the end mark. -/
theorem takeEvents?_map_some (events : List FileEvent) :
    takeEvents? (events.map some ++ [none]) = some (events, []) := by
  induction events with
  | nil => rfl
  | cons event events ih =>
    rw [List.map_cons, List.cons_append, takeEvents?, ih]
    rfl

/-- What an ended task gives when its events are taken: those of its run, once,
if it is a streaming task. -/
theorem takeResults_ended (run : Scanner.Report) (cancelled taken : Bool) :
    (ended id scanner streaming run cancelled taken).takeResults
      = (ended id scanner streaming run cancelled true,
          if streaming then if taken then .error .noEvent else .ok run.events
          else .error (.notStreaming id)) := by
  cases streaming with
  | false => cases taken <;> rfl
  | true =>
    cases taken with
    | true => rfl
    | false =>
      unfold takeResults
      rw [show (ended id scanner true run cancelled false).queue
        = run.events.map some ++ [none] from rfl, takeEvents?_map_some]
      rfl

/-- **An ended task shows its run for ever**: an operation can only cancel it
or take its events. -/
theorem perform_ended (run : Scanner.Report) (cancelled taken : Bool) (operation : TaskOperation) :
    (ended id scanner streaming run cancelled taken).perform operation
      = ended id scanner streaming run (cancelled || TaskOperation.cancel == operation)
          (taken || TaskOperation.results == operation) := by
  cases operation with
  | results =>
    rw [perform, takeResults_ended]
    show _ = ended id scanner streaming run (cancelled || false) (taken || true)
    rw [Bool.or_false, Bool.or_true]
  | cancel =>
    show { ended id scanner streaming run cancelled taken with cancelled := true }
      = ended id scanner streaming run (cancelled || true) (taken || false)
    rw [Bool.or_true, Bool.or_false]
    rfl
  | _ =>
    show ended id scanner streaming run cancelled taken
      = ended id scanner streaming run (cancelled || false) (taken || false)
    rw [Bool.or_false, Bool.or_false]

/-! ## Any number of operations -/

theorem performAll_cons (task : ScanTask) (operation : TaskOperation)
    (operations : List TaskOperation) :
    task.performAll (operation :: operations) = (task.perform operation).performAll operations :=
  rfl

theorem performAll_append (task : ScanTask) (first second : List TaskOperation) :
    task.performAll (first ++ second) = (task.performAll first).performAll second :=
  List.foldl_append

/-- **A task that nobody starts is waiting**, and cancelled if anybody wanted it
to be. -/
theorem performAll_waiting (cancelled : Bool) {operations : List TaskOperation}
    (h : .start ∉ operations) :
    (waiting id scanner streaming cancelled).performAll operations
      = waiting id scanner streaming (cancelled || operations.contains .cancel) := by
  induction operations generalizing cancelled with
  | nil => rw [List.contains_nil, Bool.or_false]; rfl
  | cons operation operations ih =>
    have hhead : operation ≠ .start := fun heq => h (heq ▸ List.mem_cons_self)
    have htail : .start ∉ operations := fun hmem => h (List.mem_cons_of_mem _ hmem)
    rw [performAll_cons, perform_waiting cancelled hhead, ih _ htail, List.contains_cons,
      Bool.or_assoc]

/-- **An ended task stays what it is**, up to the request to cancel and the
taking of its events. -/
theorem performAll_ended (run : Scanner.Report) (cancelled taken : Bool)
    (operations : List TaskOperation) :
    (ended id scanner streaming run cancelled taken).performAll operations
      = ended id scanner streaming run (cancelled || operations.contains .cancel)
          (taken || operations.contains .results) := by
  induction operations generalizing cancelled taken with
  | nil => rw [List.contains_nil, List.contains_nil, Bool.or_false, Bool.or_false]; rfl
  | cons operation operations ih =>
    rw [performAll_cons, perform_ended, ih, List.contains_cons, List.contains_cons, Bool.or_assoc,
      Bool.or_assoc]

/-- **A task that was started has ended**, with the run that its first start
began. -/
theorem performAll_start {before : List TaskOperation} (h : .start ∉ before)
    (after : List TaskOperation) :
    (create id scanner streaming).performAll (before ++ .start :: after)
      = ended id scanner streaming (runOf scanner (before.contains .cancel))
          (before.contains .cancel || after.contains .cancel) (after.contains .results) := by
  rw [create_eq_waiting, performAll_append, performAll_waiting false h, performAll_cons,
    perform_start_waiting, performAll_ended, Bool.false_or, Bool.false_or]

/-! ## What the owner sees -/

theorem wait_ended (run : Scanner.Report) (cancelled taken : Bool) :
    (ended id scanner streaming run cancelled taken).wait = run.result.mapError .stopped := by
  unfold wait ended
  cases run.result <;> rfl

/-- A run counts as cancelled just if it was cancelled before it started, and
nothing has stopped it. -/
theorem status_runOf_eq_cancelled_iff {cancelled : Bool} :
    (runOf scanner cancelled).status = .cancelled ↔
      cancelled = true ∧ ∃ result, (runOf scanner cancelled).result = .ok result := by
  unfold Scanner.Report.status
  cases hresult : (runOf scanner cancelled).result with
  | error failure => exact ⟨fun h => (nomatch h), fun ⟨_, _, h⟩ => (nomatch h)⟩
  | ok result =>
    -- whether the request was there before the start, it is there or not at the end
    obtain ⟨-, rfl⟩ := Scanner.result_eq_ok_iff.mp hresult
    cases cancelled with
    | true =>
      have hrequested : Scanner.requested (some 0) (scanner.scan (some 0)).events.length = true :=
        decide_eq_true (Nat.zero_le (scanner.scan (some 0)).events.length)
      exact iff_of_true (if_pos hrequested) ⟨rfl, _, rfl⟩
    | false => exact ⟨fun h => (nomatch h), fun h => (nomatch h.1)⟩

/-- **A run that was stopped**, cancelled or not, shows where. -/
theorem stopsAt_of_runOf_eq_error {cancelled : Bool} {failure : ScanFailure}
    (h : (runOf scanner cancelled).result = .error failure) :
    scanner.StopsAt (runOf scanner cancelled).events failure := by
  cases cancelled with
  | false => exact Scanner.stopsAt_of_result_eq_error h
  | true =>
    cases hvisits : scanner.visits with
    | ok visits =>
      have hresult : (runOf scanner true).result = _ := Scanner.scan_some_zero hvisits
      rw [hresult] at h
      cases h
    | error error =>
      have hcourse := Scanner.course_of_error hvisits (some 0)
      have hfailure : (scanner.course (some 0)).failure = some failure :=
        Scanner.result_eq_error_iff.mp h
      rw [hcourse] at hfailure
      cases hfailure
      refine ⟨Scanner.visits_eq_error_iff.mp hvisits, ?_⟩
      show (scanner.scan (some 0)).events = []
      rw [Scanner.events_scan, hcourse]

/-- **The life of a task.** Whatever is done with a task, and in whatever order,
it is pending until it is started. From the first start on it has ended, and
shows the one run that this start began: the number of its events, what they
have found, and its result or what has stopped it; if it was stopped, the
events are those of the files before, and none if the walk has stopped it. It
counts as cancelled if it was cancelled before the start and was not stopped.
Nothing that is done with it later changes any of this: another start is refused,
cancelling sets the flag and no more, and the events of a streaming task can be
taken once. -/
theorem performAll_lifecycle (id : String) (scanner : Scanner) (streaming : Bool)
    (operations : List TaskOperation) :
    let task := (create id scanner streaming).performAll operations
    (task.progress.status = .pending ↔ .start ∉ operations) ∧
    (task.cancelled = true ↔ .cancel ∈ operations) ∧
    (.start ∉ operations ∧ task.progress = .initial ∧ task.wait = .error (.neverStarted id) ∨
      ∃ before after, operations = before ++ .start :: after ∧ .start ∉ before ∧
        let run := scanner.scan (if .cancel ∈ before then some 0 else none)
        task.progress.status ∈ [.done, .cancelled, .failed] ∧
        task.progress.filesDone = run.events.length ∧
        task.progress.functions = run.events.flatMap (·.functions) ∧
        task.progress.skipped = run.events.filterMap (·.skipped) ∧
        (∀ result, run.result = .ok result → task.wait = .ok result ∧
          result.filesScanned = task.progress.filesDone ∧
          result.functions = task.progress.functions ∧
          result.skipped = task.progress.skipped) ∧
        (∀ failure, run.result = .error failure → task.wait = .error (.stopped failure) ∧
          task.progress.error = some failure.message ∧ scanner.StopsAt run.events failure) ∧
        (task.progress.error ≠ none ↔ task.progress.status = .failed) ∧
        (task.progress.status = .failed ↔ ∃ failure, run.result = .error failure) ∧
        (task.progress.status = .cancelled ↔ .cancel ∈ before ∧ ∃ result, run.result = .ok result) ∧
        (∀ later, (task.performAll later).progress = task.progress ∧
          (task.performAll later).wait = task.wait) ∧
        task.start = .error (.alreadyStarted id) ∧ task.perform .start = task ∧
        task.perform .cancel = { task with cancelled := true } ∧
        task.takeResults.2
          = if streaming then if .results ∈ after then .error .noEvent else .ok run.events
            else .error (.notStreaming id)) := by
  intro task
  by_cases hstart : .start ∈ operations
  · obtain ⟨before, after, rfl, hbefore⟩ := List.eq_append_cons_of_mem hstart
    have htask : task = _ := performAll_start hbefore after
    have hrun : runOf scanner (before.contains .cancel)
        = scanner.scan (if .cancel ∈ before then some 0 else none) := by
      simp only [runOf, List.contains_iff_mem]
    refine ⟨?_, ?_, Or.inr ⟨before, after, rfl, hbefore, ?_⟩⟩
    · refine ⟨fun h => ?_, fun h => absurd hstart h⟩
      have hmem := (runOf scanner (before.contains .cancel)).status_mem
      rw [htask] at h
      rw [show (runOf scanner (before.contains .cancel)).status = .pending from h] at hmem
      exact absurd hmem (by decide)
    · rw [htask]
      show (before.contains .cancel || after.contains .cancel) = true ↔ _
      rw [Bool.or_eq_true, List.contains_iff_mem, List.contains_iff_mem, List.mem_append,
        List.mem_cons]
      exact or_congr_right (or_iff_right fun h => (nomatch h)).symm
    · rw [← hrun]
      clear_value task
      subst htask
      refine ⟨Scanner.Report.status_mem _, rfl, rfl, rfl, fun result hresult => ?_,
        fun failure hfailure => ?_, Scanner.Report.error?_ne_none_iff,
        Scanner.Report.status_eq_failed_iff, ?_, fun later => ?_, rfl, rfl, rfl, ?_⟩
      · obtain ⟨-, hfields⟩ := Scanner.result_eq_ok_iff.mp hresult
        rw [wait_ended, hresult, hfields]
        exact ⟨rfl, rfl, rfl, rfl⟩
      · refine ⟨?_, ?_, stopsAt_of_runOf_eq_error hfailure⟩
        · rw [wait_ended, hfailure]
          rfl
        · show (runOf scanner (before.contains .cancel)).error? = _
          rw [Scanner.Report.error?, hfailure]
      · rw [← List.contains_iff_mem]
        exact status_runOf_eq_cancelled_iff
      · rw [performAll_ended, wait_ended, wait_ended]
        exact ⟨rfl, rfl⟩
      · rw [takeResults_ended]
        simp only [List.contains_iff_mem]
  · have htask : task = _ := performAll_waiting false hstart
    have hcancelled : task.cancelled = true ↔ .cancel ∈ operations := by
      rw [htask, Bool.false_or]
      exact List.contains_iff_mem
    rw [htask] at hcancelled ⊢
    exact ⟨⟨fun _ => hstart, fun _ => rfl⟩, hcancelled, Or.inl ⟨hstart, rfl, rfl⟩⟩

/-- A streaming task whose run is stopped at the second file: waiting fails every
time, and the event of the first file can be taken. -/
theorem stumbling_lifecycle :
    let task :=
      (create "id" Scanner.stumbling true).performAll [.wait, .start, .cancel, .wait, .start]
    task.progress.status = .failed ∧ task.wait = .error (.stopped (.functions ⟨0⟩)) ∧
      task.takeResults.2 = .ok [⟨⟨.relative, ["p", "a"]⟩, none, [], none⟩] := by
  intro task
  obtain ⟨-, -, ⟨hstart, -⟩ | ⟨before, after, heq, hbefore, -, -, -, -, -, hfailed, -, hstatus, -,
    -, -, -, -, htaken⟩⟩ := performAll_lifecycle "id" Scanner.stumbling true
      [.wait, .start, .cancel, .wait, .start]
  · exact absurd (List.mem_cons_of_mem _ List.mem_cons_self) hstart
  · -- the first start is the second operation
    obtain ⟨rfl, rfl⟩ : before = [.wait] ∧ after = [.cancel, .wait, .start] := by
      match before, heq with
      | [_], rfl => exact ⟨rfl, rfl⟩
      | _ :: _ :: _, heq =>
        obtain ⟨-, h⟩ := List.cons.inj heq
        obtain ⟨rfl, -⟩ := List.cons.inj h
        exact absurd (List.mem_cons_of_mem _ List.mem_cons_self) hbefore
    obtain ⟨notices, hcourse⟩ := Scanner.course_stumbling
    have hresult : (Scanner.stumbling.scan none).result = .error (.functions ⟨0⟩) :=
      Scanner.result_eq_error_iff.mpr (by rw [hcourse])
    have hevents : (Scanner.stumbling.scan none).events
        = [⟨⟨.relative, ["p", "a"]⟩, none, [], none⟩] := by
      rw [Scanner.events_scan, hcourse]
    refine ⟨hstatus.mpr ⟨_, hresult⟩, (hfailed _ hresult).1, ?_⟩
    rw [htaken, ← hevents]
    rfl

end ScanTask

end SourceLens
