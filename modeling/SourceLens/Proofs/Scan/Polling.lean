import Mathlib
import SourceLens.Api.Service
import SourceLens.Proofs.Scan.Lifecycle

/-!
# Polling a task while it runs

A poll reads one part of the progress after the other, and the worker may take
any number of steps between two readings (`PollMoments`). The last step of the
worker is the one that ends the task, and it is the only one that does
(`Scanner.Report.progressAfter_of_status`), so whatever is read after a status
that says so is final. The functions are read before the status. What they miss
is told by the events that come after their reading
(`Scanner.Report.statusMembers_pollAt`), and a poll that says that the scan is
over may show none of the functions (`Scanner.not_forall_pollAt_eq`); the next
poll shows them all.
-/

namespace SourceLens

/-- **The moments of a poll**: how many steps the worker has taken at each
reading, in the order of reading. -/
structure PollMoments where
  functions : Nat
  status : Nat
  filesDone : Nat
  error : Nat
  skipped : Nat
  functions_le_status : functions ≤ status
  status_le_filesDone : status ≤ filesDone
  filesDone_le_error : filesDone ≤ error
  error_le_skipped : error ≤ skipped

/-- The functions that a step brings. -/
def WorkerStep.functions : WorkerStep → List ExtractedFunction
  | .event found => found.functions
  | .status _ | .error _ => []

namespace Progress

/-- Each step appends the functions that it brings. -/
theorem functions_step (progress : Progress) (step : WorkerStep) :
    (progress.step step).functions = progress.functions ++ step.functions := by
  cases step with
  | event event => rfl
  | status status => exact (List.append_nil _).symm
  | error message => exact (List.append_nil _).symm

/-- Steps append the functions that they bring. -/
theorem functions_steps (progress : Progress) (steps : List WorkerStep) :
    (progress.steps steps).functions = progress.functions ++ steps.flatMap (·.functions) := by
  induction steps generalizing progress with
  | nil => exact (List.append_nil _).symm
  | cons step steps ih =>
    show ((progress.step step).steps steps).functions = _
    rw [ih, functions_step, List.flatMap_cons, List.append_assoc]

/-- Steps that do not set a status of some kind do not lead to it. -/
theorem status_steps_notMem {progress : Progress} {steps : List WorkerStep}
    {statuses : List TaskStatus} (h : progress.status ∉ statuses)
    (hsteps : ∀ status ∈ statuses, .status status ∉ steps) :
    (progress.steps steps).status ∉ statuses := by
  induction steps generalizing progress with
  | nil => exact h
  | cons step steps ih =>
    refine @ih (progress.step step) ?_ fun status hstatus hmem =>
      hsteps status hstatus (List.mem_cons_of_mem _ hmem)
    cases step with
    | event event => exact h
    | error message => exact h
    | status status => exact fun hmem => hsteps status hmem List.mem_cons_self

end Progress

namespace Scanner.Report

/-- The statuses of a task that is over. -/
def endings : List TaskStatus := [.done, .cancelled, .failed]

/-- **What can be seen of a run** after the first steps of its worker. -/
def progressAfter (run : Report) (count : Nat) : Progress :=
  Progress.initial.steps (run.workerSteps.take count)

/-- **What a poll of a run tells** that is made at some moments. -/
def pollAt (run : Report) (moments : PollMoments) : Poll :=
  .ofMoments (run.progressAfter moments.functions) (run.progressAfter moments.status)
    (run.progressAfter moments.filesDone) (run.progressAfter moments.error)
    (run.progressAfter moments.skipped)

/-- The steps of the worker before the one that ends the task. -/
def earlierSteps (run : Report) : List WorkerStep :=
  .status .running :: run.events.map .event ++ run.error?.toList.map .error

/-- The last step tells how the run has ended. -/
theorem workerSteps_eq (run : Report) :
    run.workerSteps = run.earlierSteps ++ [.status run.status] := by
  unfold workerSteps earlierSteps status error?
  cases run.result with
  | ok result =>
    rw [Option.toList_none, List.map_nil, List.append_nil]
  | error failure =>
    rw [List.append_assoc]
    rfl

/-- No earlier step ends the task. -/
theorem notMem_earlierSteps (run : Report) {status : TaskStatus} (h : status ∈ endings) :
    WorkerStep.status status ∉ run.earlierSteps := by
  intro hmem
  obtain hmem | hmem := List.mem_append.mp hmem
  · obtain hrunning | hmem := List.mem_cons.mp hmem
    · cases hrunning
      exact absurd h (by decide)
    · obtain ⟨event, -, hevent⟩ := List.mem_map.mp hmem
      cases hevent
  · obtain ⟨message, -, hmessage⟩ := List.mem_map.mp hmem
    cases hmessage

variable {run : Report} {count : Nat}

theorem progressAfter_of_le (h : run.workerSteps.length ≤ count) :
    run.progressAfter count = run.progress := by
  rw [progressAfter, List.take_of_length_le h, steps_workerSteps]

/-- **A status that says that the task is over** is seen only after all
steps. -/
theorem length_le_of_status (h : (run.progressAfter count).status ∈ endings) :
    run.workerSteps.length ≤ count := by
  by_contra hlt
  have hle : count ≤ run.earlierSteps.length := by
    rw [workerSteps_eq, List.length_append, List.length_singleton] at hlt
    omega
  have htake : run.workerSteps.take count = run.earlierSteps.take count := by
    rw [workerSteps_eq, List.take_append_of_le_length hle]
  rw [progressAfter, htake] at h
  refine Progress.status_steps_notMem (by decide) (fun status hstatus hmem => ?_) h
  exact run.notMem_earlierSteps hstatus (List.mem_of_mem_take hmem)

/-- What is seen from then on is final. -/
theorem progressAfter_of_status (h : (run.progressAfter count).status ∈ endings) {later : Nat}
    (hle : count ≤ later) : run.progressAfter later = run.progress :=
  progressAfter_of_le ((length_le_of_status h).trans hle)

/-- The functions that are seen are those of the events so far: the first step
is none of them. -/
theorem functions_progressAfter (run : Report) (count : Nat) :
    (run.progressAfter count).functions
      = (run.events.take (count - 1)).flatMap (·.functions) := by
  have hevents (events : List FileEvent) :
      (events.map WorkerStep.event).flatMap (·.functions) = events.flatMap (·.functions) := by
    rw [List.flatMap_map]
    rfl
  have hrest : ∀ step ∈ run.error?.toList.map WorkerStep.error ++ [.status run.status],
      step.functions = [] := by
    intro step hmem
    obtain hmem | hmem := List.mem_append.mp hmem
    · obtain ⟨message, -, rfl⟩ := List.mem_map.mp hmem
      rfl
    · rw [List.mem_singleton.mp hmem]
      rfl
  have hnone {steps : List WorkerStep} (h : ∀ step ∈ steps, step.functions = []) :
      steps.flatMap (·.functions) = [] := List.flatMap_eq_nil_iff.mpr h
  rw [progressAfter, Progress.functions_steps]
  show [] ++ _ = _
  rw [List.nil_append]
  cases count with
  | zero => rfl
  | succ count =>
    rw [workerSteps_eq, earlierSteps, List.append_assoc, List.cons_append, List.take_succ_cons,
      List.flatMap_cons, List.take_append, List.flatMap_append, ← List.map_take, hevents,
      hnone fun step hmem => hrest step (List.mem_of_mem_take hmem), List.append_nil]
    rfl

/-- The functions that are seen, and those that are still to come, are all. -/
theorem functions_progressAfter_append (run : Report) (count : Nat) :
    (run.progressAfter count).functions
        ++ (run.events.drop (count - 1)).flatMap (·.functions)
      = run.progress.functions := by
  rw [functions_progressAfter, ← List.flatMap_append, List.take_append_drop]
  rfl

/-- **A poll that says that a scan is over**, up to its functions. -/
theorem pollAt_eq_of_status {moments : PollMoments} (h : (run.pollAt moments).status ∈ endings) :
    run.pollAt moments = { Poll.ofProgress run.progress with
      functions := (run.progressAfter moments.functions).functions } := by
  have hfilesDone := moments.status_le_filesDone
  have herror := hfilesDone.trans moments.filesDone_le_error
  have hskipped := herror.trans moments.error_le_skipped
  unfold pollAt
  rw [progressAfter_of_status h (Nat.le_refl _), progressAfter_of_status h hfilesDone,
    progressAfter_of_status h herror, progressAfter_of_status h hskipped]
  rfl

end Scanner.Report

/-- The number of functions is told by an answer. -/
theorem Api.length_eq_of_statusMembers {scan : StartedScan} {first second : Poll}
    (h : statusMembers scan first = statusMembers scan second) :
    first.functions.length = second.functions.length := by
  have hcount : some ("count", Json.int first.functions.length)
      = some ("count", Json.int second.functions.length) := congrArg (·[7]?) h
  injection hcount with hcount
  injection hcount with _ hcount
  injection hcount with hcount
  exact Int.ofNat.inj hcount

namespace Scanner.Report

/-- **What a poll is worth that says that a scan is over.** Whatever the worker
does between the readings, status, number of files, error and skipped files are
final, and the functions are the first of those that the scan has found. The
answer is the final one just if the events after the reading of the functions
bring no more of them, so it is if all events came before; and any answer that
is asked for afterwards is final. -/
theorem statusMembers_pollAt (scanner : Scanner) (cancel : CancelAfter) (moments : PollMoments)
    (h : ((scanner.scan cancel).pollAt moments).status ∈ [.done, .cancelled, .failed]) :
    let run := scanner.scan cancel
    let poll := run.pollAt moments
    let final := Poll.ofProgress (Progress.initial.steps run.workerSteps)
    (poll.status = final.status ∧ poll.filesDone = final.filesDone ∧ poll.error = final.error ∧
      poll.skipped = final.skipped) ∧
    poll.functions <+: final.functions ∧
    (∀ scan : Api.StartedScan, Api.statusMembers scan poll = Api.statusMembers scan final ↔
      ∀ event ∈ run.events.drop (moments.functions - 1), event.functions = []) ∧
    (run.events.length < moments.functions → poll = final) ∧
    ∀ later : PollMoments, moments.skipped ≤ later.functions → run.pollAt later = final := by
  intro run poll final
  have hfinal : final = Poll.ofProgress run.progress :=
    congrArg Poll.ofProgress run.steps_workerSteps
  have hpoll : poll = { final with
      functions := (run.progressAfter moments.functions).functions } := by
    rw [hfinal]
    exact pollAt_eq_of_status h
  have happend : poll.functions ++ (run.events.drop (moments.functions - 1)).flatMap (·.functions)
      = final.functions := by
    rw [hfinal]
    exact run.functions_progressAfter_append moments.functions
  have hrest (hnone : ∀ event ∈ run.events.drop (moments.functions - 1), event.functions = []) :
      poll = final := by
    have hfunctions : (run.progressAfter moments.functions).functions = final.functions := by
      rw [← happend, List.flatMap_eq_nil_iff.mpr hnone, List.append_nil]
      rfl
    rw [hpoll, hfunctions]
  refine ⟨by rw [hpoll]; exact ⟨rfl, rfl, rfl, rfl⟩, ⟨_, happend⟩, fun scan => ⟨fun heq => ?_,
    fun hnone => by rw [hrest hnone]⟩, fun hlt => hrest ?_, fun later hle => ?_⟩
  · have hlength : poll.functions.length = final.functions.length :=
      Api.length_eq_of_statusMembers heq
    have hsum := congrArg List.length happend
    rw [List.length_append] at hsum
    have hnil : (run.events.drop (moments.functions - 1)).flatMap (·.functions) = [] :=
      List.eq_nil_of_length_eq_zero (by omega)
    exact List.flatMap_eq_nil_iff.mp hnil
  · rw [List.drop_of_length_le (by omega)]
    exact fun event hmem => (nomatch hmem)
  · have hle : moments.status ≤ later.functions :=
      moments.status_le_filesDone.trans (moments.filesDone_le_error.trans
        (moments.error_le_skipped.trans hle))
    have hstatus := hle.trans later.functions_le_status
    have hover : (run.pollAt later).status ∈ endings := by
      show (run.progressAfter later.status).status ∈ endings
      rw [progressAfter_of_status h hstatus]
      exact run.status_mem
    rw [pollAt_eq_of_status hover, progressAfter_of_status h hle, hfinal]
    rfl

end Scanner.Report

namespace Scanner

/-- A folder with a file in Python that has one function. -/
def oneFunction : Scanner where
  files := ⟨.folder [("p", .folder [("b.py", .file ⟨"def f(): 1".toUTF8.data⟩)])], [], .empty⟩
  config := { root := ⟨.relative, ["p"]⟩, skipPatterns := [] }
  registry := .builtin

/-- What happens with its file. -/
def oneFunctionEvent : FileEvent where
  path := ⟨.relative, ["p", "b.py"]⟩
  language := some "python"
  functions := [⟨"p", "b.py", "python", "f", "def f(): 1", ⟨.relative, ["p", "b.py"]⟩, ".py"⟩]
  skipped := none

theorem visits_oneFunction :
    oneFunction.visits = .ok [⟨⟨.relative, ["p", "b.py"]⟩, none⟩] := by
  have hwalk : oneFunction.files.walk oneFunction.config.root
      = .ok (oneFunction.files.namesBelow oneFunction.config.root) := rfl
  have hnames : oneFunction.files.namesBelow oneFunction.config.root = [["b.py"]] :=
    List.mergeSort_singleton _
  rw [visits, hwalk, hnames]
  rfl

theorem visit_oneFunction : oneFunction.visit ⟨⟨.relative, ["p", "b.py"]⟩, none⟩
    = (.ok oneFunctionEvent, []) := by
  cbv

theorem scan_oneFunction : oneFunction.scan none
    = ⟨.ok ⟨⟨.relative, ["p"]⟩, oneFunctionEvent.functions, [], 1, false⟩, [oneFunctionEvent],
        [.scanning ⟨.relative, ["p"]⟩, .scanned 1 ⟨.relative, ["p"]⟩ 1 0]⟩ := by
  unfold scan
  rw [course_of_visits visits_oneFunction]
  unfold courseFrom
  rw [visit_oneFunction]
  rfl

/-- The poll that reads the functions before the worker starts, and all else
after it has ended. -/
def hastyPoll : PollMoments := ⟨0, 3, 3, 3, 3, by decide, by decide, by decide, by decide⟩

theorem status_hastyPoll : ((oneFunction.scan none).pollAt hastyPoll).status = .done := by
  rw [scan_oneFunction]
  rfl

/-- It shows that the one file is done. -/
theorem filesDone_hastyPoll :
    ((oneFunction.scan none).pollAt hastyPoll).status ∈ [.done, .cancelled, .failed] ∧
      ((oneFunction.scan none).pollAt hastyPoll).filesDone = 1 := by
  have hmem : ((oneFunction.scan none).pollAt hastyPoll).status ∈ [.done, .cancelled, .failed] :=
    status_hastyPoll ▸ List.mem_cons_self
  obtain ⟨⟨-, hfiles, -⟩, -⟩ := Report.statusMembers_pollAt oneFunction none hastyPoll hmem
  refine ⟨hmem, ?_⟩
  rw [hfiles, Report.steps_workerSteps, scan_oneFunction]
  rfl

/-- **A poll that says that a scan is done may have missed a function.** -/
theorem not_forall_pollAt_eq :
    ¬ ∀ (scanner : Scanner) (cancel : CancelAfter) (moments : PollMoments) (scan : Api.StartedScan),
      let run := scanner.scan cancel
      (run.pollAt moments).status ∈ [.done, .cancelled, .failed] →
        Api.statusMembers scan (run.pollAt moments)
          = Api.statusMembers scan (.ofProgress (Progress.initial.steps run.workerSteps)) := by
  intro h
  have heq := h oneFunction none hastyPoll ⟨ScanTask.create "" oneFunction false, ""⟩
    (status_hastyPoll ▸ List.mem_cons_self)
  have hlength : 0 = _ := Api.length_eq_of_statusMembers heq
  rw [Report.steps_workerSteps] at hlength
  rw [scan_oneFunction] at hlength
  cases hlength

end Scanner

end SourceLens
