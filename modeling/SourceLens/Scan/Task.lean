import SourceLens.Scan.Scanner

/-!
# Scans as tasks

A task runs one scan beside its owner. The worker reports its progress in
steps, each of which changes what the owner can see at once: the number of
files, the functions and the skipped files so far, the status and the error. A
streaming task also queues every event, and an end mark after the last.
-/

namespace SourceLens

/-- Where a task stands. -/
inductive TaskStatus where
  | pending
  | running
  | done
  | cancelled
  | failed
  deriving DecidableEq, Repr

/-- The name of a status. -/
def TaskStatus.name : TaskStatus → String
  | .pending => "pending"
  | .running => "running"
  | .done => "done"
  | .cancelled => "cancelled"
  | .failed => "failed"

/-- **What the owner of a task can see** at a moment. -/
structure Progress where
  status : TaskStatus
  filesDone : Nat
  functions : List ExtractedFunction
  skipped : List SkippedFile
  error : Option String
  deriving DecidableEq, Repr

/-- A step of the worker. -/
inductive WorkerStep where
  /-- The status changes. -/
  | status (status : TaskStatus)
  /-- A file has been scanned. -/
  | event (event : FileEvent)
  /-- The scan has been stopped by an error. -/
  | error (message : String)
  deriving DecidableEq, Repr

namespace Progress

/-- Before the first step. -/
def initial : Progress :=
  ⟨.pending, 0, [], [], none⟩

/-- **One step**, which the owner sees as a whole or not at all. -/
def step (progress : Progress) : WorkerStep → Progress
  | .status status => { progress with status }
  | .event event =>
    { progress with
      filesDone := progress.filesDone + 1
      functions := progress.functions ++ event.functions
      skipped := progress.skipped ++ event.skipped.toList }
  | .error message => { progress with error := some message }

/-- Several steps in order. -/
def steps (progress : Progress) (steps : List WorkerStep) : Progress :=
  steps.foldl step progress

end Progress

namespace Scanner.Report

/-- **The steps of the worker** that runs a scan. -/
def workerSteps (report : Report) : List WorkerStep :=
  .status .running :: report.events.map .event ++
    match report.result with
    | .ok result => [.status (if result.cancelled then .cancelled else .done)]
    | .error failure => [.error failure.message, .status .failed]

end Scanner.Report

/-- Why an operation on a task is refused. -/
inductive TaskError where
  | alreadyStarted (id : String)
  | neverStarted (id : String)
  | notStreaming (id : String)
  /-- No event has come in time. -/
  | noEvent
  /-- The scan was stopped. -/
  | stopped (cause : ScanFailure)
  deriving DecidableEq, Repr

/-- What an error says. -/
def TaskError.message : TaskError → String
  | .alreadyStarted id => "Scan " ++ id ++ " already started"
  | .neverStarted id => "Scan " ++ id ++ " was never started"
  | .notStreaming id => "Scan " ++ id ++ " was not started with stream=True"
  | .noEvent => ""
  | .stopped cause => cause.message

/-- **A task.** A started task has run to its end. -/
structure ScanTask where
  id : String
  scanner : Scanner
  streaming : Bool
  cancelled : Bool
  /-- How the scan has ended, once it was started. -/
  outcome : Option (Except ScanFailure ScanResult)
  progress : Progress
  /-- The events that nobody has taken; `none` is the end mark. -/
  queue : List (Option FileEvent)

namespace ScanTask

/-- The number of characters of the id of a task. -/
def idLength : Nat := 12

/-- A new task. -/
def create (id : String) (scanner : Scanner) (streaming : Bool) : ScanTask where
  id
  scanner
  streaming
  cancelled := false
  outcome := none
  progress := .initial
  queue := []

/-- The scan has ended. -/
def isDone (task : ScanTask) : Bool :=
  task.outcome.isSome

/-- Requests to cancel the scan. -/
def cancel (task : ScanTask) : ScanTask :=
  { task with cancelled := true }

/-- When the scan of a task is cancelled: before its first file or not at
all. -/
def cancelAfter (task : ScanTask) : Scanner.CancelAfter :=
  if task.cancelled then some 0 else none

/-- **Starts the scan** and runs it to its end. A task is started once. -/
def start (task : ScanTask) : Except TaskError (ScanTask × List Notice) :=
  if task.isDone then .error (.alreadyStarted task.id)
  else
    let report := task.scanner.scan task.cancelAfter
    let failed := match report.result with
      | .ok _ => []
      | .error _ => [Notice.scanFailed task.id]
    .ok ({ task with
      outcome := some report.result
      progress := task.progress.steps report.workerSteps
      queue := if task.streaming then task.queue ++ report.events.map some ++ [none] else [] },
      report.notices ++ failed)

/-- **The result of the scan**, or what has stopped it. -/
def wait (task : ScanTask) : Except TaskError ScanResult :=
  match task.outcome with
  | none => .error (.neverStarted task.id)
  | some (.ok result) => .ok result
  | some (.error cause) => .error (.stopped cause)

/-- The events up to an end mark and what follows it, if there is one. -/
def takeEvents? : List (Option FileEvent) → Option (List FileEvent × List (Option FileEvent))
  | [] => none
  | none :: rest => some ([], rest)
  | some event :: rest => (takeEvents? rest).map fun (events, rest) => (event :: events, rest)

/-- **Takes the events** of a streaming task up to the end mark. Where there is
no end mark, what is queued is lost. -/
def takeResults (task : ScanTask) : ScanTask × Except TaskError (List FileEvent) :=
  if !task.streaming then (task, .error (.notStreaming task.id))
  else
    match takeEvents? task.queue with
    | some (events, rest) => ({ task with queue := rest }, .ok events)
    | none => ({ task with queue := [] }, .error .noEvent)

end ScanTask

end SourceLens
