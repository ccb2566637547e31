import SourceLens.Scan.Task

/-!
# What an owner does with a task

The owner of a task starts and cancels it, waits for its result, takes its
events and looks at its progress, in any order and as often as wanted. Only
starting, cancelling and taking the events change the task, and an operation
that is refused changes nothing.
-/

namespace SourceLens

/-- **An operation on a task.** -/
inductive TaskOperation where
  | start
  | cancel
  /-- Takes the events up to the end mark. -/
  | results
  | wait
  | status
  | functions
  | skipped
  | filesDone
  | error
  deriving DecidableEq, Repr

namespace ScanTask

/-- The task after an operation. -/
def perform (task : ScanTask) : TaskOperation → ScanTask
  | .start =>
    match task.start with
    | .ok (started, _) => started
    | .error _ => task
  | .cancel => task.cancel
  | .results => task.takeResults.1
  | .wait | .status | .functions | .skipped | .filesDone | .error => task

/-- **The task after some operations**, one after the other. -/
def performAll (task : ScanTask) (operations : List TaskOperation) : ScanTask :=
  operations.foldl perform task

end ScanTask

end SourceLens
