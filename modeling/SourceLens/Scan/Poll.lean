import SourceLens.Scan.Task

/-!
# Polling a task

An owner who polls a task reads one part of its progress after the other, and
the worker may take steps in between.
-/

namespace SourceLens

/-- **What a poll tells**, in the order in which it is read. -/
structure Poll where
  functions : List ExtractedFunction
  status : TaskStatus
  filesDone : Nat
  error : Option String
  skipped : List SkippedFile
  deriving DecidableEq, Repr

namespace Poll

/-- **The poll** that reads each part at a moment of its own: the progress at
the time of each reading, in the order of reading. -/
def ofMoments (functions status filesDone error skipped : Progress) : Poll where
  functions := functions.functions
  status := status.status
  filesDone := filesDone.filesDone
  error := error.error
  skipped := skipped.skipped

/-- The poll of a task that takes no step meanwhile. -/
def ofProgress (progress : Progress) : Poll :=
  ofMoments progress progress progress progress progress

end Poll

end SourceLens
